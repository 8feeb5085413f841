import TexMend.Failure
import TexMend.Value.Basic

/-!
# Providers of text

A provider is known by the name of its model and by what it answers to the calls that are still to come.
A call gives a value, which need not be a text, or raises a failure, or gives nothing in any time.
-/

namespace TexMend.Assist

/-- What one call gives. -/
inductive Reply where
  | value (v : Value)
  | raised (e : Raised)
  /-- No answer ever comes; the call ends when it is broken off. -/
  | silence
  /-- No answer ever comes, and the call does not end when it is broken off. -/
  | stuck

/-- A text service as one user of it sees it. -/
structure Provider where
  /-- The name of the model; asking for it may fail. -/
  model : Except Raised Text
  /-- The answers to the calls to come, in order. -/
  replies : List Reply

namespace Provider

/-- What happens when no answer is left. -/
def exhausted : Reply := .raised (.worded (.runtime "no reply"))

/-- One call: its answer, and the provider afterwards. -/
def call (p : Provider) : Reply × Provider :=
  match p.replies with
  | [] => (exhausted, p)
  | reply :: rest => (reply, { p with replies := rest })

end Provider

end TexMend.Assist
