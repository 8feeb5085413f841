import TexMend.Assist.Cleaning
import TexMend.Assist.Prompt
import TexMend.Assist.Timeout
import TexMend.Repair.Suggestion
import TexMend.Secret.Redactor

/-!
# The assistant

The assistant asks a provider to mend a line that no rule mends. A failure on the way is told to the journal,
and the answer is then "no suggestion". What is sent has every secret masked.
-/

namespace TexMend.Assist

open Secret (Redactor)

/-- How the assistant asks. -/
structure Assistant where
  timeout : Number := .decimal 300 1
  /-- Lines of the document on each side of the line in question. -/
  contextLines : Int := 5
  redactor : Redactor := .standard

/-- How asking ends. -/
inductive Upshot where
  | answered (suggestion : Option Suggestion)
  /-- A failure comes out. -/
  | raised (e : Raised)
  /-- There is no end. -/
  | endless

/-- The suggestion, if there is one. -/
def Upshot.suggestion? : Upshot → Option Suggestion
  | .answered suggestion => suggestion
  | _ => none

/-- The result of asking once: how it ends, what was sent, what is told about it, and the provider
afterwards. -/
structure Consultation where
  upshot : Upshot
  sent : List Text
  events : List Event
  provider : Provider

/-- The suggestion that asking comes to. -/
def Consultation.suggestion (c : Consultation) : Option Suggestion :=
  c.upshot.suggestion?

/-- The confidence of a suggestion by a text service. -/
def replyConfidence : Number := .decimal 5 1

/-- The first line of a reply without its frames. -/
def firstLine (reply : Text) : Text :=
  (clean reply).takeWhile (· != '\n')

/-- The suggestion to put a line in the place of the one in question. -/
def replacement (r : Record) (lines : Document) (new : Text) : Suggestion where
  errorId := r.id
  description := "AI fix: " ++ r.message
  origin := .ai
  edit :=
    { action := .replaceLine, line := max 1 r.targetLine, newText := some new
      originalText := lineAt? lines r.targetLine, line_pos := by omega }
  confidence := replyConfidence

/-- What a reply that came in time suggests. -/
def ofReply (r : Record) (lines : Document) (reply : Value) : Option Suggestion × List Event :=
  match reply with
  | .text t =>
    let line := firstLine t
    if line.all Text.isBlank then (none, [.replyEmpty r.id])
    else (some (replacement r lines line), [.aiFixProposed r.id r.targetLine])
  | _ => (none, [.replyNotText r.id])

namespace Assistant

/-- The message of a call that takes too long, unless the time has too many digits to be written. -/
def timeoutMessage? (a : Assistant) : Option Text :=
  a.timeout.write?.map fun time => "AI fix timed out after " ++ time ++ "s"

/-- A failure leaves no suggestion, and the journal tells what the failure says. One that cannot say what it
is lets that come out which asking raises. -/
def failed (p : Provider) (r : Record) (sent : List Text) (told : List Event) (e : Raised) : Consultation :=
  match e.said with
  | .ok failure => ⟨.answered none, sent, told ++ [.aiFixFailed r.id failure], p⟩
  | .error met => ⟨.raised met, sent, told, p⟩

/-- What waiting for a call came to, with what was sent and what is told about it. -/
def conclude (p : Provider) (r : Record) (lines : Document) (sent : List Text) :
    Awaited × List Event → Consultation
  | (.value value, told) =>
    let (suggestion, more) := ofReply r lines value
    ⟨.answered suggestion, sent, told ++ more, p⟩
  | (.raised e, told) => failed p r sent told e
  | (.endless, told) => ⟨.endless, sent, told, p⟩

/-- Send a masked prompt and see what comes back. Without any time, nothing is sent. -/
def send (a : Assistant) (p : Provider) (r : Record) (lines : Document) (masked : Text) :
    Consultation :=
  match a.timeoutMessage? with
  | none => failed p r [] [] (.worded .tooManyDigits)
  | some message =>
    if startsCall a.timeout then
      let (reply, later) := p.call
      conclude later r lines [masked] (within a.timeout (some message) reply)
    else conclude p r lines [] (within a.timeout (some message) .silence)

/-- Ask a provider to mend the line of a record. -/
def consult (a : Assistant) (p : Provider) (r : Record) (lines : Document) : Consultation :=
  match p.model with
  | .error e => failed p r [] [] e
  | .ok model =>
    match question? a.contextLines r lines with
    | none => failed p r [] [.requestStarted r.id model] (.worded .tooManyDigits)
    | some question =>
      let found := a.redactor.detect question
      let start := .requestStarted r.id model ::
        (if found.isEmpty then [] else [.promptRedacted r.id found])
      match a.redactor.redact question with
      | .error failure => failed p r [] (start ++ [.redactionFailed]) (.worded failure)
      | .ok masked =>
        let c := a.send p r lines masked
        { c with events := start ++ c.events }

end Assistant

end TexMend.Assist
