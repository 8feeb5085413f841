import TexMend.Assist.Provider
import TexMend.Journal.Event

/-!
# Calls within a time budget

A call that does not answer is broken off when its budget is over, and a clock that runs out below counts as
this one. A budget of nothing is over before the call is made, and with one that is too large for the clock
the call is not made either. An infinite budget is never over.
-/

namespace TexMend.Assist

/-- What waiting for a call comes to. -/
inductive Awaited where
  | value (v : Value)
  | raised (e : Raised)
  /-- The call does not end, and the waiting does not either. -/
  | endless

/-- Is there any time at all? What is not a number counts as some. -/
def hasTime (budget : Number) : Bool :=
  !budget.le (.int 0)

/-- Can the clock, which counts in floating-point numbers, be set to the budget? -/
def fitsClock : Number → Bool
  | .int n => (Double.ofInt n).isFinite
  | .real _ => true

/-- Is the budget never over? -/
def isEndless : Number → Bool
  | .real (.infinite negative) => !negative
  | _ => false

/-- The failure of a budget that the clock cannot be set to. -/
def clockFailure : Failure := .overflow "int too large to convert to float"

/-- Is a call made at all? -/
def startsCall (budget : Number) : Bool :=
  hasTime budget && fitsClock budget

/-- The failure of a call that took too long. An empty message counts as none. -/
def timeoutFailure (budget : Number) (message : Option Text) : Failure :=
  let standard : Text := "Timed out after " ++ budget.text ++ "s"
  .timeout (match message with
    | some m => if m.isEmpty then standard else m
    | none => standard)

/-- The end of a call that took too long, with what is told about it. -/
def timedOut (budget : Number) (message : Option Text) : Awaited × List Event :=
  (.raised (.worded (timeoutFailure budget message)), [.requestTimedOut budget])

/-- What a reply comes to within a budget of time that is not over, with what is told about it. -/
def awaitReply (budget : Number) (message : Option Text) : Reply → Awaited × List Event
  | .value v => (.value v, [])
  | .raised e => if e.isClock then timedOut budget message else (.raised e, [])
  | .silence => if isEndless budget then (.endless, []) else timedOut budget message
  | .stuck => (.endless, [])

/-- What a reply comes to within a budget. -/
def within (budget : Number) (message : Option Text) (reply : Reply) : Awaited × List Event :=
  if hasTime budget then
    if fitsClock budget then awaitReply budget message reply else (.raised (.worded clockFailure), [])
  else timedOut budget message

end TexMend.Assist
