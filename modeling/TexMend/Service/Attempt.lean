import TexMend.Journal.Event

/-!
# Repeated attempts

A request that fails in passing is sent again, after pauses that double up to a limit. The last failure
is what the caller sees, unchanged. What each attempt comes to is given as a function of its number, so a
run is a value. The loop is a common one: what is particular to requests are the rules that it is given.
-/

namespace TexMend.Service

/-- How often to try, and how long to pause in between, in seconds. -/
structure RetryPolicy where
  /-- All attempts, the first included; there is always a first. -/
  maxAttempts : Int := 3
  minWait : Number := .decimal 10 1
  maxWait : Number := .decimal 300 1

/-- The greater of two numbers, the first if neither is less. -/
def greater (x y : Number) : Number :=
  if x.lt y then y else x

/-- The lesser of two numbers, the first if neither is greater. -/
def lesser (x y : Number) : Number :=
  if y.lt x then y else x

/-- The pause after the attempt with a number counted from one. -/
def RetryPolicy.pause (p : RetryPolicy) (attempt : Nat) : Double :=
  (greater (greater (.int 0) p.minWait) (lesser (.int (Nat.pow 2 (attempt - 1))) p.maxWait)).toDouble

/-- The course of a request: its result, how often it was sent, and the pauses and events on the way. -/
structure Run (α : Type) where
  result : Except Failure α
  attempts : Nat
  pauses : List Double
  events : List Event

/-- What a loop of attempts is given; attempts count from one. -/
structure RetryRules (α : Type) where
  /-- Is the attempt the last one in any case? -/
  stops : (attempt : Nat) → Bool
  /-- The pause after the attempt. -/
  pause : (attempt : Nat) → Double
  /-- Is the outcome worth another attempt? -/
  repeats : Except Failure α → Bool
  /-- What is told before the pause after the attempt. -/
  told : (attempt : Nat) → Except Failure α → (pause : Double) → List Event

/-- Is it a failure in passing? -/
def failedInPassing {α : Type} : Except Failure α → Bool
  | .ok _ => false
  | .error f => f.isTransient

/-- A failed attempt is told before the pause after it. -/
def toldRetry {α : Type} (attempt : Nat) (outcome : Except Failure α) (pause : Double) : List Event :=
  match outcome with
  | .ok _ => []
  | .error f => [.retrying attempt f pause]

/-- The rules of a policy. -/
def RetryPolicy.rules {α : Type} (p : RetryPolicy) : RetryRules α where
  stops attempt := p.maxAttempts ≤ attempt
  pause := p.pause
  repeats := failedInPassing
  told := toldRetry

/-- Attempt number `attempt`, with `left` more attempts allowed after it. -/
def RetryRules.runFrom {α : Type} (rules : RetryRules α) (outcome : Nat → Except Failure α)
    (attempt : Nat) : (left : Nat) → Run α
  | 0 => ⟨outcome attempt, attempt, [], []⟩
  | left + 1 =>
    if rules.repeats (outcome attempt) && !rules.stops attempt then
      let pause := rules.pause attempt
      let run := rules.runFrom outcome (attempt + 1) left
      { run with
        pauses := pause :: run.pauses
        events := rules.told attempt (outcome attempt) pause ++ run.events }
    else ⟨outcome attempt, attempt, [], []⟩

/-- The attempts from one on that a policy makes. -/
def RetryPolicy.runFrom {α : Type} (p : RetryPolicy) (outcome : Nat → Except Failure α) (attempt : Nat) : Run α :=
  p.rules.runFrom outcome attempt (p.maxAttempts - attempt).toNat

/-- Send a request until it succeeds, fails for good, or no attempt is left. -/
def RetryPolicy.run {α : Type} (p : RetryPolicy) (outcome : Nat → Except Failure α) : Run α :=
  p.runFrom outcome 1

/-- The outcomes of the attempts of a run, from a list of those to come. -/
def scripted {α : Type} (exhausted : Except Failure α) (script : List (Except Failure α))
    (attempt : Nat) : Except Failure α :=
  (script[attempt - 1]?).getD exhausted

end TexMend.Service
