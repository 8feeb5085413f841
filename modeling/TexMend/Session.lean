import TexMend.Diagnoser

/-!
# Sessions

A session is a sequence of steps on one document: its source changes, logs are diagnosed, fixes are asked
for, kept and applied. A step that fails leaves everything as it was, but for what the provider was sent.
-/

namespace TexMend

open Assist

/-- The state between two steps. -/
structure Session where
  diagnoser : Diagnoser
  provider : Provider
  source : Text
  diagnosis : Diagnosis
  /-- What was suggested last when a fix was asked for. -/
  lastSuggestion : Option Suggestion := none
  /-- Everything sent to the provider. -/
  sent : List Text := []

namespace Session

/-- One step. -/
inductive Step where
  | setSource (source : Text)
  | diagnose (log : Text)
  | requestFix (id : Text)
  /-- Keep the given suggestion, else the last one. -/
  | keep (suggestion : Option Suggestion)
  | fixFor (id : Text)
  | find (id : Text)
  | dump
  | applyAll
  /-- Apply the fix of one record alone. -/
  | applyOne (id : Text)

/-- What a step shows. -/
inductive Shown where
  | nothing
  | diagnosis (d : Diagnosis)
  | suggestion (s : Option Suggestion)
  | record (r : Option Record)
  | failure (e : ApplyError)
  | raised (e : Raised)
  /-- The step does not end; there is none after it. -/
  | endless

/-- The result of a step. -/
structure Result where
  shown : Shown
  session : Session
  events : List Event := []

/-- Start on a source, as if an empty log had been diagnosed. -/
def start (diagnoser : Diagnoser) (provider : Provider) (source : Text) : Session where
  diagnoser
  provider
  source
  diagnosis := diagnoser.diagnose [] source

/-- Take over a new source, unless it could not be made. -/
def updateSource (s : Session) (new : Except ApplyError Text) : Result :=
  match new with
  | .ok source => ⟨.nothing, { s with source }, []⟩
  | .error e => ⟨.failure e, s, []⟩

/-- Take over the end of a consultation: what was suggested is kept in mind. -/
def noteUpshot (s : Session) : Upshot → Shown × Session
  | .answered suggestion => (.suggestion suggestion, { s with lastSuggestion := suggestion })
  | .raised e => (.raised e, s)
  | .endless => (.endless, s)

/-- Take one step. -/
def step (s : Session) : Step → Result
  | .setSource source => ⟨.nothing, { s with source }, []⟩
  | .diagnose log =>
    let diagnosis := s.diagnoser.diagnose log s.source
    ⟨.diagnosis diagnosis, { s with diagnosis }, s.diagnoser.diagnoseEvents log s.source⟩
  | .requestFix id =>
    let c := s.diagnoser.requestFix s.provider s.diagnosis id s.source
    let (shown, session) := s.noteUpshot c.upshot
    ⟨shown, { session with provider := c.provider, sent := s.sent ++ c.sent }, c.events⟩
  | .keep given =>
    match given.or s.lastSuggestion with
    | some suggestion => ⟨.nothing, { s with diagnosis := s.diagnosis.withFix suggestion }, []⟩
    | none => ⟨.nothing, s, []⟩
  | .fixFor id => ⟨.suggestion (s.diagnosis.fixFor? id), s, []⟩
  | .find id => ⟨.record (s.diagnosis.parsed.find? id), s, []⟩
  | .dump => ⟨.diagnosis s.diagnosis, s, []⟩
  | .applyAll => s.updateSource (s.diagnosis.applyAll s.source)
  | .applyOne id => s.updateSource (Suggestion.applyAll (s.diagnosis.fixFor? id).toList s.source)

end Session

end TexMend
