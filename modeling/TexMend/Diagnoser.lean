import TexMend.Diagnosis
import TexMend.Assist.Assistant

/-!
# The diagnoser

Diagnosing a document, and asking for the fix of one record: the rules come first, and the assistant is
asked only where they propose nothing.
-/

namespace TexMend

open Assist

/-- How logs are read, and the assistant, if there is one. -/
structure Diagnoser where
  options : Log.Options := {}
  assistant : Option Assistant := none

namespace Diagnoser

/-- Is there an assistant? -/
def aiEnabled (d : Diagnoser) : Bool :=
  d.assistant.isSome

/-- What is told about a log that was read. -/
def parseEvent (p : ParsedLog) : Event :=
  .logParsed p.errors.length p.warnings.length p.pdfProduced

/-- What is told about the rules for a record. -/
def ruleEvent (r : Record) (fix : Option Suggestion) : Event :=
  match fix with
  | some s => .ruleFixProposed r.id s.edit.action s.edit.line
  | none => .ruleFixUnavailable r.id r.category

/-- Read a log and propose the fixes of the rules. -/
def diagnose (d : Diagnoser) (log source : Text) : Diagnosis :=
  Diagnosis.of d.options log source

/-- What is told while a log is diagnosed. -/
def diagnoseEvents (d : Diagnoser) (log source : Text) : List Event :=
  let diagnosis := d.diagnose log source
  let parsed := diagnosis.parsed
  let lines := Text.splitLines source
  parseEvent parsed :: parsed.errors.map (fun r => ruleEvent r (Repair.fix? r lines)) ++
    [.diagnosisComplete parsed.errors.length parsed.warnings.length diagnosis.fixes.length
      parsed.pdfProduced]

/-- Fix one record of a diagnosis on the current source. -/
def requestFix (d : Diagnoser) (p : Provider) (diagnosis : Diagnosis) (id source : Text) :
    Consultation :=
  match diagnosis.parsed.find? id with
  | none => ⟨.answered none, [], [.unknownRecord id], p⟩
  | some r =>
    let lines := Text.splitLines source
    let fix := Repair.fix? r lines
    let told := ruleEvent r fix
    match fix, d.assistant with
    | some s, _ => ⟨.answered (some s), [], [told], p⟩
    | none, none => ⟨.answered none, [], [told], p⟩
    | none, some assistant =>
      let c := assistant.consult p r lines
      { c with events := told :: .aiFixRequested id r.category :: c.events }

end Diagnoser

end TexMend
