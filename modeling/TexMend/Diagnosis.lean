import TexMend.Log.Parse
import TexMend.Repair.Rule

/-!
# Diagnoses

A diagnosis is what a log says together with the fixes that are proposed for its errors, at most one for
each.
-/

namespace TexMend

/-- A log that was read, and the fixes proposed so far. -/
structure Diagnosis where
  parsed : ParsedLog
  fixes : List Suggestion

namespace Diagnosis

/-- Is any fix proposed? -/
def hasFixableErrors (d : Diagnosis) : Bool :=
  !d.fixes.isEmpty

/-- The fix for a record. -/
def fixFor? (d : Diagnosis) (id : Text) : Option Suggestion :=
  d.fixes.find? fun s => s.errorId = id

/-- Keep a suggestion in the place of any other for the same record. -/
def withFix (d : Diagnosis) (s : Suggestion) : Diagnosis :=
  { d with fixes := d.fixes.filter (fun old => !(old.errorId = s.errorId)) ++ [s] }

/-- Apply all fixes to a source. -/
def applyAll (d : Diagnosis) (source : Text) : Except ApplyError Text :=
  Suggestion.applyAll d.fixes source

/-- Read a log and propose what the rules propose for its errors. -/
def of (options : Log.Options) (log source : Text) : Diagnosis :=
  let parsed := Log.parse options log
  let lines := Text.splitLines source
  { parsed, fixes := parsed.errors.filterMap fun r => Repair.fix? r lines }

end Diagnosis

end TexMend
