import TexMend.Log.Record
import TexMend.Log.Token
import TexMend.Repair.Suggestion
import TexMend.Repair.Typo
import TexMend.Repair.Package
import TexMend.Repair.Math
import TexMend.Repair.Brace
import TexMend.Repair.Environment

/-!
# Repair rules

One rule per category. A rule looks at one record and the document and proposes at most one edit; where
it proposes none, there is no automatic repair.
-/

namespace TexMend.Repair

/-- The line of the document that a record points at, if it exists and is not empty, with its number. -/
def pointedLine? (r : Record) (lines : Document) : Option (Nat × Text) :=
  match r.line with
  | none => none
  | some n =>
    if 1 ≤ n then
      match lines[n.toNat - 1]? with
      | some text => if text.isEmpty then none else some (n.toNat, text)
      | none => none
    else none

/-- A suggestion of a rule. -/
def suggest (r : Record) (description : Text) (hundredths : Nat) (edit : Edit) : Suggestion :=
  { errorId := r.id, description, origin := .rule, edit, confidence := .decimal hundredths 2 }

/-- The edit that replaces a line that exists. -/
def replaceLine (number : Nat) (old new : Text) : Edit :=
  { action := .replaceLine, line := max 1 number, newText := some new, originalText := some old
    line_pos := by omega }

/-- The edit that adds a line after another one. -/
def addAfter (number : Nat) (new : Text) : Edit :=
  { action := .insertAfter, line := max 1 number, newText := some new, line_pos := by omega }

/-- The edit that adds a line before another one. -/
def addBefore (number : Nat) (new : Text) : Edit :=
  { action := .insertBefore, line := max 1 number, newText := some new, line_pos := by omega }

/-- The token of a record, if it is there and not empty. -/
def token? (r : Record) : Option Text :=
  r.offendingText.filter fun t => !t.isEmpty

/-- Import the package that defines the command, unless it is imported already. -/
def importForCommand? (r : Record) (lines : Document) (command : Text) : Option Suggestion :=
  match lookUp command packageOfCommand with
  | none => none
  | some package =>
    if isImported package lines then none
    else
      some (suggest r ("Add " ++ importLine package ++ " (provides " ++ command ++ ")") 95
        (addAfter (importPlace lines) (importLine package)))

/-- Correct the first occurrence of a misspelled command on the line that the record points at. -/
def correctCommand? (r : Record) (lines : Document) (command : Text) : Option Suggestion :=
  match typoFix? command, pointedLine? r lines with
  | some correction, some (number, line) =>
    some (suggest r ("Fix typo: " ++ command ++ " -> " ++ correction) 80
      (replaceLine number line (Text.replaceFirst command correction line)))
  | _, _ => none

/-- An undefined command: import its package, else correct it. -/
def fixCommand? (r : Record) (lines : Document) : Option Suggestion :=
  match token? r with
  | none => none
  | some command =>
    match importForCommand? r lines command with
    | some s => some s
    | none => correctCommand? r lines command

/-- A package that is named as missing: import it. -/
def fixPackage? (r : Record) (lines : Document) : Option Suggestion :=
  (token? r).map fun package =>
    suggest r ("Add " ++ importLine package) 90 (addAfter (importPlace lines) (importLine package))

/-- A line that opens more braces than it closes: close one at its end. -/
def fixOpenBrace? (r : Record) (lines : Document) : Option Suggestion :=
  match pointedLine? r lines with
  | none => none
  | some (number, line) =>
    if openings line ≤ closings line then none
    else
      some (suggest r ("Add missing closing brace on line " ++ Text.ofNat number) 70
        (replaceLine number line (line ++ "\x7d")))

/-- A token outside math mode: put its expression into dollar signs. -/
def fixMath? (r : Record) (lines : Document) : Option Suggestion :=
  match pointedLine? r lines with
  | none => none
  | some (number, line) =>
    (mathGap? line).map fun gap =>
      suggest r ("Wrap \"" ++ gap.expression ++ "\" in math mode ($...$)") 75
        (replaceLine number line gap.wrapped)

/-- The line that a record names, if it is above zero. -/
def namedLine? (r : Record) : Option Nat :=
  match r.line with
  | some n => if 0 < n then some n.toNat else none
  | none => none

/-- An environment with unequal numbers of markers: add one of the missing kind, at the line that the
record names, else next to the last marker of the other kind. -/
def fixEnvironment? (r : Record) (lines : Document) : Option Suggestion :=
  match (token? r).bind Log.firstMarker? with
  | none => none
  | some marker =>
    let name := marker.name
    let balance := EnvironmentBalance.of lines name
    if balance.ends < balance.begins then
      let place := (namedLine? r).getD (balance.lastBegin.getD lines.length)
      some (suggest r ("Add missing " ++ endMarker name) 80 (addAfter place (endMarker name)))
    else if balance.begins < balance.ends then
      let place := (namedLine? r).getD (balance.lastEnd.getD 1)
      some (suggest r ("Add missing " ++ beginMarker name) 70 (addBefore place (beginMarker name)))
    else none

/-- A closing brace without a partner: remove it. -/
def fixSurplusBrace? (r : Record) (lines : Document) : Option Suggestion :=
  match pointedLine? r lines with
  | none => none
  | some (number, line) =>
    (surplusClosing? line).map fun position =>
      suggest r ("Remove extra \x7d on line " ++ Text.ofNat number) 75
        (replaceLine number line (removeAt position line))

/-- The repair that the rules propose for a record. -/
def fix? (r : Record) (lines : Document) : Option Suggestion :=
  match r.category with
  | .undefinedControlSequence => fixCommand? r lines
  | .missingPackage => fixPackage? r lines
  | .unclosedBrace => fixOpenBrace? r lines
  | .missingMathDelimiter => fixMath? r lines
  | .unclosedEnvironment => fixEnvironment? r lines
  | .extraBrace => fixSurplusBrace? r lines
  | _ => none

end TexMend.Repair
