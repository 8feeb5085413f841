import TexMend.Repair.Tables
import TexMend.Text.Distance

/-!
# Misspelled commands

A command that is in the list of misspellings has its correction there; any other one is taken for the
first common command at distance one.
-/

namespace TexMend.Repair

/-- The value of a key in a table of pairs. -/
def lookUp (key : Text) (table : List (Text × Text)) : Option Text :=
  (table.find? fun (k, _) => k = key).map Prod.snd

/-- The first common command that is one insertion, deletion or substitution away. -/
def neighbour? (command : Text) : Option Text :=
  commonCommands.find? fun candidate => Text.distance command candidate = 1

/-- The command that was meant. -/
def typoFix? (command : Text) : Option Text :=
  match lookUp command commonTypos with
  | some correction => some correction
  | none => neighbour? command

end TexMend.Repair
