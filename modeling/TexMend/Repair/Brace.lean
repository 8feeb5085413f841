import TexMend.Text.Basic

/-!
# Braces of a line

Counts of opening and closing braces, and the first closing one that has no partner before it.
-/

namespace TexMend.Repair

/-- The number of opening braces. -/
def openings (line : Text) : Nat :=
  line.count '{'

/-- The number of closing braces. -/
def closings (line : Text) : Nat :=
  line.count '}'

/-- The position of the first closing brace that exceeds `pending` and the opening ones before it. -/
def surplusFrom (pending : Nat) : Text → Option Nat
  | [] => none
  | c :: cs =>
    if c = '{' then (surplusFrom (pending + 1) cs).map (· + 1)
    else if c = '}' then
      match pending with
      | 0 => some 0
      | n + 1 => (surplusFrom n cs).map (· + 1)
    else (surplusFrom pending cs).map (· + 1)

/-- The position of the first closing brace without an opening one before it to match. -/
def surplusClosing? (line : Text) : Option Nat :=
  surplusFrom 0 line

/-- The line without the character at a position. -/
def removeAt (position : Nat) (line : Text) : Text :=
  line.take position ++ line.drop (position + 1)

end TexMend.Repair
