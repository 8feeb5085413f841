import TexMend.Text.Class
import TexMend.Text.Numeral

/-!
# Integers as they are typed

A lenient reading of integers: blanks around, a sign, leading zeros, digits of every script, and single
underscores between two digits.
-/

namespace TexMend.Text

/-- The values of the digits of a run in which single underscores may stand between two digits. -/
def spacedDigits? : Text → Option (List Nat)
  | [] => none
  | [c] => (decimalValue? c).map fun d => [d]
  | c :: '_' :: rest =>
    match decimalValue? c, spacedDigits? rest with
    | some d, some more => some (d :: more)
    | _, _ => none
  | c :: d :: rest =>
    match decimalValue? c, spacedDigits? (d :: rest) with
    | some first, some more => some (first :: more)
    | _, _ => none

/-- The number that such a run stands for, unless it is too long. -/
def spacedNat? (t : Text) : Option Nat :=
  match spacedDigits? t with
  | none => none
  | some digits =>
    if digitLimit < digits.length then none else some (digits.foldl (fun n d => 10 * n + d) 0)

/-- The integer that was typed. -/
def typedInt? (t : Text) : Option Int :=
  match strip t with
  | '-' :: digits => (spacedNat? digits).map fun n => -(n : Int)
  | '+' :: digits => (spacedNat? digits).map fun n => (n : Int)
  | digits => (spacedNat? digits).map fun n => (n : Int)

end TexMend.Text
