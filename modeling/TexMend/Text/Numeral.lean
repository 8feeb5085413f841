import TexMend.Text.Basic

/-!
# Decimal numerals

Numbers are written without leading zeros. A reader takes any number of leading zeros, but refuses a
run of more than 4300 digits, whatever its value. A writer that may refuse does so for numerals that long.
-/

namespace TexMend.Text

/-- The value of one ASCII digit. -/
def digitValue (c : Char) : Nat :=
  c.toNat - 48

/-- The number that a run of digits stands for, the leftmost digit being the most significant. -/
def digitsValue (digits : Text) : Nat :=
  digits.foldl (fun n c => 10 * n + digitValue c) 0

/-- The longest run of digits that is read or written. -/
def digitLimit : Nat := 4300

/-- Read a run of digits, unless it is too long. -/
def readDigits? (digits : Text) : Option Nat :=
  if digits.length ≤ digitLimit then some (digitsValue digits) else none

/-- The numeral of a natural number. -/
def ofNat (n : Nat) : Text :=
  Nat.toDigits 10 n

/-- The numeral of an integer, with a sign only below zero. -/
def ofInt : Int → Text
  | .ofNat n => ofNat n
  | .negSucc n => '-' :: ofNat (n + 1)

/-- Write an integer, unless it has too many digits. -/
def writeInt? (n : Int) : Option Text :=
  if (ofNat n.natAbs).length ≤ digitLimit then some (ofInt n) else none

end TexMend.Text
