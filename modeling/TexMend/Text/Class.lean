import TexMend.Text.Basic
import TexMend.Text.CharTable
import TexMend.Text.WordTable
import TexMend.Text.DigitTable

/-!
# Classes of characters

Word characters and digits of all scripts, and the comparison that ignores the case of ASCII letters.
-/

namespace TexMend.Text

/-- Letters, numeric characters of any script, and the underscore. -/
def isWord (c : Char) : Bool :=
  inRanges c.toNat wordRanges

/-- ASCII letters and digits. -/
def isAsciiAlphanumeric (c : Char) : Bool :=
  isAsciiLetter c || isAsciiDigit c

/-- The value of a decimal digit of any script. -/
def decimalValue? (c : Char) : Option Nat :=
  (zeroDigits.find? fun first => first ≤ c.toNat && c.toNat ≤ first + 9).map (c.toNat - ·)

/-- Decimal digits of any script, and characters that are digits in form only. -/
def isDigitInForm (c : Char) : Bool :=
  (decimalValue? c).isSome || inRanges c.toNat formDigitRanges

/-- The ASCII letter in lower case; other characters stay. -/
def lowerAscii (c : Char) : Char :=
  if 'A' ≤ c && c ≤ 'Z' then Char.ofNat (c.toNat + 32) else c

/-- Equality that ignores case, for a lower-case ASCII character `c`. Three letters have further
forms: the dotted and the dotless i, the long s and the kelvin sign. -/
def matchesFolded (c d : Char) : Bool :=
  lowerAscii d == c ||
    (c == 'i' && (d.toNat == 0x130 || d.toNat == 0x131)) ||
    (c == 's' && d.toNat == 0x17F) ||
    (c == 'k' && d.toNat == 0x212A)

/-- What follows `lead`, if the text begins with it in any case; `lead` is in lower case. -/
def afterFolded? : Text → Text → Option Text
  | [], text => some text
  | _ :: _, [] => none
  | l :: lead, c :: cs => if matchesFolded l c then afterFolded? lead cs else none

end TexMend.Text
