/-!
# Texts and blanks

A text is the list of its characters, so every length, cut and position in this library counts
characters. Two notions of blank occur in logs and documents: the wide one covers the spaces of all
scripts, the narrow one only those of the ASCII range.
-/

namespace TexMend

/-- A text is the list of its characters. -/
abbrev Text := List Char

instance : Coe String Text := ⟨String.toList⟩

namespace Text

/-- Spaces and line separators of every script, and the ASCII control characters that separate. -/
def isBlank (c : Char) : Bool :=
  let n := c.toNat
  (9 ≤ n && n ≤ 13) || (28 ≤ n && n ≤ 32) || n == 0x85 || n == 0xA0 || n == 0x1680 ||
    (0x2000 ≤ n && n ≤ 0x200A) || n == 0x2028 || n == 0x2029 || n == 0x202F || n == 0x205F ||
    n == 0x3000

/-- The blanks of ASCII: the space and the five layout controls. -/
def isAsciiBlank (c : Char) : Bool :=
  c == ' ' || (9 ≤ c.toNat && c.toNat ≤ 13)

/-- The two kinds of Latin letter, without accents. -/
def isAsciiLetter (c : Char) : Bool :=
  ('a' ≤ c && c ≤ 'z') || ('A' ≤ c && c ≤ 'Z')

/-- The ten ASCII digits. -/
def isAsciiDigit (c : Char) : Bool :=
  '0' ≤ c && c ≤ '9'

/-- Drop the longest final stretch of characters that satisfy `p`. -/
def dropEndWhile (p : Char → Bool) : Text → Text
  | [] => []
  | c :: cs =>
    match dropEndWhile p cs with
    | [] => if p c then [] else [c]
    | d :: ds => c :: d :: ds

/-- Does the first text come before the second one, or are they equal? Characters compare by their codes,
and a text comes before those that it begins. -/
def atMost : Text → Text → Bool
  | [], _ => true
  | _ :: _, [] => false
  | a :: as, b :: bs => a.toNat < b.toNat || (a == b && atMost as bs)

/-- Remove the blanks at both ends. -/
def strip (t : Text) : Text :=
  dropEndWhile isBlank (t.dropWhile isBlank)

end Text

end TexMend
