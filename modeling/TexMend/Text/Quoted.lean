import TexMend.Text.CharTable
import TexMend.Text.PrintTable
import TexMend.Text.Basic

/-!
# Quoted texts

A text is quoted for a message: single quotes unless it holds a single quote and no double quote,
the quote and the backslash escaped, and every character that does not print written by its code.
-/

namespace TexMend.Text

/-- Assigned characters that show, and the space. -/
def isPrintable (c : Char) : Bool :=
  inRanges c.toNat printableRanges

/-- The lower-case hexadecimal digits of `n`, padded with zeros to `width`. -/
def hexadecimal (width n : Nat) : Text :=
  let digits := Nat.toDigits 16 n
  List.replicate (width - digits.length) '0' ++ digits

/-- A character by its code, in the least of three widths that holds it. -/
def codeEscape (c : Char) : Text :=
  if c.toNat < 0x100 then "\\x" ++ hexadecimal 2 c.toNat
  else if c.toNat < 0x10000 then "\\u" ++ hexadecimal 4 c.toNat
  else "\\U" ++ hexadecimal 8 c.toNat

/-- One character between quotes `q`. -/
def escapeIn (q c : Char) : Text :=
  if c = q || c = '\\' then ['\\', c]
  else if c = '\n' then "\\n"
  else if c = '\r' then "\\r"
  else if c = '\t' then "\\t"
  else if isPrintable c then [c]
  else codeEscape c

/-- The quote to use: a double one only for a text with a single quote and without a double one. -/
def quoteFor (t : Text) : Char :=
  if t.contains '\'' && !t.contains '"' then '"' else '\''

/-- The text between quotes. -/
def quoted (t : Text) : Text :=
  let q := quoteFor t
  q :: t.flatMap (escapeIn q) ++ [q]

end TexMend.Text
