import TexMend.Text.Basic
import TexMend.Text.Search

/-!
# Texts as octets

A text is sent as the octets of its characters. An octet that may not stand for itself is written as a
percent sign and two hexadecimal digits; octets in groups of three are written with four characters out of
sixty-four. Octets that make no character are mended by a character that stands for them.
-/

namespace TexMend.Text

/-- The octets of a character. -/
def octetsOf (c : Char) : List Nat :=
  (String.utf8EncodeChar c).map UInt8.toNat

/-- The value of a hexadecimal digit. -/
def hexDigitValue? (c : Char) : Option Nat :=
  if '0' ≤ c && c ≤ '9' then some (c.toNat - 48)
  else if 'a' ≤ c && c ≤ 'f' then some (c.toNat - 87)
  else if 'A' ≤ c && c ≤ 'F' then some (c.toNat - 55)
  else none

/-- An octet as a percent sign and two digits. -/
def percentOctet (n : Nat) : Text :=
  ['%', (Nat.digitChar (n / 16)).toUpper, (Nat.digitChar (n % 16)).toUpper]

/-- ASCII characters that show, but for the space and those in `barred`. -/
def isShown (barred : Text) (c : Char) : Bool :=
  33 ≤ c.toNat && c.toNat < 127 && !barred.elem c

/-- Write every character that is not `safe` by its octets. -/
def percentEncode (safe : Char → Bool) (t : Text) : Text :=
  t.flatMap fun c => if safe c then [c] else (octetsOf c).flatMap percentOctet

/-- The octets of a text in which octets may be written by their digits. -/
def percentDecode : Text → List Nat
  | [] => []
  | '%' :: a :: b :: rest =>
    match hexDigitValue? a, hexDigitValue? b with
    | some x, some y => (16 * x + y) :: percentDecode rest
    | _, _ => octetsOf '%' ++ percentDecode (a :: b :: rest)
  | c :: rest => octetsOf c ++ percentDecode rest

/-- The ranges of the octets after the first octet of a character, if a character begins with it. -/
def followers? (first : Nat) : Option (List (Nat × Nat)) :=
  let any := (0x80, 0xBF)
  if first < 0x80 then some []
  else if first < 0xC2 then none
  else if first < 0xE0 then some [any]
  else if first < 0xF0 then
    some [if first = 0xE0 then (0xA0, 0xBF) else if first = 0xED then (0x80, 0x9F) else any, any]
  else if first < 0xF5 then
    some [if first = 0xF0 then (0x90, 0xBF) else if first = 0xF4 then (0x80, 0x8F) else any, any, any]
  else none

/-- How many octets at the start lie in the ranges one by one. -/
def followersCount : List (Nat × Nat) → List Nat → Nat
  | (low, high) :: ranges, n :: rest =>
    if low ≤ n && n ≤ high then followersCount ranges rest + 1 else 0
  | _, _ => 0

/-- Octets of characters only: each stretch that begins a character and does not end it, and each octet that
begins none, gives way to one replacement character. -/
def mendOctets : List Nat → List Nat
  | [] => []
  | first :: rest =>
    match followers? first with
    | none => octetsOf '\ufffd' ++ mendOctets rest
    | some ranges =>
      let count := followersCount ranges rest
      (if count = ranges.length then first :: rest.take count else octetsOf '\ufffd') ++
        mendOctets (rest.drop count)
termination_by octets => octets.length

/-- The characters that stand for six bits. -/
def sixBitChars : Text :=
  "ABCDEFGHIJKLMNOPQRSTUVWXYZabcdefghijklmnopqrstuvwxyz0123456789+/"

/-- The character for a number of six bits. -/
def sixBitChar (n : Nat) : Char :=
  (sixBitChars[n % 64]?).getD '='

/-- Octets as characters out of sixty-four, filled up to groups of four. -/
def sixBitText : List Nat → Text
  | [] => []
  | [a] => [sixBitChar (a / 4), sixBitChar (a % 4 * 16), '=', '=']
  | [a, b] => [sixBitChar (a / 4), sixBitChar (a % 4 * 16 + b / 16), sixBitChar (b % 16 * 4), '=']
  | a :: b :: c :: rest =>
    sixBitChar (a / 4) :: sixBitChar (a % 4 * 16 + b / 16) :: sixBitChar (b % 16 * 4 + c / 64) ::
      sixBitChar (c % 64) :: sixBitText rest

/-- Where the characters beyond ASCII begin that come first, and where that run ends. -/
def foreignRun? (t : Text) : Option (Nat × Nat) :=
  let isForeign (c : Char) : Bool := 128 ≤ c.toNat
  let start := (t.takeWhile fun c => !isForeign c).length
  let run := ((t.drop start).takeWhile isForeign).length
  if run = 0 then none else some (start, start + run)

end TexMend.Text
