import TexMend.Value.Basic
import TexMend.Text.Search
import TexMend.Text.Quoted

/-!
# JSON

Reading and writing values as JSON. The reader takes the standard grammar and, beyond it, the three
spellings `NaN`, `Infinity` and `-Infinity`; a key that comes twice keeps its first place and its last
value. Integers are read exactly, up to the length that numerals may have.
-/

namespace TexMend

namespace Json

/-- Why a text is no JSON value. -/
inductive ReadError where
  /-- The grammar is broken. -/
  | malformed
  /-- An integer has more digits than a numeral may have. -/
  | longInteger
  deriving DecidableEq, Repr

/-- The blanks between tokens. -/
def isSpace (c : Char) : Bool :=
  c == ' ' || c == '\t' || c == '\n' || c == '\r'

def skipSpace (t : Text) : Text :=
  t.dropWhile isSpace

/-- The value of a hexadecimal digit. -/
def hexValue? (c : Char) : Option Nat :=
  if Text.isAsciiDigit c then some (c.toNat - 48)
  else if 'a' ≤ c && c ≤ 'f' then some (c.toNat - 87)
  else if 'A' ≤ c && c ≤ 'F' then some (c.toNat - 55)
  else none

/-- Four hexadecimal digits at the start of a text, and the rest. -/
def fourHex? : Text → Option (Nat × Text)
  | a :: b :: c :: d :: rest =>
    match hexValue? a, hexValue? b, hexValue? c, hexValue? d with
    | some w, some x, some y, some z => some (((w * 16 + x) * 16 + y) * 16 + z, rest)
    | _, _, _, _ => none
  | _ => none

/-- The character of a code unit that is not half of a pair; half a pair alone becomes the
replacement character. -/
def ofUnit (n : Nat) : Char :=
  if 0xD800 ≤ n && n < 0xE000 then Char.ofNat 0xFFFD else Char.ofNat n

/-- The character of an escaped code unit and what follows it; two escaped halves of a pair make one
character. -/
def unicodeEscape? (t : Text) : Option (Char × Text) :=
  match fourHex? t with
  | none => none
  | some (n, rest) =>
    if 0xD800 ≤ n && n < 0xDC00 then
      match rest with
      | '\\' :: 'u' :: more =>
        match fourHex? more with
        | some (m, after) =>
          if 0xDC00 ≤ m && m < 0xE000 then
            some (Char.ofNat (0x10000 + (n - 0xD800) * 0x400 + (m - 0xDC00)), after)
          else some (ofUnit n, rest)
        | none => some (ofUnit n, rest)
      | _ => some (ofUnit n, rest)
    else some (ofUnit n, rest)

/-- The character that a one-letter escape stands for. -/
def shortEscape? : Char → Option Char
  | '"' => some '"'
  | '\\' => some '\\'
  | '/' => some '/'
  | 'b' => some '\x08'
  | 'f' => some '\x0c'
  | 'n' => some '\n'
  | 'r' => some '\r'
  | 't' => some '\t'
  | _ => none

/-- The characters of a string up to its closing quote, and the rest. `fuel` bounds their number. -/
def readString : Nat → Text → Except ReadError (Text × Text)
  | 0, _ => .error .malformed
  | _, [] => .error .malformed
  | _, '"' :: rest => .ok ([], rest)
  | fuel + 1, '\\' :: 'u' :: t =>
    match unicodeEscape? t with
    | some (c, rest) => do
      let (cs, rest) ← readString fuel rest
      return (c :: cs, rest)
    | none => .error .malformed
  | fuel + 1, '\\' :: e :: t =>
    match shortEscape? e with
    | some c => do
      let (cs, rest) ← readString fuel t
      return (c :: cs, rest)
    | none => .error .malformed
  | fuel + 1, c :: t =>
    if c.toNat < 0x20 then .error .malformed
    else do
      let (cs, rest) ← readString fuel t
      return (c :: cs, rest)

/-- Digits after a point, and the rest; nothing is taken where no digit follows the point. -/
def readFraction (t : Text) : Text × Text :=
  match t with
  | '.' :: rest =>
    let digits := rest.takeWhile Text.isAsciiDigit
    if digits.isEmpty then ([], t) else (digits, rest.drop digits.length)
  | _ => ([], t)

/-- The exponent of a number, and the rest. -/
def readExponent (t : Text) : Option Int × Text :=
  match t with
  | e :: rest =>
    if e == 'e' || e == 'E' then
      let (negative, unsigned) :=
        match rest with
        | '-' :: more => (true, more)
        | '+' :: more => (false, more)
        | more => (false, more)
      let digits := unsigned.takeWhile Text.isAsciiDigit
      if digits.isEmpty then (none, t)
      else
        let n : Int := Text.digitsValue digits
        (some (if negative then -n else n), unsigned.drop digits.length)
    else (none, t)
  | [] => (none, t)

/-- A number whose sign is already read. -/
def readNumber (negative : Bool) (t : Text) : Except ReadError (Value × Text) :=
  let digits :=
    match t with
    | '0' :: _ => ['0']
    | _ => t.takeWhile Text.isAsciiDigit
  if digits.isEmpty then .error .malformed
  else
    let (fraction, rest) := readFraction (t.drop digits.length)
    let (exponent, rest) := readExponent rest
    if fraction.isEmpty && exponent.isNone then
      match Text.readDigits? digits with
      | some n => .ok (.int (if negative then -(n : Int) else n), rest)
      | none => .error .longInteger
    else
      let all := digits ++ fraction
      let place : Int := exponent.getD 0 - fraction.length
      .ok (.real (.ofDecimal negative (Text.digitsValue all) place), rest)

/-- The words that stand for a value. -/
def words : List (Text × Value) :=
  [("null", .null), ("true", .bool true), ("false", .bool false), ("NaN", .real .notANumber),
    ("Infinity", .real (.infinite false)), ("-Infinity", .real (.infinite true))]

/-- A word at the start of a text, and the rest. -/
def readWord? (t : Text) : Option (Value × Text) :=
  words.findSome? fun (word, value) => (Text.after? word t).map (value, ·)

mutual

/-- A value at the start of a text, and the rest. -/
def readValue : Nat → Text → Except ReadError (Value × Text)
  | 0, _ => .error .malformed
  | fuel + 1, t =>
    match readWord? t with
    | some found => .ok found
    | none =>
      match t with
      | '"' :: rest => do
        let (s, rest) ← readString (rest.length + 1) rest
        return (.text s, rest)
      | '[' :: rest =>
        match skipSpace rest with
        | ']' :: after => .ok (.list [], after)
        | items => do
          let (items, rest) ← readItems fuel items
          return (.list items, rest)
      | '{' :: rest =>
        match skipSpace rest with
        | '}' :: after => .ok (.record [], after)
        | fields => do
          let (fields, rest) ← readFields fuel fields
          return (.record (Fields.putAll [] fields), rest)
      | '-' :: rest => readNumber true rest
      | _ => readNumber false t

/-- The items of a list from the first one to the closing bracket. -/
def readItems : Nat → Text → Except ReadError (List Value × Text)
  | 0, _ => .error .malformed
  | fuel + 1, t => do
    let (item, rest) ← readValue fuel t
    match skipSpace rest with
    | ']' :: after => return ([item], after)
    | ',' :: more =>
      let (items, rest) ← readItems fuel (skipSpace more)
      return (item :: items, rest)
    | _ => .error .malformed

/-- The fields of a record from the first key to the closing brace. -/
def readFields : Nat → Text → Except ReadError (Fields × Text)
  | 0, _ => .error .malformed
  | fuel + 1, t =>
    match t with
    | '"' :: rest => do
      let (key, rest) ← readString (rest.length + 1) rest
      match skipSpace rest with
      | ':' :: rest =>
        let (value, rest) ← readValue fuel (skipSpace rest)
        match skipSpace rest with
        | '}' :: after => return ([(key, value)], after)
        | ',' :: more =>
          let (fields, rest) ← readFields fuel (skipSpace more)
          return ((key, value) :: fields, rest)
        | _ => .error .malformed
      | _ => .error .malformed
    | _ => .error .malformed

end

/-- Read a whole text as one value. Every step of the reader takes a character, so twice the length
is fuel enough. Values may be nested to any depth: that an interpreter runs out of stack on deep ones is
left out. -/
def read (t : Text) : Except ReadError Value := do
  let (value, rest) ← readValue (2 * t.length + 2) (skipSpace t)
  if (skipSpace rest).isEmpty then return value else .error .malformed

/-- A code unit as an escape. -/
def escapeUnit (n : Nat) : Text :=
  "\\u" ++ Text.hexadecimal 4 n

/-- One character inside a written string: ASCII stays, except for controls, the quote and the
backslash. -/
def escape (c : Char) : Text :=
  match c with
  | '"' => "\\\""
  | '\\' => "\\\\"
  | '\n' => "\\n"
  | '\r' => "\\r"
  | '\t' => "\\t"
  | '\x08' => "\\b"
  | '\x0c' => "\\f"
  | _ =>
    let n := c.toNat
    if 0x20 ≤ n && n < 0x7F then [c]
    else if n < 0x10000 then escapeUnit n
    else escapeUnit (0xD800 + (n - 0x10000) / 0x400) ++ escapeUnit (0xDC00 + (n - 0x10000) % 0x400)

/-- A string with its quotes. -/
def writeString (t : Text) : Text :=
  '"' :: t.flatMap escape ++ ['"']

mutual

/-- A value on one line, with a space after each comma and colon. -/
def write : Value → Text
  | .null => "null"
  | .bool b => if b then "true" else "false"
  | .int n => Text.ofInt n
  | .real x => x.textWith ⟨"Infinity", "NaN"⟩
  | .text t => writeString t
  | .list items => '[' :: Text.joinWith ", " (writeItems items) ++ "]"
  | .tuple items => '[' :: Text.joinWith ", " (writeItems items) ++ "]"
  | .record fields => '{' :: Text.joinWith ", " (writeFields fields) ++ "\x7d"

/-- The items of a list, each written. -/
def writeItems : List Value → List Text
  | [] => []
  | item :: rest => write item :: writeItems rest

/-- The fields of a record, each written. -/
def writeFields : List (Text × Value) → List Text
  | [] => []
  | (key, value) :: rest => (writeString key ++ ": " ++ write value) :: writeFields rest

end

end Json

end TexMend
