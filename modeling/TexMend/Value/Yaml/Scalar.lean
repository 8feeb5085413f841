import TexMend.Value.Basic
import TexMend.Value.Json
import TexMend.Text.Search
import TexMend.Text.Class

/-!
# Scalars of YAML

What a scalar stands for. Between quotes it is a text; without quotes it may also be null, a truth value,
an integer in one of several bases, or a floating-point number.
-/

namespace TexMend.Yaml

/-- The spellings of null. -/
def nullWords : List Text := ["", "~", "null", "Null", "NULL"]

/-- The spellings of yes. -/
def trueWords : List Text :=
  ["yes", "Yes", "YES", "true", "True", "TRUE", "on", "On", "ON"]

/-- The spellings of no. -/
def falseWords : List Text :=
  ["no", "No", "NO", "false", "False", "FALSE", "off", "Off", "OFF"]

/-- A text without its sign, and whether it is negative. -/
def splitSign (t : Text) : Bool × Text :=
  match t with
  | '-' :: rest => (true, rest)
  | '+' :: rest => (false, rest)
  | _ => (false, t)

/-- The value of digits in a base, underscores left out. -/
def valueIn (base : Nat) (digits : Text) : Nat :=
  digits.foldl (fun n c => if c == '_' then n else base * n + (Json.hexValue? c).getD 0) 0

/-- Are these digits of a kind, with underscores among them? -/
def areDigits (isDigit : Char → Bool) (t : Text) : Bool :=
  !t.isEmpty && t.all fun c => isDigit c || c == '_'

def isBinary (c : Char) : Bool :=
  c == '0' || c == '1'

def isOctal (c : Char) : Bool :=
  '0' ≤ c && c ≤ '7'

/-- Is this one of the parts after the first of a number in base sixty? -/
def isSixtieth (t : Text) : Bool :=
  match t with
  | [c] => Text.isAsciiDigit c
  | [c, d] => '0' ≤ c && c ≤ '5' && Text.isAsciiDigit d
  | _ => false

/-- The value of parts in base sixty. -/
def sixtiethValue (parts : List Text) : Nat :=
  parts.foldl (fun n p => 60 * n + valueIn 10 p) 0

/-- Why a scalar stands for nothing. -/
inductive ScalarError where
  /-- It is reserved for the structure of documents. -/
  | reserved
  /-- An integer without any digit, or with more digits than a numeral may have. -/
  | badInteger
  deriving DecidableEq, Repr

/-- The words that stand for no value. -/
def reservedWords : List Text := ["=", "<<"]

/-- A run of digits in a base, or nothing if no digit is in it. -/
def digitsIn (base : Nat) (digits : Text) : Except ScalarError Nat :=
  if digits.all (· == '_') then .error .badInteger else .ok (valueIn base digits)

/-- A run of decimal digits, unless there are too many. -/
def decimalDigits (digits : Text) : Except ScalarError Nat :=
  if Text.digitLimit < (digits.filter (· != '_')).length then .error .badInteger
  else .ok (valueIn 10 digits)

/-- The magnitude of an integer without its sign, or nothing if a text is none. -/
def magnitude? (t : Text) : Option (Except ScalarError Nat) :=
  match t with
  | '0' :: 'b' :: digits => if areDigits isBinary digits then some (digitsIn 2 digits) else none
  | '0' :: 'x' :: digits =>
    if areDigits (fun c => (Json.hexValue? c).isSome) digits then some (digitsIn 16 digits) else none
  | ['0'] => some (.ok 0)
  | '0' :: digits => if areDigits isOctal digits then some (.ok (valueIn 8 digits)) else none
  | c :: _ =>
    if Text.isAsciiDigit c then
      match Text.splitOn ":" t with
      | [digits] => if areDigits Text.isAsciiDigit digits then some (decimalDigits digits) else none
      | whole :: sixtieths =>
        if areDigits Text.isAsciiDigit whole && sixtieths.all isSixtieth then
          some ((decimalDigits whole).map fun _ => sixtiethValue (whole :: sixtieths))
        else none
      | [] => none
    else none
  | [] => none

/-- The integer that a scalar stands for. -/
def int? (t : Text) : Option (Except ScalarError Int) :=
  let (negative, unsigned) := splitSign t
  (magnitude? unsigned).map fun n => n.map fun n => if negative then -(n : Int) else n

/-- The exponent of a number, which needs its sign; nothing is no exponent. -/
def exponent? (t : Text) : Option Int :=
  match t with
  | [] => some 0
  | e :: sign :: digits =>
    if (e == 'e' || e == 'E') && (sign == '-' || sign == '+') && !digits.isEmpty &&
        digits.all Text.isAsciiDigit then
      let n : Int := Text.digitsValue digits
      some (if sign == '-' then -n else n)
    else none
  | _ => none

/-- The spellings of a number beyond all others. -/
def infinityWords : List Text := [".inf", ".Inf", ".INF"]

/-- The spellings of what is no number. -/
def nanWords : List Text := [".nan", ".NaN", ".NAN"]

/-- The whole part of a number before its point: digits, or parts in base sixty after which no exponent
comes. -/
def wholePart? (whole rest : Text) : Option Nat :=
  match Text.splitOn ":" whole with
  | first :: sixtieths =>
    if first.head?.any Text.isAsciiDigit && areDigits Text.isAsciiDigit first &&
        sixtieths.all isSixtieth && (sixtieths.isEmpty || rest.isEmpty) then
      some (sixtiethValue (first :: sixtieths))
    else none
  | [] => none

/-- The number that a scalar with a point stands for. -/
def double? (t : Text) : Option Double :=
  let (negative, unsigned) := splitSign t
  let signed := unsigned.length < t.length
  if infinityWords.elem unsigned then some (.infinite negative)
  else if !signed && nanWords.elem unsigned then some .notANumber
  else
    match Text.cutAt? '.' unsigned with
    | none => none
    | some (whole, tail) =>
      let fraction := tail.takeWhile fun c => Text.isAsciiDigit c || c == '_'
      let rest := tail.drop fraction.length
      let before : Option Nat :=
        if whole.isEmpty then
          if !signed && fraction.head?.any Text.isAsciiDigit then some 0 else none
        else wholePart? whole rest
      let digits := fraction.filter (· != '_')
      match before, exponent? rest with
      | some n, some e =>
        some (.ofDecimal negative (n * Nat.pow 10 digits.length + Text.digitsValue digits)
          (e - digits.length))
      | _, _ => none

/-- What a scalar without quotes stands for. -/
def plainValue (t : Text) : Except ScalarError Value :=
  if nullWords.elem t then .ok .null
  else if trueWords.elem t then .ok (.bool true)
  else if falseWords.elem t then .ok (.bool false)
  else if reservedWords.elem t then .error .reserved
  else
    match int? t with
    | some n => n.map .int
    | none =>
      match double? t with
      | some x => .ok (.real x)
      | none => .ok (.text t)

/-- A scalar as it is written. -/
inductive Scalar where
  | plain (t : Text)
  /-- Between quotes, with the escapes in it read. -/
  | quoted (t : Text)
  deriving DecidableEq, Inhabited, Repr

/-- What a scalar stands for. -/
def Scalar.value : Scalar → Except ScalarError Value
  | plain t => plainValue t
  | quoted t => .ok (.text t)

end TexMend.Yaml
