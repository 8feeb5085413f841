import TexMend.Settings.Issue
import TexMend.Value.Basic
import TexMend.Text.Class
import TexMend.Text.Search

/-!
# Reading settings

Readers of single values. They are lenient: a number may come as a text, a truth value as a number or as
one of several words, and a whole number as a fraction without a rest. Bounds are checked after that.
-/

namespace TexMend.Settings

/-- A reader of a value. -/
abbrev Reader (α : Type) := Value → Checked α

/-- The blanks around numbers in texts; the four information separators are not among them. -/
def isPadding (c : Char) : Bool :=
  Text.isBlank c && !(28 ≤ c.toNat && c.toNat ≤ 31)

/-- A text without the blanks around it. -/
def trim (t : Text) : Text :=
  Text.dropEndWhile isPadding (t.dropWhile isPadding)

/-- A text without its sign, and whether it is negative. -/
def splitSign (t : Text) : Bool × Text :=
  match t with
  | '-' :: rest => (true, rest)
  | '+' :: rest => (false, rest)
  | _ => (false, t)

/-- Digits that a numeral may begin with. -/
def isLeadingDigit (c : Char) : Bool :=
  '1' ≤ c && c ≤ '9'

/-- What is left of a numeral after zeros, of which `last` is the latest: zeros and underscores are left
out up to a digit or a minus sign. Before a point, and at the end, the latest of them stays. -/
def afterZeros? (last : Char) : Text → Option Text
  | [] => some [last]
  | c :: cs =>
    if c == '0' || c == '_' then afterZeros? c cs
    else if isLeadingDigit c || c == '-' then some (c :: cs)
    else if c == '.' then some (last :: c :: cs)
    else none

/-- A numeral without the zeros in front of it. -/
def dropLeadingZeros? (t : Text) : Option Text :=
  match t with
  | [] => none
  | c :: cs =>
    if c == '0' then afterZeros? c cs else if isLeadingDigit c || c == '-' then some t else none

/-- A text without a point that zeros follow, at least one and nothing else. -/
def dropZeroFraction (t : Text) : Text :=
  match Text.cutAt? '.' t with
  | some (whole, fraction) => if !fraction.isEmpty && fraction.all (· == '0') then whole else t
  | none => t

/-- A text without its underscores, if it has any and they stand single and inside. -/
def dropUnderscores? (t : Text) : Option Text :=
  if t.head? = some '_' || t.getLast? = some '_' || Text.includes "__" t ||
      !Text.includes "_" t then none
  else some (t.filter (· != '_'))

/-- The integer that a numeral stands for: a zero, or digits without a zero in front, and perhaps a minus
sign. A numeral with too many digits is known to be too long before its end is looked at. -/
def intOfNumeral (t : Text) : Checked Int :=
  let digits : Text :=
    match t with
    | '-' :: rest => rest
    | _ => t
  let run := digits.takeWhile Text.isAsciiDigit
  let negative := digits.length < t.length
  if digits = ['0'] then .ok 0
  else if run.head?.any isLeadingDigit then
    if Text.digitLimit < (t.length - digits.length) + run.length then .issue .intParsingSize
    else if run.length < digits.length then .issue .intParsing
    else
      let n : Int := Text.digitsValue run
      .ok (if negative then -n else n)
  else .issue .intParsing

/-- The integer that a text holds: blanks around it, a plus sign, zeros in front, a fraction of zeros and
single underscores do not count. -/
def intOfText (t : Text) : Checked Int :=
  let unsigned : Text :=
    match trim t with
    | '+' :: rest => if rest.head? = some '-' then [] else rest
    | other => other
  match dropLeadingZeros? unsigned with
  | none => .issue .intParsing
  | some numeral =>
    let whole := dropZeroFraction numeral
    intOfNumeral ((dropUnderscores? whole).getD whole)

/-- The integer that a floating-point number is; beyond 64 bits it is too large. -/
def intOfDouble (x : Double) : Checked Int :=
  if !x.isFinite then .issue .finiteNumber
  else
    match x.toInt? with
    | none => .issue .intFromFloat
    | some n => if n.natAbs < Nat.pow 2 63 then .ok n else .issue .intParsingSize

/-- Read an integer. -/
def readInt : Reader Int
  | .int n => .ok n
  | .bool b => .ok (if b then 1 else 0)
  | .real x => intOfDouble x
  | .text t => intOfText t
  | _ => .issue .intType

/-- Read an integer from `low` to `high`. -/
def readIntWithin (low high : Int) (v : Value) : Checked Int :=
  match readInt v with
  | .error e => .error e
  | .ok n =>
    if high < n then .issue .lessThanEqual
    else if n < low then .issue .greaterThanEqual
    else .ok n

/-- An exponent with its mark: nothing, or a letter, a sign and digits. -/
def exponentOf? (t : Text) : Option Int :=
  match t with
  | [] => some 0
  | c :: rest =>
    if c == 'e' || c == 'E' then
      let (negative, digits) := splitSign rest
      if !digits.isEmpty && digits.all Text.isAsciiDigit then
        let n : Int := Text.digitsValue digits
        some (if negative then -n else n)
      else none
    else none

/-- The words for numbers without digits, in lower case. -/
def wordNumber? (negative : Bool) (t : Text) : Option Double :=
  let lower := t.map Text.lowerAscii
  if lower = "inf" || lower = "infinity" then some (.infinite negative)
  else if lower = "nan" then some .notANumber
  else none

/-- The number that a plain numeral stands for: digits with at most one point among or around them, and
an exponent. -/
def doubleOfNumeral? (t : Text) : Option Double :=
  let (negative, unsigned) := splitSign t
  let whole := unsigned.takeWhile Text.isAsciiDigit
  let rest := unsigned.drop whole.length
  let (fraction, rest) : Text × Text :=
    match rest with
    | '.' :: more =>
      let digits := more.takeWhile Text.isAsciiDigit
      (digits, more.drop digits.length)
    | _ => ([], rest)
  if whole.isEmpty && fraction.isEmpty then wordNumber? negative unsigned
  else
    (exponentOf? rest).map fun e =>
      .ofDecimal negative (Text.digitsValue (whole ++ fraction)) (e - fraction.length)

/-- The number that a text holds. -/
def doubleOfText (t : Text) : Checked Double :=
  match (doubleOfNumeral? (trim t)).or ((dropUnderscores? t).bind doubleOfNumeral?) with
  | some x => .ok x
  | none => .issue .floatParsing

/-- Read a floating-point number. -/
def readDouble : Reader Double
  | .real x => .ok x
  | .int n =>
    let x := Double.ofInt n
    if x.isFinite then .ok x else .issue .floatType
  | .bool b => .ok (.ofInt (if b then 1 else 0))
  | .text t => doubleOfText t
  | _ => .issue .floatType

/-- Read a floating-point number above zero and up to `high`. What is no number is not up to `high`. -/
def readDoubleUpTo (high : Number) (v : Value) : Checked Double :=
  match readDouble v with
  | .error e => .error e
  | .ok x =>
    if !(Number.real x).le high then .issue .lessThanEqual
    else if (Number.real x).le (.int 0) then .issue .greaterThan
    else .ok x

/-- The words for yes, in lower case. -/
def yesWords : List Text := ["1", "true", "t", "yes", "y", "on"]

/-- The words for no, in lower case. -/
def noWords : List Text := ["0", "false", "f", "no", "n", "off"]

/-- The truth value that an integer stands for. Integers beyond 64 bits are not even taken for one. -/
def boolOfInt (n : Int) : Checked Bool :=
  if n = 1 then .ok true
  else if n = 0 then .ok false
  else if -(Nat.pow 2 63 : Nat) ≤ n && n < (Nat.pow 2 63 : Nat) then .issue .boolParsing
  else .issue .boolType

/-- Read a truth value. -/
def readBool : Reader Bool
  | .bool b => .ok b
  | .int n => boolOfInt n
  | .real x =>
    match intOfDouble x with
    | .ok n => boolOfInt n
    | .error _ => .issue .boolType
  | .text t =>
    let lower := t.map Text.lowerAscii
    if yesWords.elem lower then .ok true
    else if noWords.elem lower then .ok false
    else .issue .boolParsing
  | _ => .issue .boolType

/-- Read a text. -/
def readText : Reader Text
  | .text t => .ok t
  | _ => .issue .stringType

/-- Read a text that is not empty. -/
def readNonEmpty (v : Value) : Checked Text :=
  match readText v with
  | .error e => .error e
  | .ok t => if t.isEmpty then .issue .stringTooShort else .ok t

/-- Read one of a closed list of names. -/
def readChoice {α : Type} (name : α → Text) (all : List α) : Reader α
  | .text t =>
    match all.find? fun a => name a = t with
    | some a => .ok a
    | none => .issue .literalError
  | _ => .issue .literalError

/-- A path in its shortest form without looking at any directory: no empty parts and no single points.
Two slashes at the start, but not more, keep their number. -/
def normalPath (t : Text) : Text :=
  let root : Text :=
    match t with
    | '/' :: '/' :: '/' :: _ => "/"
    | '/' :: '/' :: _ => "//"
    | '/' :: _ => "/"
    | _ => ""
  let parts := (Text.splitOn "/" t).filter fun p => !(p.isEmpty || p == ['.'])
  match root ++ Text.joinWith "/" parts with
  | [] => "."
  | path => path

/-- Read a path. -/
def readPath : Reader Text
  | .text t => .ok (normalPath t)
  | _ => .issue .pathType

/-- Read a section: its fields are known to be those of a record. -/
def readSection {α : Type} (read : Fields → Checked α) : Reader α
  | .record fields => read fields
  | _ => .issue .modelType

/-- Read a section that may be null. -/
def readOptional {α : Type} (read : Reader α) : Reader (Option α)
  | .null => .ok none
  | v => (read v).map some

/-- The value of a field, or the default if it is not there. -/
def fieldOr {α : Type} (name : Text) (default : α) (read : Reader α) (fields : Fields) : Checked α :=
  match Fields.get? name fields with
  | some v => .under name (read v)
  | none => .ok default

/-- The value of a field that must be there. -/
def fieldNeeded {α : Type} (name : Text) (read : Reader α) (fields : Fields) : Checked α :=
  match Fields.get? name fields with
  | some v => .under name (read v)
  | none => .under name (.issue .missing)

end TexMend.Settings
