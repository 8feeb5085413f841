import TexMend.Value.Json
import TexMend.Value.Yaml.Scalar

/-!
# Quoted scalars of YAML

Reading a text between single quotes, in which a quote is written twice, or between double quotes, in which
a backslash begins an escape. A quoted scalar ends on its line.
-/

namespace TexMend.Yaml

/-- A result and the rest of the input, or nothing where the input is refused. -/
abbrev Parsed (α β : Type) := Option (α × β)

/-- A text between single quotes, of which the first is already read, and the rest. -/
def singleQuoted : Text → Parsed Text Text
  | [] => none
  | '\'' :: '\'' :: rest => (singleQuoted rest).map fun (t, rest) => ('\'' :: t, rest)
  | '\'' :: rest => some ([], rest)
  | c :: rest => (singleQuoted rest).map fun (t, rest) => (c :: t, rest)

/-- The character that a one-letter escape stands for. -/
def letterEscape? : Char → Option Char
  | '0' => some '\x00'
  | 'a' => some '\x07'
  | 'b' => some '\x08'
  | 't' => some '\t'
  | '\t' => some '\t'
  | 'n' => some '\n'
  | 'v' => some '\x0b'
  | 'f' => some '\x0c'
  | 'r' => some '\r'
  | 'e' => some '\x1b'
  | ' ' => some ' '
  | '"' => some '"'
  | '/' => some '/'
  | '\\' => some '\\'
  | 'N' => some (Char.ofNat 0x85)
  | '_' => some (Char.ofNat 0xA0)
  | 'L' => some (Char.ofNat 0x2028)
  | 'P' => some (Char.ofNat 0x2029)
  | _ => none

/-- How many hexadecimal digits follow an escape letter. -/
def hexWidth? : Char → Option Nat
  | 'x' => some 2
  | 'u' => some 4
  | 'U' => some 8
  | _ => none

/-- A character by its code of `width` hexadecimal digits, and the rest. -/
def hexChar? (width : Nat) (t : Text) : Parsed Char Text :=
  let digits := t.take width
  if digits.length = width && digits.all fun c => (Json.hexValue? c).isSome then
    some (Char.ofNat (valueIn 16 digits), t.drop width)
  else none

/-- A text between double quotes, of which the first is already read, and the rest; `fuel` bounds its
length. -/
def doubleQuoted : Nat → Text → Parsed Text Text
  | 0, _ => none
  | _, [] => none
  | _, '"' :: rest => some ([], rest)
  | fuel + 1, '\\' :: e :: rest =>
    let char : Parsed Char Text :=
      match hexWidth? e with
      | some width => hexChar? width rest
      | none => (letterEscape? e).map (·, rest)
    match char with
    | none => none
    | some (c, rest) => (doubleQuoted fuel rest).map fun (t, rest) => (c :: t, rest)
  | fuel + 1, c :: rest => (doubleQuoted fuel rest).map fun (t, rest) => (c :: t, rest)

/-- A quoted text at the start, and the rest. -/
def quoted? (t : Text) : Parsed Text Text :=
  match t with
  | '\'' :: rest => singleQuoted rest
  | '"' :: rest => doubleQuoted (rest.length + 1) rest
  | _ => none

end TexMend.Yaml
