import TexMend.Text.Search
import TexMend.Text.Integer

/-!
# Placeholder templates

The placeholder that takes the place of a secret is a template: escapes in it stand for control
characters, for a character by its octal code, or for the whole secret. A reference to a part of the
secret is refused, because no part is common to all kinds.
-/

namespace TexMend.Secret

/-- A piece of a template. -/
inductive TemplatePart where
  | char (c : Char)
  /-- The secret itself. -/
  | whole
  deriving DecidableEq, Repr

/-- A template is the list of its pieces. -/
abbrev Template := List TemplatePart

namespace Template

/-- The text of a template for a given secret. -/
def fill (template : Template) (secret : Text) : Text :=
  template.flatMap fun
    | .char c => [c]
    | .whole => secret

def isOctalDigit (c : Char) : Bool :=
  '0' ≤ c && c ≤ '7'

/-- The character that a letter after a backslash stands for. -/
def letterEscape? : Char → Option Char
  | 'a' => some '\x07'
  | 'b' => some '\x08'
  | 'f' => some '\x0c'
  | 'n' => some '\n'
  | 'r' => some '\r'
  | 't' => some '\t'
  | 'v' => some '\x0b'
  | _ => none

/-- The value of a run of octal digits. -/
def octalValue (digits : Text) : Nat :=
  digits.foldl (fun n c => 8 * n + Text.digitValue c) 0

/-- What a reference `<…>` after `\g` names: only the whole secret, which is number zero in any
spelling. -/
def namedReference? (text : Text) : Option (TemplatePart × Text) :=
  match text with
  | '<' :: rest =>
    match Text.cutAt? '>' rest with
    | some (name, after) =>
      if Text.typedInt? name = some 0 then some (.whole, after) else none
    | none => none
  | _ => none

/-- An escape of digits: after a zero up to two more octal digits, otherwise three octal digits below
`0o400`. Fewer digits are a reference to a part. -/
def digitEscape? (first : Char) (rest : Text) : Option (TemplatePart × Text) :=
  if first = '0' then
    let more := (rest.take 2).takeWhile isOctalDigit
    some (.char (Char.ofNat (octalValue more)), rest.drop more.length)
  else
    let three := first :: rest.take 2
    if three.length = 3 && three.all isOctalDigit && octalValue three < 256 then
      some (.char (Char.ofNat (octalValue three)), rest.drop 2)
    else none

/-- What an escape stands for, and the rest; the backslash is already read. A backslash before anything
but a letter or a digit stands for itself. -/
def escape? : Text → Option (Template × Text)
  | [] => none
  | c :: rest =>
    if c = 'g' then (namedReference? rest).map fun (part, rest) => ([part], rest)
    else if Text.isAsciiDigit c then (digitEscape? c rest).map fun (part, rest) => ([part], rest)
    else if c = '\\' then some ([.char c], rest)
    else if Text.isAsciiLetter c then (letterEscape? c).map fun d => ([.char d], rest)
    else some ([.char '\\', .char c], rest)

/-- Read a template; `fuel` bounds the number of pieces. -/
def readFrom : Nat → Text → Option Template
  | _, [] => some []
  | 0, _ => none
  | fuel + 1, '\\' :: rest =>
    match escape? rest with
    | none => none
    | some (parts, rest) => (readFrom fuel rest).map (parts ++ ·)
  | fuel + 1, c :: rest => (readFrom fuel rest).map (.char c :: ·)

/-- Read a template, unless an escape in it is refused. -/
def read? (text : Text) : Option Template :=
  readFrom (text.length + 1) text

end Template

end TexMend.Secret
