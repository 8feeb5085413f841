import TexMend.Text.Search
import TexMend.Text.Class

/-!
# Tokens in log text

The pieces of a message that a repair hinges on: a control word, an environment marker, a quoted name,
the name of a package.
-/

namespace TexMend.Log

/-- The characters of a control word after its backslash, as internal commands have them. -/
def isCommandChar (c : Char) : Bool :=
  Text.isAsciiLetter c || c == '@'

/-- The control word at the start of a text, without its backslash, and what follows it. -/
def controlWord? : Text → Option (Text × Text)
  | '\\' :: rest =>
    let word := rest.takeWhile isCommandChar
    if word.isEmpty then none else some (word, rest.drop word.length)
  | _ => none

/-- Do only blanks stand between here and the end of the line? -/
def endsLine (rest : Text) : Bool :=
  match rest.dropWhile fun c => Text.isBlank c && c != '\n' with
  | [] => true
  | c :: _ => c == '\n'

/-- The first control word, with its backslash. -/
def firstCommand? (text : Text) : Option Text :=
  Text.firstAt? (fun t => (controlWord? t).map fun (word, _) => '\\' :: word) text

/-- The first control word with which a line ends, with its backslash. -/
def lineEndCommand? (text : Text) : Option Text :=
  Text.firstAt?
    (fun t =>
      match controlWord? t with
      | some (word, rest) => if endsLine rest then some ('\\' :: word) else none
      | none => none)
    text

/-- The marker of the beginning or the end of an environment. -/
structure EnvironmentMarker where
  /-- The command and the opening brace. -/
  lead : Text
  name : Text

/-- The marker as it is written. -/
def EnvironmentMarker.text (m : EnvironmentMarker) : Text :=
  m.lead ++ m.name ++ "\x7d"

/-- A non-empty name up to the next closing brace. -/
def bracedName? (rest : Text) : Option Text :=
  match Text.cutAt? '}' rest with
  | some (name, _) => if name.isEmpty then none else some name
  | none => none

/-- The environment marker at the start of a text. -/
def markerAt? (lead : Text) (text : Text) : Option EnvironmentMarker :=
  match Text.after? lead text with
  | some rest => (bracedName? rest).map fun name => ⟨lead, name⟩
  | none => none

/-- The first environment marker. -/
def firstMarker? (text : Text) : Option EnvironmentMarker :=
  Text.firstAt?
    (fun t =>
      match markerAt? "\\begin\x7b" t with
      | some m => some m
      | none => markerAt? "\\end\x7b" t)
    text

/-- The quotes that enclose names in messages. -/
def isNameQuote (c : Char) : Bool :=
  c == '`' || c == '\''

/-- The first non-empty name between quotes. -/
def quotedName? (text : Text) : Option Text :=
  Text.firstAt?
    (fun t =>
      match t with
      | [] => none
      | c :: rest =>
        let name := rest.takeWhile fun d => !isNameQuote d
        if isNameQuote c && !name.isEmpty && name.length < rest.length then some name else none)
    text

/-- The package named by a message of the form "Package … Error". -/
def packageName? (text : Text) : Option Text :=
  Text.firstAt?
    (fun t =>
      match Text.after? "Package" t with
      | none => none
      | some rest =>
        let spaced := rest.dropWhile Text.isBlank
        let name := spaced.takeWhile fun c => !Text.isBlank c
        let after := spaced.drop name.length
        let next := after.dropWhile Text.isBlank
        if spaced.length < rest.length && !name.isEmpty && next.length < after.length &&
            ("Error" : Text).isPrefixOf next then
          some name
        else none)
    text

/-- The digits that follow the first occurrence of `lead` with a digit after it. -/
def digitsAfter? (lead text : Text) : Option Text :=
  Text.firstAt?
    (fun t =>
      match Text.after? lead t with
      | none => none
      | some rest =>
        let digits := rest.takeWhile Text.isAsciiDigit
        if digits.isEmpty then none else some digits)
    text

end TexMend.Log
