import TexMend.Log.Token
import TexMend.Text.Numeral

/-!
# The grammar of log lines

What a single logical line of a log starts: an error block, an error with its place, a warning or a box
report. Lines that open a source file are recognised apart, since such a line may start a record too.
-/

namespace TexMend.Log

/-- The kinds of line that start a record. -/
inductive Trigger where
  /-- A line that begins with an exclamation mark. -/
  | block
  /-- A line `file:line: message`. -/
  | located (file line message : Text)
  | warning
  | box
  deriving DecidableEq, Repr

/-- The parts of `file:line: message`: a file without ASCII blanks and colons, a run of ASCII digits,
and anything that is not empty. Blanks before the message are not part of it, unless there is nothing
else, when its last character is taken. -/
def located? (line : Text) : Option (Text × Text × Text) :=
  let file := line.takeWhile fun c => !Text.isAsciiBlank c && c != ':'
  match line.drop file.length with
  | ':' :: rest =>
    let digits := rest.takeWhile Text.isAsciiDigit
    match rest.drop digits.length with
    | ':' :: tail =>
      if file.isEmpty || digits.isEmpty || tail.isEmpty then none
      else
        match tail.dropWhile Text.isAsciiBlank with
        | [] => some (file, digits, tail.drop (tail.length - 1))
        | message => some (file, digits, message)
    | _ => none
  | _ => none

/-- What a line starts, in order of priority. -/
def Trigger.ofLine? (line : Text) : Option Trigger :=
  if ("!" : Text).isPrefixOf line then some .block
  else
    match located? line with
    | some (file, digits, message) => some (.located file digits message)
    | none =>
      if Text.includes "LaTeX Warning:" line ||
          (Text.includes "Package" line && Text.includes "Warning:" line) then
        some .warning
      else if ("Overfull" : Text).isPrefixOf line || ("Underfull" : Text).isPrefixOf line then
        some .box
      else none

/-- The extensions of the files that a log announces when it opens them. -/
def fileExtensions : List Text :=
  [".tex", ".sty", ".cls", ".bbl", ".aux"]

/-- Does a file name end with one of the extensions and have something before it? -/
def isFileName (name : Text) : Bool :=
  fileExtensions.any fun ext => ext.isSuffixOf name && ext.length < name.length

/-- The longest beginning of `name` that is a file name; `n` is the length to try first. -/
def longestFileName? (name : Text) : Nat → Option Text
  | 0 => none
  | n + 1 =>
    let candidate := name.take (n + 1)
    if isFileName candidate then some candidate else longestFileName? name n

/-- The file that a line announces after an opening parenthesis. -/
def openedFile? (line : Text) : Option Text :=
  match line with
  | '(' :: rest =>
    let path := rest.takeWhile fun c => !Text.isBlank c && c != '(' && c != ')'
    longestFileName? path path.length
  | _ => none

/-- The source line that a context line `l.<n>` names: the digits must be followed by an ASCII blank or
the end of the line. -/
def lineMarker? (line : Text) : Option Text :=
  match Text.after? "l." line with
  | none => none
  | some rest =>
    let digits := rest.takeWhile Text.isAsciiDigit
    if digits.isEmpty then none
    else
      match rest.drop digits.length with
      | [] => some digits
      | c :: _ => if Text.isAsciiBlank c then some digits else none

/-- A source line from its digits; digit runs beyond the limit name none. -/
def sourceLine? (digits : Text) : Option Int :=
  (Text.readDigits? digits).map fun n => (n : Int)

end TexMend.Log
