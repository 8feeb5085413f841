import TexMend.Log.Line
import TexMend.Log.Record
import TexMend.Log.Wrap
import TexMend.Text.Cut

/-!
# Reading a log

Every logical line that starts a record gives exactly one, and no line stops the reading. A record sees
its own line, the file that is open there, and a window of the lines that follow.
-/

namespace TexMend.Log

/-- How far the reader looks and how long it lets messages be. Counts below zero are measured from the
far end. -/
structure Options where
  /-- Lines after an error line among which the source line is looked for. -/
  contextLines : Int := 5
  /-- Lines after a warning that may continue it. -/
  warningContinuationLines : Int := 3
  warningMessageLimit : Int := 200
  boxMessageLimit : Int := 120
  deriving DecidableEq, Inhabited, Repr

/-- What a log says once a document is written. -/
def producedMark : Text := "Output written on"

theorem newline_not_mem_producedMark : '\n' ∉ producedMark := by decide

theorem return_not_mem_producedMark : '\r' ∉ producedMark := by decide

/-- The lines of an error block after its first: up to and including the first that names a source line.
The digits of that line come with them. -/
def blockContext : List Text → List Text × Option Text
  | [] => ([], none)
  | line :: rest =>
    match lineMarker? line with
    | some digits => ([line], some digits)
    | none =>
      let (more, digits) := blockContext rest
      (line :: more, digits)

/-- The token that a repair of an error block hinges on; `headline` is its first line. -/
def blockToken? (category : Category) (headline block : Text) : Option Text :=
  match category with
  | .undefinedControlSequence =>
    match lineEndCommand? block with
    | some command => some command
    | none => firstCommand? block
  | .unclosedEnvironment => (firstMarker? block).map EnvironmentMarker.text
  | .fileNotFound => quotedName? headline
  | .generalError => packageName? headline
  | _ => none

/-- A token as it is shown in a message. -/
def shown (token : Option Text) : Text :=
  match token with
  | some t => if t.isEmpty then "unknown" else t
  | none => "unknown"

/-- The message of an error block. -/
def blockMessage (category : Category) (headline : Text) (token : Option Text) : Text :=
  match category with
  | .undefinedControlSequence => "Undefined control sequence: " ++ shown token
  | .missingMathDelimiter => "Missing $ inserted: math mode required here"
  | .unclosedEnvironment =>
    "Environment mismatch: " ++ shown ((token.bind firstMarker?).map EnvironmentMarker.name)
  | .fileNotFound => "File not found: " ++ shown token
  | _ => Text.strip (headline.drop 1)

/-- The record of an error block. -/
def blockRecord (id : Text) (file : Option Text) (headline : Text) (following : List Text) : Record :=
  let (context, digits) := blockContext following
  let block := Text.joinLines (headline :: context)
  let category := Category.ofMessage headline
  let token := blockToken? category headline block
  { id, severity := .error, category, message := blockMessage category headline token
    rawLog := block, file, line := digits.bind sourceLine?, offendingText := token }

/-- The record of an error that comes with its place. -/
def locatedRecord (id file digits message : Text) : Record :=
  let token :=
    match firstCommand? message with
    | some command => some command
    | none => quotedName? message
  { id, severity := .error, category := Category.ofMessage message, message := Text.strip message
    rawLog := file ++ ":" ++ digits ++ ": " ++ message
    file := some file, line := sourceLine? digits, offendingText := token }

/-- The lines that continue a warning: indented or empty ones, up to the first other line. -/
def continuation (following : List Text) : List Text :=
  following.takeWhile fun line => line.isEmpty || (" " : Text).isPrefixOf line

/-- A warning with its continuation on one line. -/
def joinContinuation (first : Text) (following : List Text) : Text :=
  (continuation following).foldl (fun acc line => acc ++ ' ' :: Text.strip line) first

/-- The category of a warning. -/
def warningCategory (warning : Text) : Category :=
  let has (part : Text) : Bool := Text.includes part warning
  if has "Citation" && has "undefined" then .citationWarning
  else if has "Reference" && has "undefined" then .referenceWarning
  else if has "Font" then .fontWarning
  else .generalWarning

/-- What follows the last "Warning:" in any case, if there is one on the first line. -/
def afterWarningMark? : Text → Option Text
  | [] => none
  | c :: cs =>
    if c = '\n' then none
    else
      match afterWarningMark? cs with
      | some rest => some rest
      | none => Text.afterFolded? "warning:" (c :: cs)

/-- The message of a warning, without what leads up to it. -/
def warningMessage (warning : Text) : Text :=
  Text.strip ((afterWarningMark? warning).getD warning)

/-- The record of a warning. -/
def warningRecord (options : Options) (id : Text) (file : Option Text) (first : Text)
    (following : List Text) : Record :=
  let warning := joinContinuation first following
  { id, severity := .warning, category := warningCategory warning
    message := Text.limit options.warningMessageLimit (warningMessage warning)
    rawLog := warning, file
    line := (digitsAfter? "on input line " warning).bind sourceLine?, offendingText := none }

/-- The four kinds of box that can be too full or too empty. -/
def boxNames : List Text :=
  ["Overfull \\hbox", "Overfull \\vbox", "Underfull \\hbox", "Underfull \\vbox"]

/-- The digits of the paragraph's first line in a box report at the start of a text. -/
def boxDigitsAt? (text : Text) : Option Text :=
  match boxNames.findSome? fun name => Text.after? name text with
  | none => none
  | some rest =>
    match Text.cutAt? ')' rest with
    | none => none
    | some (_, tail) =>
      match Text.after? " in paragraph at line" tail with
      | none => none
      | some plural =>
        let spaced := (Text.after? "s" plural).getD plural
        match Text.after? " " spaced with
        | none => none
        | some number =>
          let digits := number.takeWhile Text.isAsciiDigit
          if digits.isEmpty then none else some digits

/-- The record of a box report. -/
def boxRecord (options : Options) (id : Text) (file : Option Text) (line : Text) : Record :=
  { id, severity := .warning
    category := if ("Overfull" : Text).isPrefixOf line then .overfullBox else .underfullBox
    message := Text.limit options.boxMessageLimit line
    rawLog := line, file
    line := (Text.firstAt? boxDigitsAt? line).bind sourceLine?, offendingText := none }

/-- The record that a line with the given trigger starts; `index` lines stand before it and `rest` follow,
of `total`. -/
def Trigger.record (options : Options) (total index : Nat) (file : Option Text) (id line : Text)
    (rest : List Text) : Trigger → Record
  | .block => blockRecord id file line (Text.window index total options.contextLines rest)
  | .located path digits message => locatedRecord id path digits message
  | .warning =>
    warningRecord options id file line
      (Text.window index total options.warningContinuationLines rest)
  | .box => boxRecord options id file line

/-- The record that a line starts, if it has a trigger. -/
def recordAt? (options : Options) (total index : Nat) (file : Option Text) (id line : Text)
    (rest : List Text) : Option Record :=
  (Trigger.ofLine? line).map (Trigger.record options total index file id line rest)

/-- The records of the lines from position `index` on; `found` records stand before them, and `file`
is open. -/
def scan (options : Options) (total : Nat) :
    Nat → Option Text → Nat → List Text → List Record
  | _, _, _, [] => []
  | index, file, found, line :: rest =>
    let file := (openedFile? line).or file
    match recordAt? options total index file (Record.idOf (found + 1)) line rest with
    | some record => record :: scan options total (index + 1) file (found + 1) rest
    | none => scan options total (index + 1) file found rest

/-- All records of a log, in its order. -/
def records (options : Options) (log : Text) : List Record :=
  let lines := logicalLines log
  scan options lines.length 0 none 0 lines

/-- Read a log. -/
def parse (options : Options) (log : Text) : ParsedLog :=
  let all := records options log
  { errors := all.filter fun r => r.severity = .error
    warnings := all.filter fun r => r.severity = .warning
    pdfProduced := Text.includes producedMark log }

end TexMend.Log
