import TexMend.Journal.Event
import TexMend.Secret.Redactor
import TexMend.Settings.Sections
import TexMend.Value.Json
import TexMend.Value.Literal
import TexMend.Text.Search

/-!
# Entries of the journal

An entry is a record of values. Every text in it is masked before it is written, as one line of JSON or as
a line for the console. A trace of the calls is put into the entry before that, the trace of a failure
behind it.
-/

namespace TexMend.Journal

open Secret (Redactor)

/-- The name under which the service writes. -/
def serviceName : Text := "latex-repair"

/-- The version of the service. -/
def version : Text := "0.1.0"

mutual

/-- Mask every text in a value; keys stay. Values may be nested to any depth: that an interpreter runs out of
stack on deep ones is left out. -/
def maskValue : Value → Value
  | .text t => .text (Redactor.maskStandard t)
  | .list items => .list (maskItems items)
  | .tuple items => .tuple (maskItems items)
  | .record fields => .record (maskFields fields)
  | other => other

/-- Mask every item. -/
def maskItems : List Value → List Value
  | [] => []
  | item :: rest => maskValue item :: maskItems rest

/-- Mask the value of every field. -/
def maskFields : List (Text × Value) → Fields
  | [] => []
  | (key, value) :: rest => (key, maskValue value) :: maskFields rest

end

/-- Add the name and the version of the service, unless the entry has its own. -/
def addService (entry : Fields) : Fields :=
  Fields.putDefault "version" (.text version) (Fields.putDefault "service" (.text serviceName) entry)

/-- What is at hand when an entry is told: the time, the calls that lead there and the failure that is being
handled, if there is one, both as a trace writes them. -/
structure Moment where
  time : Text
  calls : Text := []
  failure : Option Text := none

/-- The fields of an entry before it is masked: its own values, what happened, the bound values that it
lacks, the service, and who tells it, how important it is and when. -/
def assemble (bound values : Fields) (event logger : Text) (level : Level) (timestamp : Text) :
    Fields :=
  let own := Fields.put "event" (.text event) values
  let all := bound.foldl (fun acc (k, v) => Fields.putDefault k v acc) own
  [("logger", Value.text logger), ("level", .text level.name), ("timestamp", .text timestamp)].foldl
    (fun acc (k, v) => Fields.put k v acc) (addService all)

/-- Does an entry ask for a trace? -/
def asks (request : Text) (entry : Fields) : Bool :=
  (Fields.get? request entry).any fun v => !v.isVoid

/-- Take out the field that asks for a trace, and show the trace if it is asked for and there is one. -/
def putTrace (request shown : Text) (trace : Option Text) (entry : Fields) : Fields :=
  let rest := Fields.erase request entry
  match trace with
  | some t => if asks request entry then Fields.put shown (.text t) rest else rest
  | none => rest

/-- The fields of an entry as they are written. The trace of the calls is masked with them; that of the failure
comes later. -/
def finish (m : Moment) (entry : Fields) : Fields :=
  putTrace "exc_info" "exception" m.failure (maskFields (putTrace "stack_info" "stack" (some m.calls) entry))

/-- Fill a text with spaces on the right. -/
def pad (width : Nat) (t : Text) : Text :=
  t ++ List.replicate (width - t.length) ' '

/-- A field as a text, empty if it is not there. -/
def bareField (key : Text) (entry : Fields) : Text :=
  ((Fields.get? key entry).map Value.bare).getD []

/-- The fields that name who tells an entry. -/
def loggerKeys : List Text := ["logger", "logger_name"]

/-- The fields that the console shows at fixed places. -/
def placedKeys : List Text :=
  ["timestamp", "level", "event", "logger", "logger_name", "stack", "exception"]

/-- The columns of a console line: time, level, what happened, who tells it, and the other fields sorted by
key. -/
def consoleColumns (entry : Fields) : List Text :=
  let others := (entry.filter fun (k, _) => !placedKeys.elem k).mergeSort fun a b => Text.atMost a.1 b.1
  let bracketed (t : Text) : Text := "[" ++ t ++ "]"
  let loggers := loggerKeys.filterMap fun key => (Fields.get? key entry).map (bracketed ·.bare)
  let named := others.map fun (k, v) => k ++ '=' :: v.bare
  bareField "timestamp" entry :: bracketed (pad 9 (bareField "level" entry)) ::
    pad 30 (bareField "event" entry) :: (loggers ++ named)

/-- The field of a trace, unless it is null. -/
def traceField? (key : Text) (entry : Fields) : Option Text :=
  match Fields.get? key entry with
  | none | some .null => none
  | some v => some v.bare

/-- What the console shows below the line: the calls and the failure, with a rule between them. -/
def consoleTrace (entry : Fields) : Text :=
  let below (t : Text) : Text := '\n' :: t
  match traceField? "stack" entry, traceField? "exception" entry with
  | none, none => []
  | some calls, none => below calls
  | none, some failure => below failure
  | some calls, some failure =>
    below calls ++ "\n\n" ++ List.replicate 79 '=' ++ "\n" ++ below failure

/-- An entry for the console: one line without spaces at its end, and the traces that it has. -/
def consoleLine (entry : Fields) : Text :=
  Text.dropEndWhile (· == ' ') (Text.joinWith " " (consoleColumns entry)) ++ consoleTrace entry

/-- An entry as a line of a format. -/
def line : Settings.EntryFormat → Fields → Text
  | .json, entry => Json.write (.record entry)
  | .console, entry => consoleLine entry

end TexMend.Journal
