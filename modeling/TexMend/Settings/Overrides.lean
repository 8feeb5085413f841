import TexMend.Settings.Sections
import TexMend.Value.Json

/-!
# Overrides from the environment

Variables of the environment fill in settings that are not given otherwise. `LATEX_REPAIR_<SECTION>` holds
a whole section as JSON, and null is no section; `LATEX_REPAIR_<SECTION>__<FIELD>`, with more underscore
pairs for nested fields, holds one field and goes before the whole section. Names are compared without
regard to case, and other variables are ignored. The sections of the data above them may be named in any
case too.
-/

namespace TexMend.Settings

/-- The variables of an environment, in its order. -/
abbrev Variables := List (Text × Text)

/-- A variable that must hold JSON does not. -/
structure OverrideError where
  /-- The section that it is for. -/
  sectionName : Text

/-- The wording for the user. -/
def OverrideError.message (e : OverrideError) : Text :=
  "error parsing value for field \"" ++ e.sectionName ++ "\" from source \"EnvSettingsSource\""

/-- How the names of variables begin, in lower case. -/
def variableLead : Text := "latex_repair_"

/-- What separates the parts of a name. -/
def partMark : Text := "__"

/-- A name in lower case. Outside ASCII only the kelvin sign has an ASCII letter as its lower case, so
other letters may stay: they are in no name that counts. -/
def lowerName (name : Text) : Text :=
  name.map fun c => if c.toNat = 0x212A then 'k' else Text.lowerAscii c

/-- Variables by their names in lower case; of equal names the last value counts, in the first place. -/
def lowerNames (env : Variables) : Variables :=
  env.foldl (fun acc (name, value) =>
    let key := lowerName name
    if acc.any (fun (k, _) => k = key) then
      acc.map fun (k, v) => if k = key then (k, value) else (k, v)
    else acc ++ [(key, value)]) []

/-! ## The fields that there are -/

/-- The fields of all sections with their defaults. A section that may be missing is null here. -/
def standardFields : Fields :=
  match write {} with
  | .record fields => fields
  | _ => []

/-- The default of a field with a name in lower case, which may repeat how variables begin. -/
def standardOf? (name : Text) (fields : Fields) : Option Value :=
  (fields.find? fun (k, _) => k = name || variableLead ++ k = name).map Prod.snd

/-- What kind of field a path leads to. -/
inductive FieldKind where
  | plain
  /-- A section inside a section; the variable holds JSON. -/
  | nested
  /-- The same, but a text that is no JSON is kept for the reader to refuse. -/
  | nestedOptional
  deriving DecidableEq

/-- The kind of the field at a path below a default. -/
def fieldKind (standard : Value) : (path : List Text) → FieldKind
  | [] =>
    match standard with
    | .record _ => .nested
    | .null => .nestedOptional
    | _ => .plain
  | name :: path =>
    match standard with
    | .record fields =>
      match standardOf? name fields with
      | some inner => fieldKind inner path
      | none => .plain
    | _ => .plain

/-! ## Single fields -/

/-- Set the field at a path of names that ends with `last`. Where something other than a record stands
in the way, nothing is set. -/
def putAt (last : Text) (value : Value) : (path : List Text) → Fields → Fields
  | [], fields => Fields.put last value fields
  | name :: path, fields =>
    match Fields.get? name fields with
    | none => Fields.put name (.record (putAt last value path [])) fields
    | some (.record inner) => Fields.put name (.record (putAt last value path inner)) fields
    | some _ => fields

/-- The value of a variable for a field of some kind. -/
def variableValue (kind : FieldKind) (text : Text) : Option Value :=
  if kind = .plain || text.isEmpty then some (.text text)
  else
    match Json.read text with
    | .ok v => some v
    | .error _ => if kind = .nestedOptional then some (.text text) else none

/-- Add one variable to the fields of a section; none if the variable should hold JSON and does not. -/
def addVariable (sectionName : Text) (standard : Value) (fields : Fields) (entry : Text × Text) :
    Option Fields :=
  match Text.after? (variableLead ++ sectionName ++ partMark) entry.1 with
  | none => some fields
  | some tail =>
    let path := Text.splitOn partMark tail
    (variableValue (fieldKind standard path) entry.2).map fun value =>
      putAt (path.getLastD []) value path.dropLast fields

/-- The fields of a section from the variables for single fields. -/
def fieldVariables (sectionName : Text) (standard : Value) (env : Variables) :
    Except OverrideError Fields :=
  match env.foldlM (addVariable sectionName standard) [] with
  | some fields => .ok fields
  | none => .error ⟨sectionName⟩

mutual

/-- One value over another: records field by field, anything else as a whole. -/
def mergeValue (base : Value) : Value → Value
  | .record upper =>
    match base with
    | .record fields => .record (mergeFields fields upper)
    | _ => .record upper
  | upper => upper

/-- Fields over other fields. -/
def mergeFields (base : Fields) : List (Text × Value) → Fields
  | [] => base
  | (key, value) :: rest =>
    let merged :=
      match Fields.get? key base with
      | some old => mergeValue old value
      | none => value
    mergeFields (Fields.put key merged base) rest

end

/-! ## Whole sections -/

mutual

/-- A value with the fields of its sections under their proper names. -/
def properValue (standard : Value) : Value → Value
  | .record fields =>
    match standard with
    | .record known => .record (properFields known [] fields)
    | _ => .record fields
  | other => other

/-- Fields under their proper names, whatever the case in which they are given, after those that are
`done`; of equal names the last value counts. Unknown names stay. -/
def properFields (known done : Fields) : List (Text × Value) → Fields
  | [] => done
  | (name, value) :: rest =>
    match known.find? fun (k, _) => k = lowerName name with
    | some (k, standard) =>
      properFields known (Fields.put k (properValue standard value) done) rest
    | none => properFields known (Fields.put name value done) rest

end

/-- What the variables give for a section before its fields have their proper names, if anything. -/
def givenSection (sectionName : Text) (standard : Value) (env : Variables) :
    Except OverrideError (Option Value) :=
  match env.lookup (variableLead ++ sectionName) with
  | none =>
    (fieldVariables sectionName standard env).map fun single =>
      if single.isEmpty then none else some (.record single)
  | some text =>
    match Json.read text with
    | .error _ => .error ⟨sectionName⟩
    | .ok .null => .ok none
    | .ok (.record fields) =>
      (fieldVariables sectionName standard env).map fun single =>
        some (.record (mergeFields fields single))
    | .ok other => .ok (some other)

/-- What the variables give, section by section. -/
def overrides (env : Variables) : Except OverrideError Fields :=
  let lower := lowerNames env
  standardFields.foldlM (fun fields (sectionName, standard) =>
    match givenSection sectionName standard lower with
    | .error e => .error e
    | .ok none => .ok fields
    | .ok (some v) => .ok (Fields.put sectionName (properValue standard v) fields)) []

/-- The value of a section in data. Its proper name goes before names in another case, of which the first
counts. -/
def sectionOf? (name : Text) (data : Fields) : Option Value :=
  (Fields.get? name data).or ((data.find? fun (k, _) => lowerName k = name).map Prod.snd)

/-- Data with its sections under their proper names. The fields inside a section keep their names. -/
def properSections (data : Fields) : Fields :=
  sectionNames.filterMap (fun name => (sectionOf? name data).map (name, ·)) ++
    data.filter fun (k, _) => !sectionNames.elem (lowerName k)

/-- Read all settings from data and the variables of the environment below it. -/
def read (env : Variables) : Reader Settings
  | .record data =>
    match overrides env with
    | .error e => .issue (.valueError e.message)
    | .ok below => readFields (mergeFields below (properSections data))
  | _ => .issue .modelType

end TexMend.Settings
