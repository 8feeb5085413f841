import TexMend.Settings.Overrides
import TexMend.Settings.Substitution
import TexMend.Value.Yaml

/-!
# Loading settings

From the text of a file to settings: placeholders first, then the file format, then the sections with the
variables of the environment below them, and in the end the check of the whole.
-/

namespace TexMend.Settings

/-- Why settings could not be loaded. -/
inductive LoadError where
  | noFile (path : Text)
  | unset (e : UnsetError)
  /-- The file is not in its format. -/
  | format
  /-- A numeral in the file is none. -/
  | badInteger
  /-- The name of a section is no text. -/
  | unnamedSection
  | refused (issues : List Issue)
  | inconsistent (e : SectionMissing)

/-- The wording for a file that is not there. -/
def noFileMessage (path : Text) : Text :=
  "Configuration file not found: " ++ path

/-- The data of a file: a document that is void counts as no settings at all. -/
def dataOf (document : Yaml.Node) : Except LoadError Value :=
  match document.value with
  | .error .reserved => .error .format
  | .error .badInteger => .error .badInteger
  | .ok v =>
    if !document.hasTextKeys then .error .unnamedSection
    else .ok (if v.isVoid then .record [] else v)

/-- Read the settings in the data of a file and check the whole. -/
def checkedSettings (env : Variables) (data : Value) : Except LoadError Settings :=
  match read env data with
  | .error issues => .error (.refused issues)
  | .ok s =>
    match checkConsistent s with
    | .error e => .error (.inconsistent e)
    | .ok () => .ok s

/-- Load settings from the text of a file. -/
def loadText (env : Variables) (text : Text) : Except LoadError Settings :=
  match substitute env (Yaml.unifyNewlines text) with
  | .error e => .error (.unset e)
  | .ok expanded =>
    match Yaml.read? expanded with
    | none => .error .format
    | some document => (dataOf document).bind (checkedSettings env)

/-- Load settings from a file, if there is one at the path. -/
def load (env : Variables) (path : Text) (file : Option Text) : Except LoadError Settings :=
  match file with
  | none => .error (.noFile path)
  | some text => loadText env text

end TexMend.Settings
