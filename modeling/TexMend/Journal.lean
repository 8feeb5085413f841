import TexMend.Journal.Entry
import TexMend.Text.Search

/-!
# The journal

Values can be bound, so that they go with every later entry. Entries below the level that is set are not
written; the others go to the console and, if it could be opened, to a file.
-/

namespace TexMend

open Settings

namespace Journal

/-- The rank of the level that is set. -/
def levelRank (s : JournalSettings) : Nat :=
  s.level.rank

/-- Why the file could not be opened. -/
inductive FileError where
  /-- Its directory is a file. -/
  | alreadyExists (directory : Text)
  /-- A part of its directory is a file. -/
  | notDirectory (directory : Text)
  /-- It is a directory itself. -/
  | isDirectory (path : Text)

/-- The wording of the system. -/
def FileError.message : FileError → Text
  | alreadyExists d => "[Errno 17] File exists: " ++ Text.quoted d
  | notDirectory d => "[Errno 20] Not a directory: " ++ Text.quoted d
  | isDirectory p => "[Errno 21] Is a directory: " ++ Text.quoted p

/-- The warning that the file could not be opened. -/
def openWarning (path : Text) (e : FileError) : Text :=
  "Could not open log file " ++ path ++ ": " ++ e.message

/-- A path below a directory; a path of a single point is the directory. -/
def below (directory : Text) (parts : List Text) : Text :=
  Text.joinWith "/" (directory :: parts)

/-- Open the file with the path `parts` below `directory`. The path `taken` is that of the only plain file
there, or empty if there is none. -/
def openFile (directory : Text) (parts taken : List Text) : Except FileError Unit :=
  let parents := parts.dropLast
  if !taken.isEmpty && taken = parents then .error (.alreadyExists (below directory parents))
  else if !taken.isEmpty && taken.isPrefixOf parents then
    .error (.notDirectory (below directory parents))
  else if parts.isEmpty then .error (.isDirectory directory)
  else .ok ()

/-- The parts of a path in its shortest form. -/
def pathParts (path : Text) : List Text :=
  (Text.splitOn "/" path).filter fun p => !(p.isEmpty || p == ['.'])

end Journal

/-- The state of the journal. -/
structure Journal where
  settings : JournalSettings
  /-- Is there a file? -/
  toFile : Bool
  bound : Fields := []
  /-- The lines of the file. -/
  file : List Text := []

namespace Journal

/-- A journal that was set up, with what was written while that was done. -/
structure Opened where
  journal : Journal
  output : List Text

/-- Set up a journal whose file lies below `directory`. -/
def openWith (s : JournalSettings) (directory : Text) (occupied : Option Text) : Opened :=
  if s.file.enabled then
    let parts := pathParts s.file.path
    match openFile directory parts ((occupied.map pathParts).getD []) with
    | .ok () => ⟨{ settings := s, toFile := true }, []⟩
    | .error e => ⟨{ settings := s, toFile := false }, [openWarning (below directory parts) e]⟩
  else ⟨{ settings := s, toFile := false }, []⟩

/-- To how many places entries go. -/
def sinks (j : Journal) : Nat :=
  if j.toFile then 2 else 1

/-- What is done with a journal. -/
inductive Step where
  | bind (values : Fields)
  | unbind (keys : List Text)
  | clear
  | log (level : Level) (event logger : Text) (values : Fields)

/-- The step that tells an event. A traced one asks for the trace of the failure at hand. -/
def Step.tell (logger : Text) (e : Event) : Step :=
  .log e.level e.name logger (if e.isTraced then Fields.put "exc_info" (.bool true) e.fields else e.fields)

/-- The line of an entry. -/
def entryLine (j : Journal) (m : Moment) (level : Level) (event logger : Text) (values : Fields) : Text :=
  line j.settings.format (finish m (assemble j.bound values event logger level m.time))

/-- Take one step; what goes to the console, and the journal afterwards. -/
def step (j : Journal) (m : Moment) : Step → List Text × Journal
  | .bind values => ([], { j with bound := Fields.putAll j.bound values })
  | .unbind keys => ([], { j with bound := keys.foldl (fun acc k => Fields.erase k acc) j.bound })
  | .clear => ([], { j with bound := [] })
  | .log level event logger values =>
    if level.rank < levelRank j.settings then ([], j)
    else
      let written := j.entryLine m level event logger values
      ([written], if j.toFile then { j with file := j.file ++ [written] } else j)

end Journal

end TexMend
