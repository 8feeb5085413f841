import TexMend.Settings.Field
import TexMend.Log.Parse
import TexMend.Journal.Event

/-!
# Sections of the settings

The sections, their defaults, how each is read and how it is written out in full. Reading what was written
gives the same section.
-/

namespace TexMend.Settings

/-! ## The log reader -/

/-- Read the options of the log reader. -/
def readLogOptions : Reader Log.Options :=
  readSection fun fields =>
    let standard : Log.Options := {}
    (pure Log.Options.mk : Checked _)
      |>.app (fieldOr "context_lines" standard.contextLines (readIntWithin 1 50) fields)
      |>.app (fieldOr "warning_continuation_lines" standard.warningContinuationLines
        (readIntWithin 0 20) fields)
      |>.app (fieldOr "warning_message_limit" standard.warningMessageLimit
        (readIntWithin 20 2000) fields)
      |>.app (fieldOr "box_message_limit" standard.boxMessageLimit (readIntWithin 20 2000) fields)

/-- The options of the log reader, written out. -/
def writeLogOptions (s : Log.Options) : Value :=
  .record [("context_lines", .int s.contextLines),
    ("warning_continuation_lines", .int s.warningContinuationLines),
    ("warning_message_limit", .int s.warningMessageLimit),
    ("box_message_limit", .int s.boxMessageLimit)]

/-! ## The services -/

/-- Settings of the first service. -/
structure AnthropicSettings where
  apiKey : Text
  model : Text := "claude-3-5-sonnet-20241022"
  maxTokens : Int := 500
  temperature : Double := .ofDecimal false 4 (-1)
  deriving DecidableEq

/-- Read the settings of the first service. -/
def readAnthropic : Reader AnthropicSettings :=
  readSection fun fields =>
    let standard : AnthropicSettings := { apiKey := [] }
    (pure AnthropicSettings.mk : Checked _)
      |>.app (fieldNeeded "api_key" readNonEmpty fields)
      |>.app (fieldOr "model" standard.model readText fields)
      |>.app (fieldOr "max_tokens" standard.maxTokens readInt fields)
      |>.app (fieldOr "temperature" standard.temperature readDouble fields)

/-- The settings of the first service, written out. -/
def writeAnthropic (s : AnthropicSettings) : Value :=
  .record [("api_key", .text s.apiKey), ("model", .text s.model), ("max_tokens", .int s.maxTokens),
    ("temperature", .real s.temperature)]

/-- Settings of the second service. -/
structure OpenRouterSettings where
  apiKey : Text
  model : Text := "stepfun/step-3.5-flash:free"
  baseUrl : Text := "https://openrouter.ai/api/v1"
  maxTokens : Int := 500
  temperature : Double := .ofDecimal false 4 (-1)
  topP : Double := .ofDecimal false 9 (-1)
  referer : Text := "http://localhost:3000"
  title : Text := "latex-repair"
  /-- Seconds for one request. -/
  requestTimeout : Double := .ofDecimal false 60 0
  maxAttempts : Int := 3
  deriving DecidableEq

/-- How the address of a service must begin. -/
def secureScheme : Text := "https://"

/-- Read the address of a service: over a secure connection, and without slashes at the end. -/
def readBaseUrl (v : Value) : Checked Text :=
  match readText v with
  | .error e => .error e
  | .ok t =>
    if secureScheme.isPrefixOf t then .ok (Text.dropEndWhile (· == '/') t)
    else .issue (.valueError "OpenRouter base_url must use https")

/-- Read the settings of the second service. -/
def readOpenRouter : Reader OpenRouterSettings :=
  readSection fun fields =>
    let standard : OpenRouterSettings := { apiKey := [] }
    (pure OpenRouterSettings.mk : Checked _)
      |>.app (fieldNeeded "api_key" readNonEmpty fields)
      |>.app (fieldOr "model" standard.model readText fields)
      |>.app (fieldOr "base_url" standard.baseUrl readBaseUrl fields)
      |>.app (fieldOr "max_tokens" standard.maxTokens readInt fields)
      |>.app (fieldOr "temperature" standard.temperature readDouble fields)
      |>.app (fieldOr "top_p" standard.topP (readDoubleUpTo (.int 1)) fields)
      |>.app (fieldOr "referer" standard.referer readText fields)
      |>.app (fieldOr "title" standard.title readText fields)
      |>.app (fieldOr "request_timeout" standard.requestTimeout (readDoubleUpTo (.int 600)) fields)
      |>.app (fieldOr "max_attempts" standard.maxAttempts (readIntWithin 1 10) fields)

/-- The settings of the second service, written out. -/
def writeOpenRouter (s : OpenRouterSettings) : Value :=
  .record [("api_key", .text s.apiKey), ("model", .text s.model), ("base_url", .text s.baseUrl),
    ("max_tokens", .int s.maxTokens), ("temperature", .real s.temperature),
    ("top_p", .real s.topP), ("referer", .text s.referer), ("title", .text s.title),
    ("request_timeout", .real s.requestTimeout), ("max_attempts", .int s.maxAttempts)]

/-! ## The assistant -/

/-- Settings of the assistant. -/
structure AiSettings where
  enabled : Bool := false
  provider : ServiceName := .openRouter
  anthropic : Option AnthropicSettings := none
  openRouter : Option OpenRouterSettings := none
  /-- Seconds for one fix. -/
  timeout : Double := .ofDecimal false 30 0
  contextLines : Int := 5
  deriving DecidableEq

/-- Read the settings of the assistant. -/
def readAi : Reader AiSettings :=
  readSection fun fields =>
    let standard : AiSettings := {}
    (pure AiSettings.mk : Checked _)
      |>.app (fieldOr "enabled" standard.enabled readBool fields)
      |>.app (fieldOr "provider" standard.provider
        (readChoice ServiceName.name [.anthropic, .openRouter]) fields)
      |>.app (fieldOr "anthropic" standard.anthropic (readOptional readAnthropic) fields)
      |>.app (fieldOr "openrouter" standard.openRouter (readOptional readOpenRouter) fields)
      |>.app (fieldOr "timeout" standard.timeout (readDoubleUpTo (.int 300)) fields)
      |>.app (fieldOr "context_lines" standard.contextLines (readIntWithin 0 50) fields)

/-- A section that may be missing, written out. -/
def writeOptional {α : Type} (write : α → Value) : Option α → Value
  | some a => write a
  | none => .null

/-- The settings of the assistant, written out. -/
def writeAi (s : AiSettings) : Value :=
  .record [("enabled", .bool s.enabled), ("provider", .text s.provider.name),
    ("anthropic", writeOptional writeAnthropic s.anthropic),
    ("openrouter", writeOptional writeOpenRouter s.openRouter), ("timeout", .real s.timeout),
    ("context_lines", .int s.contextLines)]

/-! ## The journal -/

/-- How entries of the journal are written. -/
inductive EntryFormat where
  | json
  | console
  deriving DecidableEq, Inhabited, Repr

/-- The name in the settings. -/
def EntryFormat.name : EntryFormat → Text
  | json => "json"
  | console => "console"

/-- The name of a level in the settings. -/
def levelName : Level → Text
  | .debug => "DEBUG"
  | .info => "INFO"
  | .warning => "WARNING"
  | .error => "ERROR"
  | .critical => "CRITICAL"

/-- Settings of the file of the journal. -/
structure FileSettings where
  enabled : Bool := false
  path : Text := "/var/log/latex-repair/repair.log"
  deriving DecidableEq

/-- Read the settings of the file. -/
def readFile : Reader FileSettings :=
  readSection fun fields =>
    let standard : FileSettings := {}
    (pure FileSettings.mk : Checked _)
      |>.app (fieldOr "enabled" standard.enabled readBool fields)
      |>.app (fieldOr "path" standard.path readPath fields)

/-- The settings of the file, written out. -/
def writeFile (s : FileSettings) : Value :=
  .record [("enabled", .bool s.enabled), ("path", .text s.path)]

/-- Settings of the journal. -/
structure JournalSettings where
  level : Level := .info
  format : EntryFormat := .json
  file : FileSettings := {}
  deriving DecidableEq

/-- Read the settings of the journal. -/
def readJournal : Reader JournalSettings :=
  readSection fun fields =>
    let standard : JournalSettings := {}
    (pure JournalSettings.mk : Checked _)
      |>.app (fieldOr "level" standard.level (readChoice levelName Level.all) fields)
      |>.app (fieldOr "format" standard.format
        (readChoice EntryFormat.name [.json, .console]) fields)
      |>.app (fieldOr "file" standard.file readFile fields)

/-- The settings of the journal, written out. -/
def writeJournal (s : JournalSettings) : Value :=
  .record [("level", .text (levelName s.level)), ("format", .text s.format.name),
    ("file", writeFile s.file)]

/-! ## Everything -/

end TexMend.Settings

namespace TexMend

open Settings

/-- All settings. -/
structure Settings where
  parser : Log.Options := {}
  ai : AiSettings := {}
  logging : JournalSettings := {}
  deriving DecidableEq

end TexMend

namespace TexMend.Settings

/-- The names of the sections. -/
def sectionNames : List Text := ["parser", "ai", "logging"]

/-- The issues of fields that are no section. -/
def extraIssues (fields : Fields) : Checked Unit :=
  match (fields.map Prod.fst).filter fun name => !sectionNames.elem name with
  | [] => .ok ()
  | extra => .error (extra.map fun name => ⟨[name], .extraForbidden⟩)

/-- Read all settings from their fields. Names of sections are the only ones allowed. -/
def readFields (fields : Fields) : Checked Settings :=
  let standard : Settings := {}
  (pure (fun parser ai logging (_ : Unit) => Settings.mk parser ai logging) : Checked _)
    |>.app (fieldOr "parser" standard.parser readLogOptions fields)
    |>.app (fieldOr "ai" standard.ai readAi fields)
    |>.app (fieldOr "logging" standard.logging readJournal fields)
    |>.app (extraIssues fields)

/-- All settings, written out. -/
def write (s : Settings) : Value :=
  .record [("parser", writeLogOptions s.parser), ("ai", writeAi s.ai),
    ("logging", writeJournal s.logging)]

/-- The assistant is on and its service has no section. -/
structure SectionMissing where
  service : ServiceName

/-- The wording for the user. -/
def SectionMissing.message (e : SectionMissing) : Text :=
  e.service.name ++ " provider selected but " ++ e.service.name ++ " config missing"

/-- Does a service have its section? -/
def AiSettings.hasSection (s : AiSettings) : ServiceName → Bool
  | .anthropic => s.anthropic.isSome
  | .openRouter => s.openRouter.isSome

/-- An assistant that is on needs the section of its service. -/
def checkConsistent (s : Settings) : Except SectionMissing Unit :=
  if s.ai.enabled && !s.ai.hasSection s.ai.provider then .error ⟨s.ai.provider⟩ else .ok ()

end TexMend.Settings
