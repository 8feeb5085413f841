import TexMend.Settings.Sections

/-!
# Choosing a service

The service that the settings name, with its section. A credential that is given apart takes the place of
the one in the section, or makes up a section of its own.
-/

namespace TexMend

open Settings

/-- A service that is ready to be asked. -/
inductive Service where
  | anthropic (s : AnthropicSettings)
  | openRouter (s : OpenRouterSettings)

namespace Service

/-- The name of the model. -/
def model : Service → Text
  | anthropic s => s.model
  | openRouter s => s.model

/-- Why there is no service. -/
inductive ChoiceError where
  /-- Neither a section nor a credential. -/
  | notConfigured (service : ServiceName)
  | unsupported (name : Text)
  /-- The section that the credential makes up is refused. -/
  | refused (issues : List Issue)

/-- The name of a service in messages. -/
def title : ServiceName → Text
  | .anthropic => "Anthropic"
  | .openRouter => "OpenRouter"

/-- The wording for the user. A refused section is named by what it failed. -/
def ChoiceError.message : ChoiceError → Text
  | notConfigured s =>
    title s ++ " configuration required when provider is '" ++ s.name ++ "'"
  | unsupported name => "Unsupported LLM provider: " ++ name
  | refused _ => "validation"

/-- A section from a credential alone. -/
def madeUp {α : Type} (read : Reader α) (credential : Text) : Except ChoiceError α :=
  match read (.record [("api_key", .text credential)]) with
  | .ok a => .ok a
  | .error issues => .error (.refused issues)

/-- A section with a credential in its place; a credential is taken as it is if there is a section. -/
def withCredential {α : Type} (read : Reader α) (replace : Text → α → α) (service : ServiceName)
    (given : Option α) (credential : Option Text) : Except ChoiceError α :=
  match given, credential with
  | some s, some key => .ok (replace key s)
  | some s, none => .ok s
  | none, some key => madeUp read key
  | none, none => .error (.notConfigured service)

/-- The service with a name. -/
def choose (s : AiSettings) (name : Text) (credential : Option Text) : Except ChoiceError Service :=
  if name = ServiceName.anthropic.name then
    (withCredential readAnthropic (fun key a => { a with apiKey := key }) .anthropic s.anthropic
      credential).map .anthropic
  else if name = ServiceName.openRouter.name then
    (withCredential readOpenRouter (fun key o => { o with apiKey := key }) .openRouter s.openRouter
      credential).map .openRouter
  else .error (.unsupported name)

end Service

end TexMend
