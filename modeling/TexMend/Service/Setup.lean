import TexMend.Service.Choice
import TexMend.Diagnoser

/-!
# Setting up from settings

A diagnoser with an assistant where the settings turn it on, and the fix of a single record by a service
that is chosen for that alone.
-/

namespace TexMend.Service

open Assist Settings

/-- The assistant that the settings ask for. -/
def assistantOf (s : AiSettings) : Assistant where
  timeout := .real s.timeout
  contextLines := s.contextLines

/-- A diagnoser with the service of its assistant, and what is told while it is made. -/
structure Setup where
  diagnoser : Diagnoser
  service : Option Service
  events : List Event

/-- Make a diagnoser. Without a service there is no assistant, and nothing fails. -/
def setUp (s : Settings) (credential : Option Text) : Setup :=
  let plain : Diagnoser := { options := s.parser }
  if s.ai.enabled then
    match choose s.ai s.ai.provider.name credential with
    | .ok service => ⟨{ plain with assistant := some (assistantOf s.ai) }, some service, []⟩
    | .error e => ⟨plain, none, [.fallbackDisabled e.message]⟩
  else ⟨plain, none, []⟩

/-- Fix one record with the service that has the given name, whose answers are `replies`. Without
a credential or a service there is no suggestion. -/
def fixOnce (s : AiSettings) (name credential : Text) (replies : List Reply) (r : Record)
    (lines : Document) : Consultation :=
  let idle : Provider := ⟨.ok [], replies⟩
  if credential.isEmpty then ⟨.answered none, [], [.aiFixRefused r.id "missing credential"], idle⟩
  else
    match choose s name (some credential) with
    | .error e => ⟨.answered none, [], [.aiFixRefused r.id e.message], idle⟩
    | .ok service => (assistantOf s).consult ⟨.ok service.model, replies⟩ r lines

end TexMend.Service
