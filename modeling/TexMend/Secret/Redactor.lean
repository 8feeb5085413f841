import TexMend.Secret.Kind
import TexMend.Secret.Template
import TexMend.Secret.Pattern
import TexMend.Failure

/-!
# Masking secrets

A redactor looks for its kinds of secret one after the other and puts its placeholder in the place of
each match. If the placeholder is refused there is no text at all, so that nothing leaves unmasked.
-/

namespace TexMend.Secret

/-- What to look for and what to put in its place. -/
structure Redactor where
  placeholder : Text
  kinds : List Kind

namespace Redactor

/-- The placeholder that is used without being asked for. -/
def standardPlaceholder : Text := "[REDACTED]"

/-- The redactor for the standard kinds. -/
def standard : Redactor := ⟨standardPlaceholder, standardKinds⟩

/-- The pattern of an added kind is none. -/
structure PatternError where
  /-- The name of the kind. -/
  name : Text

/-- The failure that a bad pattern is. -/
def PatternError.failure (e : PatternError) : Failure :=
  .redaction ("Invalid secret pattern " ++ Text.quoted e.name)

/-- Read the added kinds, each a name and a pattern. -/
def readKinds : List (Text × Text) → Except PatternError (List Kind)
  | [] => .ok []
  | (name, pattern) :: rest =>
    match Pattern.read? pattern with
    | none => .error ⟨name⟩
    | some shape => (readKinds rest).map (⟨name, shape⟩ :: ·)

/-- The redactor for the standard kinds and some more. -/
def withExtra (placeholder : Text) (extra : List (Text × Text)) : Except PatternError Redactor :=
  (readKinds extra).map fun kinds => ⟨placeholder, standardKinds ++ kinds⟩

/-- The failure that a refused placeholder is. -/
def refused : Failure := .redaction "Redaction failed"

/-- Mask with a template that is already read. -/
def mask (kinds : List Kind) (template : Template) (text : Text) : Text :=
  kinds.foldl (fun text kind => kind.shape.replaceAll template.fill text) text

/-- The text with every secret masked. The empty text needs no placeholder. -/
def redact (r : Redactor) (text : Text) : Except Failure Text :=
  if text.isEmpty then .ok text
  else
    match Template.read? r.placeholder with
    | none => .error refused
    | some template => .ok (mask r.kinds template text)

/-- The names of the kinds that occur in a text. -/
def detect (r : Redactor) (text : Text) : List Text :=
  if text.isEmpty then []
  else (r.kinds.filter fun kind => kind.shape.occurs text).map Kind.name

/-- Does any kind occur? -/
def containsSecret (r : Redactor) (text : Text) : Bool :=
  !(r.detect text).isEmpty

/-- The text with every standard secret masked. -/
def maskStandard (text : Text) : Text :=
  mask standardKinds (standardPlaceholder.map .char) text

end Redactor

end TexMend.Secret
