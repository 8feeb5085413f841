import TexMend.Repair.Edit
import TexMend.Number.Basic

/-!
# Suggestions

A suggestion proposes one edit for one record, with a confidence between zero and one.
-/

namespace TexMend

/-- Where a suggestion comes from. -/
inductive Origin where
  | rule
  | ai
  deriving DecidableEq, Inhabited, Repr

namespace Origin

def all : List Origin := [.rule, .ai]

def name : Origin → Text
  | rule => "rule"
  | ai => "ai"

def ofName (given : Text) : Except UnknownName Origin :=
  UnknownName.resolve "FixType" name all given

end Origin

/-- A proposed edit. -/
structure Suggestion where
  /-- The id of the record that the edit is for. -/
  errorId : Text
  description : Text
  origin : Origin
  edit : Edit
  confidence : Number

/-- A confidence that is no number from zero to one. -/
structure ConfidenceError where
  given : Number

/-- The wording for the user. -/
def ConfidenceError.message (e : ConfidenceError) : Text :=
  "Confidence must be within [0, 1], got " ++ e.given.text

namespace Suggestion

/-- Is the number from zero to one? -/
def isConfidence (x : Number) : Bool :=
  (Number.int 0).le x && x.le (.int 1)

/-- The suggestion with the given parts, if its confidence is one. -/
def make (errorId description : Text) (origin : Origin) (edit : Edit) (confidence : Number) :
    Except ConfidenceError Suggestion :=
  if isConfidence confidence then .ok ⟨errorId, description, origin, edit, confidence⟩
  else .error ⟨confidence⟩

/-- Apply the edits of several suggestions to a source. -/
def applyAll (suggestions : List Suggestion) (source : Text) : Except ApplyError Text :=
  (Edit.applyAll (suggestions.map Suggestion.edit) (Text.splitLines source)).map Text.joinLines

end Suggestion

end TexMend
