import TexMend.Text.Basic

/-!
# Issues of settings

What may be wrong with a setting, and where it stands. A section is read to its end, so that all its
issues are known at once.
-/

namespace TexMend.Settings

/-- What is wrong with a value. -/
inductive IssueKind where
  | missing
  | extraForbidden
  | modelType
  | intType
  | intParsing
  | intParsingSize
  | intFromFloat
  | finiteNumber
  | floatType
  | floatParsing
  | boolType
  | boolParsing
  | stringType
  | stringTooShort
  | pathType
  | literalError
  | greaterThan
  | greaterThanEqual
  | lessThan
  | lessThanEqual
  /-- A rule of its own is broken, with its wording. -/
  | valueError (message : Text)
  deriving DecidableEq, Repr

/-- The name of the kind of issue. -/
def IssueKind.name : IssueKind → Text
  | missing => "missing"
  | extraForbidden => "extra_forbidden"
  | modelType => "model_type"
  | intType => "int_type"
  | intParsing => "int_parsing"
  | intParsingSize => "int_parsing_size"
  | intFromFloat => "int_from_float"
  | finiteNumber => "finite_number"
  | floatType => "float_type"
  | floatParsing => "float_parsing"
  | boolType => "bool_type"
  | boolParsing => "bool_parsing"
  | stringType => "string_type"
  | stringTooShort => "string_too_short"
  | pathType => "path_type"
  | literalError => "literal_error"
  | greaterThan => "greater_than"
  | greaterThanEqual => "greater_than_equal"
  | lessThan => "less_than"
  | lessThanEqual => "less_than_equal"
  | valueError _ => "value_error"

/-- The wording of an issue, where it has one of its own. -/
def IssueKind.message? : IssueKind → Option Text
  | valueError message => some ("Value error, " ++ message)
  | _ => none

/-- An issue and the path of field names that leads to it. -/
structure Issue where
  path : List Text
  kind : IssueKind
  deriving DecidableEq, Repr

/-- A value that was checked, or everything that is wrong with it. -/
abbrev Checked (α : Type) := Except (List Issue) α

namespace Checked

variable {α β : Type}

/-- A single issue with the value itself. -/
def issue (kind : IssueKind) : Checked α :=
  .error [⟨[], kind⟩]

/-- The same check of the value of a field. -/
def under (name : Text) : Checked α → Checked α
  | .ok a => .ok a
  | .error issues => .error (issues.map fun i => { i with path := name :: i.path })

/-- Two checks side by side; the issues of both are kept. -/
def and (x : Checked α) (y : Checked β) : Checked (α × β) :=
  match x, y with
  | .ok a, .ok b => .ok (a, b)
  | .error e, .ok _ => .error e
  | .ok _, .error e => .error e
  | .error e, .error e' => .error (e ++ e')

/-- Give a checked function its next checked argument. -/
def app (f : Checked (α → β)) (x : Checked α) : Checked β :=
  (f.and x).map fun (f, a) => f a

end Checked

end TexMend.Settings
