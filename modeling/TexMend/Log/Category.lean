import TexMend.Text.Search
import TexMend.Text.Quoted

/-!
# Categories of diagnostics

The closed list of what a compiler can report, the names under which the categories are known
outside, and the rule that assigns a category to an error message.
-/

namespace TexMend

/-- How bad a diagnostic is. -/
inductive Severity where
  | error
  | warning
  | info
  deriving DecidableEq, Inhabited, Repr

/-- The kinds of diagnostic. -/
inductive Category where
  | undefinedControlSequence
  | missingPackage
  | unclosedBrace
  | unclosedEnvironment
  | missingMathDelimiter
  | fileNotFound
  | missingArgument
  | extraBrace
  | extraAlignmentTab
  | overfullBox
  | underfullBox
  | fontWarning
  | citationWarning
  | referenceWarning
  | generalError
  | generalWarning
  deriving DecidableEq, Inhabited, Repr

/-- A name that stands for no member of a closed list. -/
structure UnknownName where
  /-- What the list holds, as it is called outside. -/
  kind : Text
  given : Text

namespace UnknownName

/-- The wording for the user. -/
def message (e : UnknownName) : Text :=
  Text.quoted e.given ++ " is not a valid " ++ e.kind

/-- Find the member of a list that has the given name. -/
def resolve {α : Type} (kind : Text) (name : α → Text) (all : List α) (given : Text) :
    Except UnknownName α :=
  match all.find? fun a => name a = given with
  | some a => .ok a
  | none => .error ⟨kind, given⟩

/-- A member of a list whose names differ is found by its own name. -/
theorem resolve_name {α : Type} {name : α → Text} {all : List α} {a : α} (kind : Text) (hnames : (all.map name).Nodup)
    (hmem : a ∈ all) : resolve kind name all (name a) = .ok a := by
  have hfind : all.find? (fun b => name b = name a) = some a := by
    induction all with
    | nil => cases hmem
    | cons b rest ih =>
        obtain ⟨hfirst, hrest⟩ := List.nodup_cons.mp hnames
        rw [List.find?_cons]
        split
        · next hsame =>
            rcases List.mem_cons.mp hmem with rfl | hlater
            · rfl
            · rw [of_decide_eq_true hsame] at hfirst
              exact absurd (List.mem_map_of_mem hlater) hfirst
        · next hother =>
            rcases List.mem_cons.mp hmem with rfl | hlater
            · exact absurd rfl (of_decide_eq_false hother)
            · exact ih hrest hlater
  rw [resolve, hfind]

end UnknownName

namespace Severity

def all : List Severity := [.error, .warning, .info]

def name : Severity → Text
  | error => "error"
  | warning => "warning"
  | info => "info"

def ofName (given : Text) : Except UnknownName Severity :=
  UnknownName.resolve "Severity" name all given

end Severity

namespace Category

def all : List Category :=
  [.undefinedControlSequence, .missingPackage, .unclosedBrace, .unclosedEnvironment,
    .missingMathDelimiter, .fileNotFound, .missingArgument, .extraBrace, .extraAlignmentTab,
    .overfullBox, .underfullBox, .fontWarning, .citationWarning, .referenceWarning, .generalError,
    .generalWarning]

def name : Category → Text
  | undefinedControlSequence => "undefined_control_sequence"
  | missingPackage => "missing_package"
  | unclosedBrace => "unclosed_brace"
  | unclosedEnvironment => "unclosed_environment"
  | missingMathDelimiter => "missing_math_delimiter"
  | fileNotFound => "file_not_found"
  | missingArgument => "missing_argument"
  | extraBrace => "extra_brace"
  | extraAlignmentTab => "extra_alignment_tab"
  | overfullBox => "overfull_hbox"
  | underfullBox => "underfull_hbox"
  | fontWarning => "font_warning"
  | citationWarning => "citation_warning"
  | referenceWarning => "reference_warning"
  | generalError => "general_error"
  | generalWarning => "general_warning"

def ofName (given : Text) : Except UnknownName Category :=
  UnknownName.resolve "ErrorCategory" name all given

/-- A name reads back as its category. -/
theorem ofName_name (c : Category) : ofName c.name = .ok c :=
  UnknownName.resolve_name _ (by decide) (by cases c <;> decide)

/-- The categories that are announced as repairable without help. A surplus brace has a repair too and
is not announced. -/
def hasAutoFix : Category → Bool
  | undefinedControlSequence | missingPackage | unclosedBrace | unclosedEnvironment
  | missingMathDelimiter => true
  | _ => false

/-- The category of an error message. The first rule that applies decides. -/
def ofMessage (message : Text) : Category :=
  let has (part : Text) : Bool := Text.includes part message
  if has "Undefined control sequence" then undefinedControlSequence
  else if has "Missing $" then missingMathDelimiter
  else if has "Missing \x7d" || has "Missing \x7b" then unclosedBrace
  else if has "Extra \x7d" || has "Too many \x7d" then extraBrace
  else if has "\\begin" || has "\\end" then unclosedEnvironment
  else if (has "File" && has "not found") || has "No file" then fileNotFound
  else if has "Package" && has "Error" then generalError
  else if has "Extra alignment tab" then extraAlignmentTab
  else generalError

/-- A missing package is never read off a message. -/
theorem ofMessage_ne_missingPackage (message : Text) : ofMessage message ≠ missingPackage := by
  unfold ofMessage
  dsimp only
  repeat' split
  all_goals decide

end Category

end TexMend
