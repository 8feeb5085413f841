import TexMend.Log.Category
import TexMend.Text.Numeral

/-!
# Records of a log

One record per error or warning, and the result of reading a whole log: errors and warnings apart,
each in the order of the log.
-/

namespace TexMend

/-- One error or warning found in a log. -/
structure Record where
  /-- Unique within one log, such as `err_3`. -/
  id : Text
  severity : Severity
  category : Category
  message : Text
  /-- The piece of the log that the record was made from. -/
  rawLog : Text
  /-- The source file that was being read. -/
  file : Option Text
  /-- The source line, counted from one. -/
  line : Option Int
  /-- The token that a repair hinges on. -/
  offendingText : Option Text
  deriving Inhabited

namespace Record

/-- The id of the `n`-th record of a log. -/
def idOf (n : Nat) : Text :=
  "err_" ++ Text.ofNat n

/-- Does the category announce a repair? -/
def hasAutoFix (r : Record) : Bool :=
  r.category.hasAutoFix

/-- The source line that a repair or a prompt aims at: the first one if the log names none that
exists in any document. -/
def targetLine (r : Record) : Nat :=
  match r.line with
  | some n => if 0 < n then n.toNat else 1
  | none => 1

end Record

/-- What a log says. -/
structure ParsedLog where
  errors : List Record
  warnings : List Record
  /-- Did the run write a document? -/
  pdfProduced : Bool
  deriving Inhabited

namespace ParsedLog

/-- All records, the errors first. -/
def records (p : ParsedLog) : List Record :=
  p.errors ++ p.warnings

/-- A document was written and nothing was wrong. -/
def succeeded (p : ParsedLog) : Bool :=
  p.pdfProduced && p.errors.isEmpty

/-- The record with an id. -/
def find? (p : ParsedLog) (id : Text) : Option Record :=
  p.records.find? fun r => r.id = id

/-- The records of a category. -/
def ofCategory (p : ParsedLog) (c : Category) : List Record :=
  p.records.filter fun r => r.category = c

end ParsedLog

end TexMend
