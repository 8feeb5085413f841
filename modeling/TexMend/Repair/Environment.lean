import TexMend.Text.Lines
import TexMend.Text.Search

/-!
# Balance of an environment

How often an environment begins and ends in a document, and the last lines on which it does.
-/

namespace TexMend.Repair

/-- The marker that begins the environment. -/
def beginMarker (name : Text) : Text :=
  "\\begin\x7b" ++ name ++ "\x7d"

/-- The marker that ends the environment. -/
def endMarker (name : Text) : Text :=
  "\\end\x7b" ++ name ++ "\x7d"

/-- The number of occurrences of a marker in a document. -/
def occurrences (marker : Text) (lines : Document) : Nat :=
  lines.foldr (fun line n => Text.countOf marker line + n) 0

/-- The number of the last line with the marker; `number` is that of the first line here. -/
def lastLineFrom (marker : Text) (number : Nat) : Document → Option Nat
  | [] => none
  | line :: rest =>
    match lastLineFrom marker (number + 1) rest with
    | some n => some n
    | none => if Text.countOf marker line = 0 then none else some number

/-- The number of the last line with the marker. -/
def lastLineWith? (marker : Text) (lines : Document) : Option Nat :=
  lastLineFrom marker 1 lines

/-- Occurrences of the two markers of one environment. -/
structure EnvironmentBalance where
  begins : Nat
  ends : Nat
  lastBegin : Option Nat
  lastEnd : Option Nat
  deriving DecidableEq, Repr

namespace EnvironmentBalance

/-- Count the markers of an environment. -/
def of (lines : Document) (name : Text) : EnvironmentBalance where
  begins := occurrences (beginMarker name) lines
  ends := occurrences (endMarker name) lines
  lastBegin := lastLineWith? (beginMarker name) lines
  lastEnd := lastLineWith? (endMarker name) lines

/-- As many ends as beginnings. -/
def balanced (b : EnvironmentBalance) : Bool :=
  b.begins == b.ends

end EnvironmentBalance

end TexMend.Repair
