import TexMend.Proofs.Repair.Rewriting
import TexMend.Proofs.Text.Distance

/-!
# Common commands next to a misspelling

A command that is not in the list of misspellings is taken for the first common command that one operation makes out
of it. The threshold is exact: the distance of two texts is the length of a shortest script between them.
-/

namespace TexMend.Repair

/-- One insertion, deletion or substitution of a character leads from the command to this other one. -/
def IsNeighbour (command candidate : Text) : Prop :=
  Text.Operation command candidate ∧ candidate ≠ command

/-- The first of the common commands that are neighbours. -/
def IsFirstNeighbour (command candidate : Text) : Prop :=
  IsNeighbour command candidate ∧ ∃ before after, commonCommands = before ++ candidate :: after ∧
    ∀ other ∈ before, ¬ IsNeighbour command other

variable {command candidate : Text}

theorem lookUp_eq_none_iff {key : Text} {table : List (Text × Text)} :
    lookUp key table = none ↔ ∀ entry ∈ table, entry.1 ≠ key := by
  simp [lookUp]

theorem neighbour?_eq_some_iff : neighbour? command = some candidate ↔ IsFirstNeighbour command candidate := by
  rw [neighbour?, List.find?_eq_some_iff_append]
  simp only [decide_eq_true_eq, Bool.not_eq_true', decide_eq_false_iff_not, Text.distance_eq_one_iff]
  rfl

theorem neighbour?_eq_none_iff :
    neighbour? command = none ↔ ∀ candidate ∈ commonCommands, ¬ IsNeighbour command candidate := by
  rw [neighbour?, List.find?_eq_none]
  simp only [decide_eq_true_eq, Text.distance_eq_one_iff]
  rfl

theorem typoFix?_of_not_listed (h : ∀ entry ∈ commonTypos, entry.1 ≠ command) :
    typoFix? command = neighbour? command := by
  rw [typoFix?, lookUp_eq_none_iff.mpr h]

/-- The distance of two texts is the length of a shortest script between them. Hence a command that is not in the
list of misspellings is taken for the first common command that is its neighbour, and for none exactly if no common
command is. -/
theorem distance_shortest_and_first_neighbour :
    (∀ a b, Text.Script (Text.distance a b) a b ∧ ∀ count, Text.Script count a b → Text.distance a b ≤ count) ∧
    ∀ command, (∀ entry ∈ commonTypos, entry.1 ≠ command) →
      (∀ candidate, typoFix? command = some candidate ↔ IsFirstNeighbour command candidate) ∧
      (typoFix? command = none ↔ ∀ candidate ∈ commonCommands, ¬ IsNeighbour command candidate) := by
  constructor
  · intro a b
    exact (Text.least_distance a b).isShortest
  · intro command hlisted
    rw [typoFix?_of_not_listed hlisted]
    exact ⟨fun candidate => neighbour?_eq_some_iff, neighbour?_eq_none_iff⟩

/-- Of two common commands next to a misspelling the first is taken. -/
theorem distance_shortest_and_first_neighbour_tie :
    (∀ entry ∈ commonTypos, entry.1 ≠ "\\textbt") ∧ typoFix? "\\textbt" = some "\\textbf" ∧
      IsNeighbour "\\textbt" "\\textit" ∧ IsFirstNeighbour "\\textbt" "\\textbf" ∧
      Text.Script 3 "kitten" "sitting" ∧ ∀ count, Text.Script count "kitten" "sitting" → 3 ≤ count := by
  have hlisted : ∀ entry ∈ commonTypos, entry.1 ≠ "\\textbt" := by decide
  have hfound : typoFix? "\\textbt" = some "\\textbf" := by decide +kernel
  refine ⟨hlisted, hfound, ⟨?_, by decide⟩, ?_, ?_⟩
  · exact .substitution "\\text" "t" 'b' 'i'
  · exact ((distance_shortest_and_first_neighbour.2 "\\textbt" hlisted).1 "\\textbf").mp hfound
  · exact distance_shortest_and_first_neighbour.1 "kitten" "sitting"

end TexMend.Repair
