import TexMend.Repair.Package
import TexMend.Repair.Environment
import TexMend.Proofs.Text.Occurrence

/-!
# Where repairs go

An import and a marker that is missing get a place in the document itself, unless the log names one. Only
markers that occur are out of balance, so an unbalanced environment has a name that fits on a line.
-/

namespace TexMend.Repair

section Import

theorem importPlaceFrom_le (last before : Nat) (lines : Document) :
    importPlaceFrom last before lines ≤ max last (before + lines.length) := by
  induction lines generalizing last before with
  | nil => exact Nat.le_max_left _ _
  | cons line rest ih =>
      obtain ⟨next, hnext⟩ :
          ∃ next, (if Text.includes importCommand line then before + 1 else last) = next := ⟨_, rfl⟩
      have hle : next ≤ max last (before + 1) := by
        rw [← hnext]
        split <;> omega
      have hrest := ih next (before + 1)
      simp only [importPlaceFrom, hnext, List.length_cons]
      split
      · split <;> omega
      · omega

/-- An import goes after a line of the document, or after the first place if there is none. -/
theorem importPlace_le (lines : Document) : importPlace lines ≤ max 1 lines.length := by
  have hle := importPlaceFrom_le 0 0 lines
  unfold importPlace
  omega

theorem newline_not_mem_importLine {package : Text} (h : '\n' ∉ package) : '\n' ∉ importLine package :=
  List.not_mem_append (List.not_mem_append (by decide) h) (by decide)

end Import

section Marker

variable {marker : Text}

/-- The place of a marker is among the numbers of the lines. -/
theorem lastLineFrom_bounds {number place : Nat} {lines : Document}
    (h : lastLineFrom marker number lines = some place) : number ≤ place ∧ place < number + lines.length := by
  induction lines generalizing number with
  | nil => cases h
  | cons line rest ih =>
      unfold lastLineFrom at h
      rw [List.length_cons]
      split at h
      · next found hfound =>
          obtain rfl := Option.some.inj h
          have hbounds := ih hfound
          omega
      · split at h
        · cases h
        · obtain rfl := Option.some.inj h
          omega

/-- The last line with the marker is a line of the document. -/
theorem lastLineWith?_getD_le (marker : Text) (lines : Document) (other : Nat) :
    (lastLineWith? marker lines).getD other ≤ max other lines.length := by
  cases h : lastLineWith? marker lines with
  | none => exact Nat.le_max_left _ _
  | some place =>
      have hbounds := lastLineFrom_bounds h
      rw [Option.getD_some]
      omega

/-- A marker that is counted stands on some line. -/
theorem exists_infix_of_occurrences_pos {lines : Document} (h : 0 < occurrences marker lines) :
    ∃ line ∈ lines, marker <:+: line := by
  induction lines with
  | nil => cases h
  | cons line rest ih =>
      rcases Nat.eq_zero_or_pos (Text.countOf marker line) with hzero | hpos
      · have hrest : 0 < occurrences marker rest := by simpa [occurrences, hzero] using h
        obtain ⟨found, hmem, hpart⟩ := ih hrest
        exact ⟨found, List.mem_cons_of_mem line hmem, hpart⟩
      · exact ⟨line, List.mem_cons_self, Text.infix_of_countOf_pos hpos⟩

/-- A marker that is counted has no newline, since no line has one. -/
theorem newline_not_mem_of_occurrences_pos {lines : Document} (hlines : ∀ line ∈ lines, '\n' ∉ line)
    (h : 0 < occurrences marker lines) : '\n' ∉ marker := by
  obtain ⟨line, hline, hpart⟩ := exists_infix_of_occurrences_pos h
  exact fun hm => hlines line hline (hpart.subset hm)

theorem newline_not_mem_beginMarker {name : Text} (h : '\n' ∉ name) : '\n' ∉ beginMarker name :=
  List.not_mem_append (List.not_mem_append (by decide) h) (by decide)

theorem newline_not_mem_endMarker {name : Text} (h : '\n' ∉ name) : '\n' ∉ endMarker name :=
  List.not_mem_append (List.not_mem_append (by decide) h) (by decide)

theorem mem_beginMarker {name : Text} {c : Char} (h : c ∈ name) : c ∈ beginMarker name :=
  List.mem_append_left _ (List.mem_append_right _ h)

theorem mem_endMarker {name : Text} {c : Char} (h : c ∈ name) : c ∈ endMarker name :=
  List.mem_append_left _ (List.mem_append_right _ h)

end Marker

end TexMend.Repair
