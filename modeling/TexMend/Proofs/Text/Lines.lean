import TexMend.Text.Lines
import TexMend.Proofs.Text.Occurrence

/-!
# Cutting and joining lines

Cutting distributes over a newline, and lines without newlines survive joining and cutting. A part
without newlines occurs in joined lines exactly when it occurs in one of them.
-/

namespace TexMend.Text

theorem bne_newline_of_mem {text : Text} (h : '\n' ∉ text) : ∀ c ∈ text, (c != '\n') = true := by
  intro c hc
  rw [bne_iff_ne]
  rintro rfl
  exact h hc

/-- A text without newlines is one line. -/
theorem splitLines_of_not_mem {text : Text} (h : '\n' ∉ text) : splitLines text = [text] := by
  induction text with
  | nil => rfl
  | cons c cs ih =>
      have hc : c ≠ '\n' := fun e => h (e ▸ List.mem_cons_self)
      have hcs : '\n' ∉ cs := fun hm => h (List.mem_cons_of_mem c hm)
      simp only [splitLines, if_neg hc, ih hcs]

/-- A newline separates the lines before it from the lines after it. -/
theorem splitLines_append_newline (before after : Text) :
    splitLines (before ++ '\n' :: after) = splitLines before ++ splitLines after := by
  induction before with
  | nil => simp [splitLines]
  | cons c cs ih =>
      obtain ⟨line, rest, hl⟩ := List.exists_cons_of_ne_nil (splitLines_ne_nil cs)
      simp only [List.cons_append, splitLines, ih, hl]
      split <;> rfl

/-- No line holds a newline. -/
theorem newline_not_mem_of_mem_splitLines {text line : Text} (h : line ∈ splitLines text) :
    '\n' ∉ line := by
  induction text generalizing line with
  | nil =>
      obtain rfl : line = [] := by simpa [splitLines] using h
      simp
  | cons c cs ih =>
      by_cases hc : c = '\n'
      · simp only [splitLines, if_pos hc, List.mem_cons] at h
        rcases h with rfl | h
        · simp
        · exact ih h
      · obtain ⟨first, rest, hl⟩ := List.exists_cons_of_ne_nil (splitLines_ne_nil cs)
        simp only [splitLines, if_neg hc, hl, List.mem_cons] at h ih
        rcases h with rfl | h
        · have := ih (Or.inl rfl)
          simp [this, Ne.symm hc]
        · exact ih (Or.inr h)

theorem joinLines_cons {line : Text} {lines : Document} (h : lines ≠ []) :
    joinLines (line :: lines) = line ++ '\n' :: joinLines lines := by
  cases lines with
  | nil => exact absurd rfl h
  | cons next rest => rfl

/-- Lines without newlines come back from the joined text. -/
theorem splitLines_joinLines {lines : Document} (hne : lines ≠ [])
    (h : ∀ line ∈ lines, '\n' ∉ line) : splitLines (joinLines lines) = lines := by
  induction lines with
  | nil => exact absurd rfl hne
  | cons line rest ih =>
      have hline : splitLines line = [line] := splitLines_of_not_mem (h line List.mem_cons_self)
      by_cases hr : rest = []
      · subst hr
        exact hline
      · rw [joinLines_cons hr, splitLines_append_newline, hline,
          ih hr fun l hl => h l (List.mem_cons_of_mem line hl)]
        rfl

/-- The characters of joined lines are those of the lines, and newlines. -/
theorem mem_joinLines {c : Char} {lines : Document} (h : c ∈ joinLines lines) :
    c = '\n' ∨ ∃ line ∈ lines, c ∈ line := by
  induction lines with
  | nil => simp [joinLines] at h
  | cons line rest ih =>
      by_cases hr : rest = []
      · subst hr
        exact Or.inr ⟨line, List.mem_cons_self, h⟩
      · rw [joinLines_cons hr, List.mem_append, List.mem_cons] at h
        rcases h with h | h | h
        · exact Or.inr ⟨line, List.mem_cons_self, h⟩
        · exact Or.inl h
        · rcases ih h with h | ⟨l, hl, hc⟩
          · exact Or.inl h
          · exact Or.inr ⟨l, List.mem_cons_of_mem line hl, hc⟩

/-- A part without newlines occurs in joined lines exactly when it occurs in one of them. -/
theorem infix_joinLines_iff {part : Text} {lines : Document} (h : '\n' ∉ part) (hne : lines ≠ []) :
    part <:+: joinLines lines ↔ ∃ line ∈ lines, part <:+: line := by
  induction lines with
  | nil => exact absurd rfl hne
  | cons line rest ih =>
      by_cases hr : rest = []
      · subst hr
        simp [joinLines]
      · rw [joinLines_cons hr, infix_append_cons_iff h, ih hr]
        simp

end TexMend.Text
