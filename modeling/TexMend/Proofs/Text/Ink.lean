import TexMend.Proofs.Text.Lines
import TexMend.Proofs.Text.Stretch

/-!
# The ink of a text

What is left of a text without its blanks. Stripping a text, and joining lines, changes nothing but blanks.
-/

namespace TexMend.Text

/-- A text without its blanks. -/
def ink (text : Text) : Text :=
  text.filter fun c => !isBlank c

@[simp]
theorem ink_append (before after : Text) : ink (before ++ after) = ink before ++ ink after :=
  List.filter_append _ _

theorem ink_cons_of_blank {c : Char} (h : isBlank c = true) (text : Text) : ink (c :: text) = ink text :=
  List.filter_cons_of_neg (by simp [h])

theorem ink_eq_nil {text : Text} (h : ∀ c ∈ text, isBlank c = true) : ink text = [] :=
  List.filter_eq_nil_iff.mpr fun c hc => by simp [h c hc]

theorem ink_cons (c : Char) (text : Text) : ink (c :: text) = ink [c] ++ ink text :=
  ink_append [c] text

/-- Blanks at the start do not show in the ink. -/
theorem ink_dropWhile {p : Char → Bool} (h : ∀ c, p c = true → isBlank c = true) (text : Text) :
    ink (text.dropWhile p) = ink text := by
  induction text with
  | nil => rfl
  | cons c cs ih =>
      by_cases hc : p c = true
      · rw [List.dropWhile_cons_of_pos hc, ink_cons_of_blank (h c hc), ih]
      · rw [List.dropWhile_cons_of_neg hc]

theorem ink_dropEndWhile (text : Text) : ink (dropEndWhile isBlank text) = ink text := by
  induction text with
  | nil => rfl
  | cons c cs ih =>
      unfold dropEndWhile
      split
      · next hnil =>
          rw [hnil] at ih
          split
          · next hc => rw [ink_cons_of_blank hc, ← ih]
          · rw [ink_cons c cs, ← ih, ← ink_cons]
      · next d ds hcons => rw [← hcons, ink_cons, ih, ← ink_cons]

@[simp]
theorem ink_strip (text : Text) : ink (strip text) = ink text := by
  rw [strip, ink_dropEndWhile, ink_dropWhile fun _ h => h]

@[simp]
theorem ink_joinLines (lines : List Text) : ink (joinLines lines) = lines.flatMap ink := by
  induction lines with
  | nil => rfl
  | cons line rest ih =>
      cases rest with
      | nil => simp [joinLines]
      | cons next more =>
          rw [joinLines_cons (List.cons_ne_nil next more), ink_append, ink_cons_of_blank (by decide), ih]
          rfl

/-- Lines put on one line keep their ink. -/
theorem ink_flatMap_strip (lines : List Text) :
    ink (lines.flatMap fun line => ' ' :: strip line) = lines.flatMap ink := by
  induction lines with
  | nil => rfl
  | cons line rest ih =>
      rw [List.flatMap_cons, ink_append, ih, ink_cons_of_blank (by decide), ink_strip, List.flatMap_cons]

end TexMend.Text
