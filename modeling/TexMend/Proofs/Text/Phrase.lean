import Mathlib.Data.List.Forall2
import TexMend.Text.Class

/-!
# Phrases in any case

A phrase in lower case stands for every text that matches it character by character. A character without case stands
for itself only, so it comes in none of these texts unless it comes in the phrase.
-/

namespace TexMend.Text

/-- The text is the phrase, in any case. -/
def Folds (phrase text : Text) : Prop :=
  List.Forall₂ (fun l c => matchesFolded l c = true) phrase text

variable {phrase text rest : Text} {c : Char}

theorem afterFolded?_eq_some_iff :
    afterFolded? phrase text = some rest ↔ ∃ lead, Folds phrase lead ∧ text = lead ++ rest := by
  induction phrase generalizing text with
  | nil =>
      constructor
      · intro h
        exact ⟨[], .nil, Option.some.inj h⟩
      · rintro ⟨lead, hlead, rfl⟩
        cases hlead
        rfl
  | cons l phrase ih =>
      constructor
      · intro h
        cases text with
        | nil => cases h
        | cons c cs =>
            rw [afterFolded?] at h
            split at h
            · next hc =>
                obtain ⟨lead, hlead, rfl⟩ := ih.mp h
                exact ⟨c :: lead, .cons hc hlead, rfl⟩
            · cases h
      · rintro ⟨lead, hlead, rfl⟩
        cases hlead with
        | cons hc htail =>
            rw [List.cons_append, afterFolded?, if_pos hc]
            exact ih.mpr ⟨_, htail, rfl⟩

/-- The character stands for itself only. -/
def Caseless (c : Char) : Prop :=
  ∀ l, matchesFolded l c = true → l = c

/-- The letters of ASCII have two cases, and three of them have other forms beyond ASCII. -/
theorem caseless_of_not_letter (hletter : isAsciiLetter c = false) (hdotted : c.toNat ≠ 0x130)
    (hdotless : c.toNat ≠ 0x131) (hlong : c.toNat ≠ 0x17F) (hkelvin : c.toNat ≠ 0x212A) : Caseless c := by
  have hlower : lowerAscii c = c := by
    rw [isAsciiLetter, Bool.or_eq_false_iff] at hletter
    rw [lowerAscii, if_neg]
    simp [hletter.2]
  intro l h
  simp only [matchesFolded, hlower, Bool.or_eq_true, Bool.and_eq_true, beq_iff_eq] at h
  rcases h with ((heq | h) | h) | h
  · exact heq.symm
  all_goals omega

theorem not_letter_of_isBlank (h : isBlank c = true) : isAsciiLetter c = false := by
  simp only [isBlank, Bool.or_eq_true, Bool.and_eq_true, decide_eq_true_eq, beq_iff_eq] at h
  simp only [isAsciiLetter, Bool.or_eq_false_iff, Bool.and_eq_false_iff, decide_eq_false_iff_not, Char.le_def,
    UInt32.le_iff_toNat_le]
  change (¬ 97 ≤ c.toNat ∨ ¬ c.toNat ≤ 122) ∧ (¬ 65 ≤ c.toNat ∨ ¬ c.toNat ≤ 90)
  omega

theorem caseless_of_isBlank (h : isBlank c = true) : Caseless c := by
  have hletter := not_letter_of_isBlank h
  simp only [isBlank, Bool.or_eq_true, Bool.and_eq_true, decide_eq_true_eq, beq_iff_eq] at h
  apply caseless_of_not_letter hletter <;> omega

theorem Folds.not_mem (h : Folds phrase text) (hcase : Caseless c) (hc : c ∉ phrase) : c ∉ text := by
  induction h with
  | nil => exact List.not_mem_nil
  | @cons l d phrase text hd _ ih =>
      rw [List.mem_cons, not_or] at hc ⊢
      refine ⟨?_, ih hc.2⟩
      rintro rfl
      exact hc.1 (hcase l hd).symm

end TexMend.Text
