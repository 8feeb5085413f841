import TexMend.Text.Numeral

/-!
# Numerals are read back

A numeral is a run of ASCII digits that is not empty, and its value is the number it was written for.
So different numbers have different numerals.
-/

namespace TexMend.Text

theorem isAsciiDigit_iff {c : Char} : isAsciiDigit c = true ↔ 48 ≤ c.toNat ∧ c.toNat ≤ 57 := by
  rw [isAsciiDigit, Bool.and_eq_true, decide_eq_true_iff, decide_eq_true_iff, Char.le_def, Char.le_def,
    UInt32.le_iff_toNat_le, UInt32.le_iff_toNat_le]
  exact Iff.rfl

/-- A digit neither separates words nor ends the name of a file. -/
theorem isAsciiBlank_of_isAsciiDigit {c : Char} (h : isAsciiDigit c = true) : isAsciiBlank c = false := by
  have hcode := isAsciiDigit_iff.mp h
  have hspace : c ≠ ' ' := by
    rintro rfl
    exact absurd h (by decide)
  simp only [isAsciiBlank, Bool.or_eq_false_iff, beq_eq_false_iff_ne, Bool.and_eq_false_iff,
    decide_eq_false_iff_not]
  exact ⟨hspace, Or.inr (by omega)⟩

theorem isAsciiDigit_of_mem_ofNat {n : Nat} {c : Char} (h : c ∈ ofNat n) : isAsciiDigit c = true := by
  have hdigit : c.isDigit = true := Nat.isDigit_of_mem_toDigits (by decide) (Nat.le_refl 10) h
  rw [isAsciiDigit_iff]
  simpa [Char.isDigit, UInt32.le_iff_toNat_le] using hdigit

theorem ofNat_ne_nil (n : Nat) : ofNat n ≠ [] :=
  Nat.toDigits_ne_nil

/-- A reader finds the number that was written. -/
theorem digitsValue_ofNat (n : Nat) : digitsValue (ofNat n) = n :=
  Nat.ofDigitChars_ten_toDigits

theorem readDigits?_ofNat {n : Nat} (h : (ofNat n).length ≤ digitLimit) :
    readDigits? (ofNat n) = some n := by
  rw [readDigits?, if_pos h, digitsValue_ofNat]

theorem ofNat_inj {m n : Nat} : ofNat m = ofNat n ↔ m = n := by
  constructor
  · intro h
    rw [← digitsValue_ofNat m, h, digitsValue_ofNat]
  · rintro rfl
    rfl

end TexMend.Text
