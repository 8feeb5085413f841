import TexMend.Text.Basic

/-!
# Cuts by signed counts

A count or an end below zero is measured from the far end, so that `-1` stands for "all but one".
Such counts reach the library because limits and windows may be any integer.
-/

namespace TexMend.Text

variable {α : Type}

/-- The first `count` items, or all but the last `-count` of them. -/
def limit (count : Int) (items : List α) : List α :=
  if 0 ≤ count then items.take count.toNat else items.take (items.length + count).toNat

/-- The items from position `start` up to the position `stop`, which may be measured from the end. -/
def slice (start : Nat) (stop : Int) (items : List α) : List α :=
  (limit stop items).drop start

/-- With `index` items and one more before `rest`, the items of `rest` that lie in the window of
`count` positions after it; `total` is the number of items in all. -/
def window (index total : Nat) (count : Int) (rest : List α) : List α :=
  if 0 ≤ (index : Int) + 1 + count then rest.take count.toNat
  else rest.take (total + count).toNat

theorem limit_of_nonneg (count : Nat) (items : List α) :
    limit (count : Int) items = items.take count := by
  simp [limit]

theorem window_of_nonneg (index total count : Nat) (rest : List α) :
    window index total (count : Int) rest = rest.take count := by
  have h : (0 : Int) ≤ (index : Int) + 1 + count := by omega
  simp [window, h]

/-- Counts that are not below zero are not measured from the far end. -/
theorem window_eq_take {count : Int} (h : 0 ≤ count) (index total : Nat) (rest : List α) :
    window index total count rest = rest.take count.toNat := by
  obtain ⟨n, rfl⟩ := Int.eq_ofNat_of_zero_le h
  exact window_of_nonneg index total n rest

end TexMend.Text
