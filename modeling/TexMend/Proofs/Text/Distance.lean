import TexMend.Text.Distance
import TexMend.Proofs.Text.Alignment

/-!
# The rows of the edit distance

Each row of the table holds, cell by cell, the least costs of aligning what has been read of the first text with the
beginnings of the second. So the last cell of the last row is the length of a shortest script from one text to the
other.
-/

namespace TexMend.Text

open TexMend.Text.Alignment

/-- The cells of a row from some place on: the least costs of aligning `a` with `before`, and with `before` and ever
more of the text behind it. -/
inductive Row (a : Text) : (before after : Text) → List Nat → Prop
  | last {before : Text} {cell : Nat} (least : Least cell a before) : Row a before [] [cell]
  | cell {before after : Text} {d : Char} {cell : Nat} {rest : List Nat} (least : Least cell a before)
      (later : Row a (before ++ [d]) after rest) : Row a before (d :: after) (cell :: rest)

section Row

variable {a before after b : Text} {c : Char} {row : List Nat}

/-- The first row: nothing has been read, and every beginning is inserted. -/
theorem row_range' (before after : Text) : Row [] before after (List.range' before.length (after.length + 1)) := by
  induction after generalizing before with
  | nil => exact .last (least_nil_left before)
  | cons d after ih =>
      have hlater := ih (before ++ [d])
      rw [List.length_append, List.length_singleton] at hlater
      exact .cell (least_nil_left before) hlater

/-- A cell of the next row comes from its left neighbour and two cells of the row before. -/
theorem Row.rowCells (h : Row a before after row) {left : Nat} (hleft : Least left (a ++ [c]) before) :
    Row (a ++ [c]) before after (left :: rowCells c left after row) := by
  induction h generalizing left with
  | last => exact .last hleft
  | cell hdiagonal later ih =>
      cases later with
      | last habove => exact .cell hleft (ih (habove.step hleft hdiagonal))
      | cell habove _ => exact .cell hleft (ih (habove.step hleft hdiagonal))

theorem Row.nextRow (h : Row a [] b row) : Row (a ++ [c]) [] b (nextRow c b row) := by
  have hcorner : ∀ corner, Least corner a [] → Least (corner + 1) (a ++ [c]) [] := by
    intro corner hcorner
    rw [hcorner.unique (least_nil_right a), ← List.length_singleton, ← List.length_append]
    exact least_nil_right (a ++ [c])
  cases h with
  | last least => exact Row.rowCells (.last least) (hcorner _ least)
  | cell least later => exact Row.rowCells (.cell least later) (hcorner _ least)

/-- The run: reading the rest of the first text, row after row. -/
theorem Row.foldl (h : Row a [] b row) (rest : Text) :
    Row (a ++ rest) [] b (rest.foldl (fun row c => Text.nextRow c b row) row) := by
  induction rest generalizing a row with
  | nil =>
      rw [List.append_nil]
      exact h
  | cons c rest ih =>
      rw [List.append_cons]
      exact ih h.nextRow

theorem row_distanceRow (a b : Text) : Row a [] b (distanceRow a b) := by
  have hfirst : Row [] [] b (List.range (b.length + 1)) := by
    rw [List.range_eq_range']
    exact row_range' [] b
  exact hfirst.foldl a

theorem Row.least_getLastD (h : Row a before after row) : Least (row.getLastD 0) a (before ++ after) := by
  induction h with
  | last least =>
      rw [List.append_nil]
      exact least
  | cell least later ih =>
      rw [List.append_cons]
      cases later with
      | last => exact ih
      | cell => exact ih

end Row

theorem least_distance (a b : Text) : Least (distance a b) a b :=
  (row_distanceRow a b).least_getLastD

/-- A text is at no distance from itself. -/
theorem distance_self (text : Text) : distance text text = 0 :=
  (least_distance text text).unique (least_self text)

/-- Texts are at distance one if they differ and one operation leads from one to the other. -/
theorem distance_eq_one_iff {a b : Text} : distance a b = 1 ↔ Operation a b ∧ b ≠ a := by
  obtain ⟨hscript, hshortest⟩ := (least_distance a b).isShortest
  constructor
  · intro hone
    rw [hone] at hscript
    cases hscript with
    | next head rest =>
        cases rest
        refine ⟨head, ?_⟩
        rintro rfl
        rw [distance_self] at hone
        cases hone
  · rintro ⟨hoperation, hne⟩
    have hle : distance a b ≤ 1 := hshortest 1 (.next hoperation .done)
    have hpos : distance a b ≠ 0 := by
      intro hzero
      rw [hzero] at hscript
      cases hscript
      exact hne rfl
    omega

end TexMend.Text
