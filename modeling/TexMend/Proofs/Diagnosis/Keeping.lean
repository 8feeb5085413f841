import Mathlib.Data.List.Pairwise
import TexMend.Diagnoser
import TexMend.Proofs.Diagnosis.Lookup

/-!
# Suggestions that are kept

Suggestions are kept one after the other, for records that the log has or has not, and some more than once.
After each of them there is at most one fix for an id, and it is the last one that was kept for it.
-/

namespace TexMend

namespace Diagnosis

/-- The diagnosis after suggestions were kept, in their order. -/
def withFixes (d : Diagnosis) (kept : List Suggestion) : Diagnosis :=
  kept.foldl withFix d

/-- The suggestion that was kept last for an id. -/
def lastKept? (kept : List Suggestion) (id : Text) : Option Suggestion :=
  kept.reverse.find? fun s => s.errorId = id

/-- Is no suggestion for the record of this one? -/
def untouchedBy (kept : List Suggestion) (s : Suggestion) : Bool :=
  kept.all fun k => k.errorId ≠ s.errorId

/-- The suggestions that no later one replaces. -/
def lasting (kept : List Suggestion) : List Suggestion :=
  kept.pwFilter fun s k => k.errorId ≠ s.errorId

variable (d : Diagnosis) (s : Suggestion) (kept : List Suggestion)

theorem withFixes_cons : d.withFixes (s :: kept) = (d.withFix s).withFixes kept :=
  rfl

theorem withFixes_append (later : List Suggestion) :
    d.withFixes (kept ++ later) = (d.withFixes kept).withFixes later :=
  List.foldl_append

theorem lastKept?_cons (id : Text) :
    lastKept? (s :: kept) id = (lastKept? kept id).or (if s.errorId = id then some s else none) := by
  rw [lastKept?, List.reverse_cons, List.find?_append, ← lastKept?]
  by_cases h : s.errorId = id <;> simp [h]

theorem lasting_cons :
    lasting (s :: kept) = if untouchedBy kept s then s :: lasting kept else lasting kept := by
  have hlater : (∀ k ∈ lasting kept, k.errorId ≠ s.errorId) ↔ untouchedBy kept s = true := by
    rw [lasting, List.forall_mem_pwFilter (by grind)]
    simp [untouchedBy]
  by_cases h : untouchedBy kept s = true
  · rw [if_pos h, lasting, List.pwFilter_cons_of_pos (hlater.mpr h), ← lasting]
  · rw [if_neg h, lasting, List.pwFilter_cons_of_neg (mt hlater.mp h), ← lasting]

/-! ## Keeping one suggestion -/

/-- The suggestion is the only fix for its id afterwards. -/
theorem fixFor?_withFix (id : Text) :
    (d.withFix s).fixFor? id = if s.errorId = id then some s else d.fixFor? id := by
  rw [fixFor?, withFix, List.find?_append]
  by_cases h : s.errorId = id
  · have hnone : (d.fixes.filter fun old => !(old.errorId = s.errorId)).find?
        (fun s => s.errorId = id) = none := by
      rw [List.find?_filter, List.find?_eq_none]
      intro old _
      simp [h]
    rw [hnone, if_pos h, Option.none_or]
    exact List.find?_cons_of_pos (by simpa using h)
  · have hsame : (d.fixes.filter fun old => !(old.errorId = s.errorId)).find?
        (fun s => s.errorId = id) = d.fixFor? id := by
      rw [List.find?_filter, fixFor?]
      congr 1
      funext old
      by_cases hold : old.errorId = id <;> simp [hold, Ne.symm h]
    rw [hsame, if_neg h, List.find?_cons_of_neg (by simpa using h), List.find?_nil, Option.or_none]

variable {d} in
/-- Fixes for different records stay such. -/
theorem nodup_withFix (h : (d.fixes.map Suggestion.errorId).Nodup) :
    ((d.withFix s).fixes.map Suggestion.errorId).Nodup := by
  rw [withFix, List.map_append, List.nodup_append]
  refine ⟨h.sublist (List.filter_sublist.map _), List.nodup_singleton _, ?_⟩
  rintro id hid _ hs rfl
  obtain ⟨old, hold, rfl⟩ := List.mem_map.mp hid
  have hne := (List.mem_filter.mp hold).2
  simp_all

/-! ## Keeping any number of suggestions -/

@[simp]
theorem parsed_withFixes : (d.withFixes kept).parsed = d.parsed := by
  induction kept generalizing d with
  | nil => rfl
  | cons s rest ih => exact ih (d.withFix s)

theorem fixFor?_withFixes (id : Text) :
    (d.withFixes kept).fixFor? id = (lastKept? kept id).or (d.fixFor? id) := by
  induction kept generalizing d with
  | nil => rfl
  | cons s rest ih =>
      rw [withFixes_cons, ih, fixFor?_withFix, lastKept?_cons, Option.or_assoc]
      by_cases h : s.errorId = id <;> simp [h]

variable {d} in
theorem nodup_withFixes (h : (d.fixes.map Suggestion.errorId).Nodup) :
    ((d.withFixes kept).fixes.map Suggestion.errorId).Nodup := by
  induction kept generalizing d with
  | nil => exact h
  | cons s rest ih => exact ih (nodup_withFix s h)

/-- The fixes that no suggestion touches come first, in their order, and the suggestions that last follow. -/
theorem fixes_withFixes :
    (d.withFixes kept).fixes = d.fixes.filter (untouchedBy kept) ++ lasting kept := by
  induction kept generalizing d with
  | nil =>
      have hall : d.fixes.filter (untouchedBy []) = d.fixes := List.filter_eq_self.mpr fun _ _ => rfl
      rw [hall]
      exact (List.append_nil _).symm
  | cons s rest ih =>
      have hboth : (d.fixes.filter fun old => !(old.errorId = s.errorId)).filter (untouchedBy rest) =
          d.fixes.filter (untouchedBy (s :: rest)) := by
        rw [List.filter_filter]
        congr 1
        funext old
        simp [untouchedBy, Bool.and_comm, eq_comm]
      rw [withFixes_cons, ih, withFix, List.filter_append, hboth, List.append_assoc, lasting_cons]
      by_cases h : untouchedBy rest s = true <;> simp [h]

end Diagnosis

namespace Diagnoser

open Diagnosis

/-- Whatever suggestions are kept after a log was diagnosed: at every point there is one fix at most for an
id, the log is as it was read, the fix for an id is the last one that was kept for it, else the one that
the rules propose for its record, and the fixes that nothing was kept for stand in their order before those
kept since. -/
theorem diagnose_withFixes (d : Diagnoser) (log source : Text) (kept : List Suggestion) :
    let start := d.diagnose log source
    let now := start.withFixes kept
    (now.fixes.map Suggestion.errorId).Nodup ∧
      now.parsed = start.parsed ∧
      (∀ id, start.fixFor? id = ruleFix? d.options log source id) ∧
      (∀ id, now.fixFor? id = (lastKept? kept id).or (start.fixFor? id)) ∧
      ∀ point, now.fixes =
        (start.withFixes (kept.take point)).fixes.filter (untouchedBy (kept.drop point)) ++
          lasting (kept.drop point) := by
  intro start now
  refine ⟨nodup_withFixes kept (nodup_fixes_of _ _ _), parsed_withFixes _ _, fixFor?_of _ _ _,
    fixFor?_withFixes _ _, ?_⟩
  intro point
  rw [← fixes_withFixes, ← withFixes_append, List.take_append_drop]

end Diagnoser

end TexMend
