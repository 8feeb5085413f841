import TexMend.Diagnosis
import TexMend.Proofs.Log.Identity
import TexMend.Proofs.Repair.Proposal

/-!
# The fix of a record

The rules are asked twice about a record: when a log is diagnosed, and when the fix of one record is asked
for. Both give the same, because the id of a fix leads back to its record and no rule is for warnings.
-/

namespace TexMend

namespace Repair

variable {r : Record} {lines : Document}

theorem fix?_eq_none_of_mem_warningCategories (h : r.category ∈ Log.warningCategories) :
    fix? r lines = none := by
  unfold fix?
  cases hcategory : r.category <;> rw [hcategory] at h <;> first | rfl | exact absurd h (by decide)

end Repair

namespace Diagnosis

open Repair

variable {options : Log.Options} {log source : Text} {r : Record} {s : Suggestion}

/-- What the rules propose for the record of a log that has an id. -/
def ruleFix? (options : Log.Options) (log source id : Text) : Option Suggestion :=
  ((Log.parse options log).find? id).bind fun r => fix? r (Text.splitLines source)

theorem mem_fixes_of : s ∈ (of options log source).fixes ↔
    ∃ r ∈ (Log.parse options log).errors, fix? r (Text.splitLines source) = some s :=
  List.mem_filterMap

/-- The fixes for some records are for some of their ids, in the same order. -/
theorem errorIds_sublist (records : List Record) (lines : Document) :
    ((records.filterMap fun r => fix? r lines).map Suggestion.errorId).Sublist
      (records.map Record.id) := by
  induction records with
  | nil => exact .slnil
  | cons r rest ih =>
      cases hfix : fix? r lines with
      | none =>
          simp only [List.filterMap_cons, hfix, List.map_cons]
          exact ih.cons _
      | some s =>
          simp only [List.filterMap_cons, hfix, List.map_cons, errorId_of_fix? hfix]
          exact ih.cons_cons _

/-- The fixes of a diagnosis are for different records. -/
theorem nodup_fixes_of (options : Log.Options) (log source : Text) :
    ((of options log source).fixes.map Suggestion.errorId).Nodup := by
  have hids := Log.nodup_ids options log
  rw [ParsedLog.records, List.map_append] at hids
  exact hids.of_append_left.sublist (errorIds_sublist _ _)

/-- A rule fixes errors only. -/
theorem mem_errors_of_fix? {lines : Document} (hr : r ∈ (Log.parse options log).records)
    (h : fix? r lines = some s) : r ∈ (Log.parse options log).errors := by
  rcases List.mem_append.mp hr with herror | hwarning
  · exact herror
  · rw [fix?_eq_none_of_mem_warningCategories (Log.category_mem_warningCategories hwarning)] at h
    cases h

/-- The fix for an id in a diagnosis is what the rules propose for the record with that id. -/
theorem fixFor?_of (options : Log.Options) (log source id : Text) :
    (of options log source).fixFor? id = ruleFix? options log source id := by
  apply Option.ext
  intro s
  rw [ruleFix?, Option.bind_eq_some_iff, fixFor?,
    find?_key_eq_some_iff (nodup_fixes_of options log source), mem_fixes_of]
  constructor
  · rintro ⟨⟨r, hr, hfix⟩, rfl⟩
    exact ⟨r, Log.find?_eq_some_iff.mpr ⟨List.mem_append_left _ hr, (errorId_of_fix? hfix).symm⟩, hfix⟩
  · rintro ⟨r, hfound, hfix⟩
    obtain ⟨hr, rfl⟩ := Log.find?_eq_some_iff.mp hfound
    exact ⟨⟨r, mem_errors_of_fix? hr hfix, hfix⟩, errorId_of_fix? hfix⟩

end Diagnosis

end TexMend
