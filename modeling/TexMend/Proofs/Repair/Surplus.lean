import TexMend.Proofs.Repair.Fixes
import TexMend.Proofs.Repair.AddedLine

/-!
# Repairs that are made more than once

Whether a line is missing is decided for each error alone, on the source as it was. So a package is
imported once for every error that misses it, and a marker is added once for every error that names its
environment, however many markers are missing.
-/

namespace TexMend

open Edit Repair

namespace Diagnosis

variable {options : Log.Options} {log source patched : Text}

/-- Each error adds its own line. -/
theorem count_insertedTexts (options : Log.Options) (log source text : Text) :
    (insertedTexts (of options log source).edits).count text =
      (Log.parse options log).errors.countP
        fun r => addedLine? r (Text.splitLines source) = some text := by
  have hadded : insertedTexts (of options log source).edits =
      (Log.parse options log).errors.filterMap fun r => addedLine? r (Text.splitLines source) := by
    rw [insertedTexts, edits, List.filterMap_map, of, List.filterMap_filterMap]
    rfl
  rw [hadded, List.count_filterMap]
  apply List.countP_congr
  intro r _
  simp

/-- A line that some errors add, each under a condition on the source only, is added for all of them or
for none. -/
theorem count_insertedTexts_eq {text : Text} {reports : Record → Bool} {missing : Prop} [Decidable missing]
    (h : ∀ r ∈ (Log.parse options log).errors,
      addedLine? r (Text.splitLines source) = some text ↔ reports r = true ∧ missing) :
    (insertedTexts (of options log source).edits).count text =
      if missing then (Log.parse options log).errors.countP reports else 0 := by
  rw [count_insertedTexts]
  split
  · next hmissing =>
      apply List.countP_congr
      intro r hr
      simpa [hmissing] using h r hr
  · next hmissing =>
      rw [List.countP_eq_zero]
      intro r hr hadded
      exact hmissing ((h r hr).mp (of_decide_eq_true hadded)).2

/-- Every added line is there, and a line occurs more often than before only for a fix that adds it or
puts it. -/
theorem count_splitLines_bounds (h : (of options log source).applyAll source = .ok patched) (line : Text) :
    (insertedTexts (of options log source).edits).count line ≤ (Text.splitLines patched).count line ∧
      (Text.splitLines patched).count line ≤ (Text.splitLines source).count line +
        (insertedTexts (of options log source).edits).count line +
        (of options log source).edits.countP (replacesBy line) := by
  have hlines := (applyAll_extends h).2.count_eq line
  have hstands := count_standingFrom_le (ne_deleteLine_of_mem_edits options log source) line 1
    (Text.splitLines source)
  rw [filter_one_le_line] at hstands
  rw [List.count_append] at hlines
  omega

end Diagnosis

namespace Diagnoser

/-- A package is imported, and a marker added, once for every error that asks for it, as long as the
source alone lacks one. The patched source has these lines, and no line more often but one that a fix
puts for another. -/
theorem repairs_once_per_report (d : Diagnoser) {log source patched : Text}
    (h : (d.diagnose log source).applyAll source = .ok patched) :
    (∀ package, (insertedTexts (d.diagnose log source).edits).count (importLine package) =
      if isImported package (Text.splitLines source) = false then
        (Log.parse d.options log).errors.countP (missesPackage package) else 0) ∧
    (∀ name, (insertedTexts (d.diagnose log source).edits).count (endMarker name) =
      if (EnvironmentBalance.of (Text.splitLines source) name).ends <
          (EnvironmentBalance.of (Text.splitLines source) name).begins then
        (Log.parse d.options log).errors.countP (namesEnvironment name) else 0) ∧
    (∀ name, (insertedTexts (d.diagnose log source).edits).count (beginMarker name) =
      if (EnvironmentBalance.of (Text.splitLines source) name).begins <
          (EnvironmentBalance.of (Text.splitLines source) name).ends then
        (Log.parse d.options log).errors.countP (namesEnvironment name) else 0) ∧
    ∀ line, (insertedTexts (d.diagnose log source).edits).count line ≤
        (Text.splitLines patched).count line ∧
      (Text.splitLines patched).count line ≤ (Text.splitLines source).count line +
        (insertedTexts (d.diagnose log source).edits).count line +
        (d.diagnose log source).edits.countP (replacesBy line) := by
  refine ⟨?_, ?_, ?_, ?_⟩
  · intro package
    apply Diagnosis.count_insertedTexts_eq
    intro r hr
    exact addedLine?_eq_importLine_iff (Log.category_ne_missingPackage hr)
  · intro name
    apply Diagnosis.count_insertedTexts_eq
    intro r _
    exact addedLine?_eq_endMarker_iff
  · intro name
    apply Diagnosis.count_insertedTexts_eq
    intro r _
    exact addedLine?_eq_beginMarker_iff
  · intro line
    exact Diagnosis.count_splitLines_bounds h line

/-- A log that complains twice of one command. -/
def repeatedLog : Text :=
  "! Undefined control sequence.\nl.1 \\mathbb\n! Undefined control sequence.\nl.1 \\mathbb".toList

theorem edits_repeated : (({} : Diagnoser).diagnose repeatedLog "x".toList).edits =
    [addAfter 1 (importLine "amssymb".toList), addAfter 1 (importLine "amssymb".toList)] := by
  rfl

theorem applyAll_repeated :
    (({} : Diagnoser).diagnose repeatedLog "x".toList).applyAll "x".toList =
      .ok "x\n\\usepackage\x7bamssymb\x7d\n\\usepackage\x7bamssymb\x7d".toList := by
  rw [Diagnosis.applyAll_eq_map, edits_repeated, applyAll, schedule_of_sorted (by decide)]
  rfl

/-- Two complaints of one command lead to two imports. -/
theorem two_reports_import_twice :
    (∃ patched, (({} : Diagnoser).diagnose repeatedLog "x".toList).applyAll "x".toList = .ok patched) ∧
    (insertedTexts (({} : Diagnoser).diagnose repeatedLog "x".toList).edits).count
      (importLine "amssymb".toList) = 2 := by
  refine ⟨⟨_, applyAll_repeated⟩, ?_⟩
  rw [(repairs_once_per_report {} applyAll_repeated).1 "amssymb".toList]
  decide

/-- A log that complains twice of one environment. -/
def repeatedEnvironmentLog : Text :=
  "! \\begin\x7ba\x7d\nl.1 x\n! \\begin\x7ba\x7d\nl.1 x".toList

/-- More lines are added than are missing: of an import, and of the end of an environment. -/
theorem repairs_exceed_need :
    (∃ patched, (({} : Diagnoser).diagnose repeatedLog "x".toList).applyAll "x".toList = .ok patched ∧
      (Text.splitLines "x".toList).count (importLine "amssymb".toList) + 1 <
        (Text.splitLines patched).count (importLine "amssymb".toList)) ∧
    (∃ patched, (({} : Diagnoser).diagnose repeatedEnvironmentLog "\\begin\x7ba\x7d".toList).applyAll
        "\\begin\x7ba\x7d".toList = .ok patched ∧
      (EnvironmentBalance.of (Text.splitLines "\\begin\x7ba\x7d".toList) "a".toList).begins -
        (EnvironmentBalance.of (Text.splitLines "\\begin\x7ba\x7d".toList) "a".toList).ends <
          (insertedTexts (({} : Diagnoser).diagnose repeatedEnvironmentLog
            "\\begin\x7ba\x7d".toList).edits).count (endMarker "a".toList)) := by
  constructor
  · exact ⟨_, applyAll_repeated, by decide⟩
  · have hedits : (({} : Diagnoser).diagnose repeatedEnvironmentLog "\\begin\x7ba\x7d".toList).edits =
        [addAfter 1 (endMarker "a".toList), addAfter 1 (endMarker "a".toList)] := by rfl
    rw [hedits]
    refine ⟨"\\begin\x7ba\x7d\n\\end\x7ba\x7d\n\\end\x7ba\x7d".toList, ?_, by decide⟩
    rw [Diagnosis.applyAll_eq_map, hedits, applyAll, schedule_of_sorted (by decide)]
    rfl

end Diagnoser

end TexMend
