import TexMend.Proofs.Repair.Fixes

/-!
# Which repairs survive

A fix is made for the source as it was. Where several fixes replace one line, each by its own text, the
last of them wins and the others leave no trace. Every other text of a fix becomes a line of the patched
source.
-/

namespace TexMend

open Edit

/-- The edit replaces the line of another one, which it does not agree with. -/
def Edit.Overwrites (later earlier : Edit) : Prop :=
  earlier.rewrites = true ∧ later.rewrites = true ∧ later.line = earlier.line ∧
    later.newText ≠ earlier.newText

instance (later earlier : Edit) : Decidable (later.Overwrites earlier) :=
  inferInstanceAs (Decidable (_ ∧ _))

namespace Diagnosis

variable {options : Log.Options} {log source : Text}

/-- A fix that no later one overwrites is inserted or stands. -/
theorem mem_of_not_overwritten {before after : List Edit} {e : Edit}
    (hedits : (of options log source).edits = before ++ e :: after)
    (hlast : ∀ later ∈ after, ¬ later.Overwrites e) :
    ∃ new, e.newText = some new ∧ (new ∈ insertedTexts (of options log source).edits ∨
      new ∈ standingFrom (of options log source).edits 1 (Text.splitLines source)) := by
  have he : e ∈ (of options log source).edits := by simp [hedits]
  obtain ⟨new, hnew⟩ := exists_newText_eq he
  refine ⟨new, hnew, ?_⟩
  rcases replaces_or_inserts he with hreplace | hinserts
  · right
    have hrewrites : e.rewrites = true := by simp [rewrites, hreplace, hnew]
    have hkept := ne_deleteLine_of_mem_edits options log source
    have hinside := (separable_edits options log source).inside e he hrewrites
    rw [hedits] at hkept ⊢
    refine mem_standingFrom_of_last hkept (replacesBy_eq_true_iff.mpr ⟨hrewrites, hnew⟩) ?_ e.line_pos
      hinside
    intro later hl hline hr
    by_contra hne
    exact hlast later hl ⟨hrewrites, hr, hline, hnew ▸ hne⟩
  · left
    exact List.mem_filterMap.mpr ⟨e, he, inserted?_eq_some_iff.mpr ⟨hinserts, hnew⟩⟩

end Diagnosis

namespace Diagnoser

/-- Every repair that no later one overwrites is a line of the patched source. All lines of the patched
source are inserted by fixes, or stand for a line of the source. -/
theorem repairs_not_overwritten_survive (d : Diagnoser) {log source patched : Text}
    (h : (d.diagnose log source).applyAll source = .ok patched) :
    (∀ before e after, (d.diagnose log source).edits = before ++ e :: after →
      (∀ later ∈ after, ¬ later.Overwrites e) →
      ∃ new, e.newText = some new ∧ new ∈ Text.splitLines patched) ∧
    ∀ text, text ∈ Text.splitLines patched ↔ text ∈ insertedTexts (d.diagnose log source).edits ∨
      text ∈ standingFrom (d.diagnose log source).edits 1 (Text.splitLines source) := by
  have hmem : ∀ text, text ∈ Text.splitLines patched ↔
      text ∈ insertedTexts (d.diagnose log source).edits ∨
        text ∈ standingFrom (d.diagnose log source).edits 1 (Text.splitLines source) := by
    intro text
    rw [(Diagnosis.applyAll_extends h).2.mem_iff, List.mem_append]
    rfl
  refine ⟨?_, hmem⟩
  intro before e after hedits hlast
  obtain ⟨new, hnew, hnew'⟩ := Diagnosis.mem_of_not_overwritten hedits hlast
  exact ⟨new, hnew, (hmem new).mpr hnew'⟩

/-- A log with two complaints about one line. -/
def clashingLog : Text :=
  "! Missing $ inserted.\nl.1 \x7b\\alpha\n! Missing \x7d inserted.\nl.1 \x7b\\alpha".toList

def clashingLine : Text :=
  "\x7b\\alpha".toList

/-- Each complaint has its own version of the line. -/
theorem edits_clashing : (({} : Diagnoser).diagnose clashingLog clashingLine).edits =
    [Repair.replaceLine 1 clashingLine "\x7b$\\alpha$".toList,
      Repair.replaceLine 1 clashingLine "\x7b\\alpha\x7d".toList] := by
  rfl

theorem applyAll_clashing :
    (({} : Diagnoser).diagnose clashingLog clashingLine).applyAll clashingLine =
      .ok "\x7b\\alpha\x7d".toList := by
  rw [Diagnosis.applyAll_eq_map, edits_clashing, applyAll, schedule_of_sorted (by decide)]
  rfl

/-- The second of two clashing repairs survives. -/
theorem second_clashing_repair_survives :
    ∃ patched, (({} : Diagnoser).diagnose clashingLog clashingLine).applyAll clashingLine = .ok patched ∧
      "\x7b\\alpha\x7d".toList ∈ Text.splitLines patched := by
  refine ⟨_, applyAll_clashing, ?_⟩
  obtain ⟨new, hnew, hmem⟩ := (repairs_not_overwritten_survive {} applyAll_clashing).1
    [Repair.replaceLine 1 clashingLine "\x7b$\\alpha$".toList] _ [] edits_clashing (by simp)
  obtain rfl := Option.some.inj hnew
  exact hmem

/-- The first of two clashing repairs is lost. -/
theorem first_clashing_repair_lost :
    ∃ s ∈ (({} : Diagnoser).diagnose clashingLog clashingLine).fixes, ∃ new patched,
      (({} : Diagnoser).diagnose clashingLog clashingLine).applyAll clashingLine = .ok patched ∧
      s.edit.newText = some new ∧ new ∉ Text.splitLines patched := by
  have hmem : Repair.replaceLine 1 clashingLine "\x7b$\\alpha$".toList ∈
      (({} : Diagnoser).diagnose clashingLog clashingLine).edits := by simp [edits_clashing]
  obtain ⟨s, hs, he⟩ := List.mem_map.mp hmem
  refine ⟨s, hs, "\x7b$\\alpha$".toList, _, applyAll_clashing, ?_, by decide⟩
  rw [he]
  rfl

end Diagnoser

end TexMend
