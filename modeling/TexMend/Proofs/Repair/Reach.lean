import TexMend.Proofs.Repair.Fixes

/-!
# Repairs that cannot be applied

A fix inserts at a place in the document, or at the line that the log names. Nothing bounds the second,
so a log can ask for a marker at a position that no list of lines has. Applying the fixes fails in this
case and in no other.
-/

namespace TexMend

open Edit Repair

namespace Repair

/-- Does the record ask for a marker at a position that no document has? -/
def asksBeyond (r : Record) (lines : Document) : Bool :=
  match r.category, (token? r).bind Log.firstMarker?, namedLine? r with
  | .unclosedEnvironment, some marker, some number =>
    let balance := EnvironmentBalance.of lines marker.name
    (balance.ends < balance.begins && positionLimit < number) ||
      (balance.begins < balance.ends && positionLimit < number - 1)
  | _, _, _ => false

variable {r : Record} {lines : Document} {e : Edit}

@[simp] theorem overflows_addAfter (number : Nat) (new : Text) :
    (addAfter number new).overflows = decide (positionLimit < max 1 number) :=
  rfl

@[simp] theorem overflows_addBefore (number : Nat) (new : Text) :
    (addBefore number new).overflows = decide (positionLimit < max 1 number - 1) :=
  rfl

/-- A place beyond a bound is the one that the record names, if the other one is within. -/
theorem exists_namedLine?_of_lt {bound place : Nat} (hone : 1 ≤ bound) (hplace : place ≤ bound)
    (h : bound < max 1 ((namedLine? r).getD place)) :
    ∃ number, namedLine? r = some number ∧ bound < number := by
  cases hnamed : namedLine? r with
  | none =>
      rw [hnamed, Option.getD_none] at h
      omega
  | some number =>
      rw [hnamed, Option.getD_some] at h
      exact ⟨number, rfl, by omega⟩

/-- A proposal that overflows is a marker at a line that the record names. -/
theorem asksBeyond_of_overflows (h : Proposal r lines e) (hfits : lines.length ≤ positionLimit)
    (ho : e.overflows = true) : asksBeyond r lines = true := by
  have hone : 1 ≤ positionLimit := by decide
  cases h with
  | rewriting pointed plain => cases ho
  | importing missed =>
      rw [overflows_addAfter, decide_eq_true_eq] at ho
      -- an import has its place in the document
      have hle := importPlace_le lines
      omega
  | @ending marker category token opened =>
      rw [overflows_addAfter, decide_eq_true_eq] at ho
      have hlast : (EnvironmentBalance.of lines marker.name).lastBegin.getD lines.length ≤
          max lines.length lines.length := lastLineWith?_getD_le _ _ _
      have hplace := Nat.le_trans hlast (Nat.max_le.mpr ⟨hfits, hfits⟩)
      obtain ⟨number, hnamed, hfar⟩ := exists_namedLine?_of_lt hone hplace ho
      simp [asksBeyond, category, token, hnamed, opened, hfar]
  | @beginning marker category token closed =>
      rw [overflows_addBefore, decide_eq_true_eq, Nat.lt_sub_iff_add_lt] at ho
      have hlast : (EnvironmentBalance.of lines marker.name).lastEnd.getD 1 ≤ max 1 lines.length :=
        lastLineWith?_getD_le _ _ _
      have hplace := Nat.le_succ_of_le (Nat.le_trans hlast (Nat.max_le.mpr ⟨hone, hfits⟩))
      obtain ⟨number, hnamed, hfar⟩ := exists_namedLine?_of_lt (Nat.le_succ_of_le hone) hplace ho
      have hfar' : positionLimit < number - 1 := by omega
      simp [asksBeyond, category, token, hnamed, closed, hfar']

/-- A record that asks for a marker beyond every document has a fix that overflows. -/
theorem exists_fix_of_asksBeyond (h : asksBeyond r lines = true) :
    ∃ s, fix? r lines = some s ∧ s.edit.overflows = true := by
  unfold asksBeyond at h
  split at h
  · next marker number hcategory hmarker hnamed =>
      have hfix : fix? r lines = fixEnvironment? r lines := by simp only [fix?, hcategory]
      simp only [Bool.or_eq_true, Bool.and_eq_true, decide_eq_true_eq] at h
      rcases h with ⟨hopened, hfar⟩ | ⟨hclosed, hfar⟩
      · refine ⟨suggest r ("Add missing " ++ endMarker marker.name) 80
          (addAfter number (endMarker marker.name)), ?_, ?_⟩
        · rw [hfix]
          simp only [fixEnvironment?, hmarker, hopened, if_true, hnamed, Option.getD_some]
        · simp only [suggest, overflows_addAfter, decide_eq_true_eq]
          omega
      · refine ⟨suggest r ("Add missing " ++ beginMarker marker.name) 70
          (addBefore number (beginMarker marker.name)), ?_, ?_⟩
        · rw [hfix]
          simp only [fixEnvironment?, hmarker, Nat.lt_asymm hclosed, hclosed, if_false, if_true, hnamed,
            Option.getD_some]
        · simp only [suggest, overflows_addBefore, decide_eq_true_eq]
          omega
  · cases h

end Repair

namespace Diagnoser

/-- Applying all fixes returns a document, unless an error asks for a marker beyond every document. -/
theorem applyAll_returns_iff (d : Diagnoser) (log source : Text)
    (hfits : (Text.splitLines source).length ≤ positionLimit) :
    ((∃ patched, (d.diagnose log source).applyAll source = .ok patched) ↔
      ∀ r ∈ (Log.parse d.options log).errors, asksBeyond r (Text.splitLines source) = false) ∧
    ((d.diagnose log source).applyAll source = .error .positionTooLarge ↔
      ∃ r ∈ (Log.parse d.options log).errors, asksBeyond r (Text.splitLines source) = true) := by
  have hoverflows : (d.diagnose log source).edits.any overflows = true ↔
      ∃ r ∈ (Log.parse d.options log).errors, asksBeyond r (Text.splitLines source) = true := by
    rw [List.any_eq_true]
    constructor
    · rintro ⟨e, he, ho⟩
      obtain ⟨r, hr, hp⟩ := Diagnosis.exists_proposal he
      exact ⟨r, hr, asksBeyond_of_overflows hp hfits ho⟩
    · rintro ⟨r, hr, hasks⟩
      obtain ⟨s, hs, ho⟩ := exists_fix_of_asksBeyond hasks
      exact ⟨s.edit, Diagnosis.mem_edits_of.mpr ⟨r, hr, s, hs, rfl⟩, ho⟩
  have herror : (d.diagnose log source).applyAll source = .error .positionTooLarge ↔
      (d.diagnose log source).edits.any overflows = true := by
    rw [Diagnosis.applyAll_eq_sweep]
    cases (d.diagnose log source).edits.any overflows <;> simp
  refine ⟨?_, herror.trans hoverflows⟩
  constructor
  · rintro ⟨patched, hpatched⟩ r hr
    have hnone := (Diagnosis.applyAll_eq_ok_iff.mp hpatched).1
    by_contra hasks
    rw [hoverflows.mpr ⟨r, hr, by simpa using hasks⟩] at hnone
    cases hnone
  · intro hnone
    refine ⟨_, Diagnosis.applyAll_eq_ok_iff.mpr ⟨?_, rfl⟩⟩
    by_contra hsome
    obtain ⟨r, hr, hasks⟩ := hoverflows.mp (by simpa using hsome)
    rw [hnone r hr] at hasks
    cases hasks

/-- A log that names a line beyond every document. -/
def farLog : Text :=
  "! \\begin\x7ba\x7d\nl.99999999999999999999".toList

/-- The far line does no harm while the environment is balanced. -/
theorem applyAll_returns_balanced :
    (Text.splitLines "\\begin\x7ba\x7d\\end\x7ba\x7d".toList).length ≤ positionLimit ∧
    ∃ patched, (({} : Diagnoser).diagnose farLog "\\begin\x7ba\x7d\\end\x7ba\x7d".toList).applyAll
      "\\begin\x7ba\x7d\\end\x7ba\x7d".toList = .ok patched := by
  have hfits : (Text.splitLines "\\begin\x7ba\x7d\\end\x7ba\x7d".toList).length ≤ positionLimit := by decide
  exact ⟨hfits, ((applyAll_returns_iff {} farLog _ hfits).1).mpr (by decide)⟩

/-- An environment that is open makes it fail. -/
theorem applyAll_fails_at_far_line :
    (({} : Diagnoser).diagnose farLog "\\begin\x7ba\x7d".toList).applyAll "\\begin\x7ba\x7d".toList =
      .error .positionTooLarge := by
  have hedits : (({} : Diagnoser).diagnose farLog "\\begin\x7ba\x7d".toList).edits =
      [addAfter 99999999999999999999 "\\end\x7ba\x7d".toList] := by rfl
  rw [Diagnosis.applyAll_eq_map, hedits, applyAll, schedule_of_sorted (by decide)]
  rfl

end Diagnoser

end TexMend
