import TexMend.Diagnoser
import TexMend.Proofs.Log.Site
import TexMend.Proofs.Text.Lines
import TexMend.Proofs.Repair.Standing
import TexMend.Proofs.Repair.Proposal

/-!
# All fixes of a diagnosis

The fixes of a diagnosis are edits of single lines, each made for the source as it was. Applied together
they keep what stands for its lines and add what they insert, and every text of theirs is one line.
-/

namespace TexMend.Diagnosis

open Edit Repair

/-- The edits of the proposed fixes. -/
def edits (d : Diagnosis) : List Edit :=
  d.fixes.map Suggestion.edit

theorem applyAll_eq_map (d : Diagnosis) (source : Text) :
    d.applyAll source = (Edit.applyAll d.edits (Text.splitLines source)).map Text.joinLines :=
  rfl

theorem applyAll_eq_sweep (d : Diagnosis) (source : Text) :
    d.applyAll source =
      if d.edits.any overflows then .error .positionTooLarge
      else .ok (Text.joinLines (sweep d.edits (Text.splitLines source))) := by
  rw [applyAll_eq_map, Edit.applyAll_eq_sweep]
  split <;> rfl

theorem applyAll_eq_ok_iff {d : Diagnosis} {source patched : Text} :
    d.applyAll source = .ok patched ↔ d.edits.any overflows = false ∧
      Text.joinLines (sweep d.edits (Text.splitLines source)) = patched := by
  rw [applyAll_eq_sweep]
  cases d.edits.any overflows <;> simp

variable {options : Log.Options} {log source patched : Text} {e : Edit}

/-- Every fix is what the rules propose for an error. -/
theorem mem_edits_of : e ∈ (of options log source).edits ↔
    ∃ r ∈ (Log.parse options log).errors, ∃ s, fix? r (Text.splitLines source) = some s ∧ s.edit = e := by
  simp only [edits, of, List.mem_map, List.mem_filterMap]
  constructor
  · rintro ⟨s, ⟨r, hr, hs⟩, he⟩
    exact ⟨r, hr, s, hs, he⟩
  · rintro ⟨r, hr, s, hs, he⟩
    exact ⟨s, ⟨r, hr, hs⟩, he⟩

theorem exists_proposal (h : e ∈ (of options log source).edits) :
    ∃ r ∈ (Log.parse options log).errors, Proposal r (Text.splitLines source) e := by
  obtain ⟨r, hr, s, hs, rfl⟩ := mem_edits_of.mp h
  exact ⟨r, hr, proposal_of_fix? hs⟩

/-- The rules neither delete nor touch ranges. -/
theorem replaces_or_inserts (h : e ∈ (of options log source).edits) :
    e.action = .replaceLine ∨ e.action.inserts = true := by
  obtain ⟨r, _, hp⟩ := exists_proposal h
  exact hp.rewrites_or_inserts.imp_left And.left

theorem ne_deleteLine_of_mem_edits (options : Log.Options) (log source : Text) :
    ∀ e ∈ (of options log source).edits, e.action ≠ .deleteLine := by
  intro e he hd
  rcases replaces_or_inserts he with h | h <;> simp [hd, EditAction.inserts] at h

/-- The fixes are edits of single lines. -/
theorem separable_edits (options : Log.Options) (log source : Text) :
    Separable (of options log source).edits 1 (Text.splitLines source) where
  no_range := by
    intro e he ha
    rcases replaces_or_inserts he with h | h <;> simp [ha, EditAction.inserts] at h
  inside := by
    intro e he hr
    obtain ⟨r, _, hp⟩ := exists_proposal he
    rcases hp.rewrites_or_inserts with ⟨_, hle⟩ | hi
    · omega
    · simp [rewrites_of_inserts hi] at hr
  deleted_last := by
    apply List.pairwise_of_forall_mem_list
    intro a ha b _ _ hd
    exact absurd hd (ne_deleteLine_of_mem_edits options log source a ha)

theorem exists_newText_eq (h : e ∈ (of options log source).edits) : ∃ new, e.newText = some new := by
  obtain ⟨r, _, hp⟩ := exists_proposal h
  exact hp.exists_newText

/-- The text of a fix is one line. -/
theorem newline_not_mem_of_newText (h : e ∈ (of options log source).edits) {new : Text}
    (hnew : e.newText = some new) : '\n' ∉ new := by
  obtain ⟨r, hr, hp⟩ := exists_proposal h
  apply hp.newline_not_mem (Log.category_ne_missingPackage hr) _ hnew
  intro line hline
  exact Text.newline_not_mem_of_mem_splitLines hline

theorem sweep_edits_extends (options : Log.Options) (log source : Text) :
    Extends (insertedTexts (of options log source).edits)
      (standingFrom (of options log source).edits 1 (Text.splitLines source))
      (sweep (of options log source).edits (Text.splitLines source)) :=
  sweep_extends (separable_edits options log source)

/-- The lines of a patched source are those that the sweep leaves. -/
theorem splitLines_of_applyAll (h : (of options log source).applyAll source = .ok patched) :
    Text.splitLines patched = sweep (of options log source).edits (Text.splitLines source) := by
  obtain ⟨_, rfl⟩ := applyAll_eq_ok_iff.mp h
  have hextends := sweep_edits_extends options log source
  have hkept := ne_deleteLine_of_mem_edits options log source
  -- joining can be undone: a line stands for each old one, and no text of a fix has a newline
  apply Text.splitLines_joinLines
  · intro hnil
    have hle := hextends.1.length_le
    rw [length_standingFrom hkept, hnil, List.length_nil, Nat.le_zero, List.length_eq_zero_iff] at hle
    exact Text.splitLines_ne_nil source hle
  · intro line hline
    rcases List.mem_append.mp (hextends.2.mem_iff.mp hline) with hinserted | hstands
    · obtain ⟨e, he, hnew⟩ := List.mem_filterMap.mp hinserted
      exact newline_not_mem_of_newText he (inserted?_eq_some_iff.mp hnew).2
    · rcases mem_standingFrom hkept hstands with hold | ⟨e, he, hputs⟩
      · exact Text.newline_not_mem_of_mem_splitLines hold
      · exact newline_not_mem_of_newText he (replacesBy_eq_true_iff.mp hputs).2

/-- What becomes of a source: lines stand for its lines, and the inserted texts are added. -/
theorem applyAll_extends (h : (of options log source).applyAll source = .ok patched) :
    Extends (insertedTexts (of options log source).edits)
      (standingFrom (of options log source).edits 1 (Text.splitLines source))
      (Text.splitLines patched) := by
  rw [splitLines_of_applyAll h]
  exact sweep_edits_extends options log source

end TexMend.Diagnosis
