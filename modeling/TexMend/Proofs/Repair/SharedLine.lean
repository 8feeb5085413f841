import Mathlib.Data.List.Induction
import TexMend.Proofs.Repair.Sweep

/-!
# Edits that share a line

Any number of edits may address one line. The last of those that replace or delete it decides what stands
for it, and every inserted text becomes a line of its own. Nothing else is gained or lost, and what stands
for the original lines keeps their order.
-/

namespace TexMend.Edit

/-- Does the edit replace or delete the line that it addresses? -/
def rewrites (e : Edit) : Bool :=
  match e.action, e.newText with
  | .replaceLine, some _ => true
  | .deleteLine, _ => true
  | _, _ => false

/-- The text that the edit adds as a line. -/
def inserted? (e : Edit) : Option Text :=
  if e.action.inserts then e.newText else none

/-- The texts that edits add. -/
def insertedTexts (edits : List Edit) : List Text :=
  edits.filterMap inserted?

/-- What stands for a line after edits that all address it: the last one that rewrites it decides. -/
def standing (edits : List Edit) (number : Nat) (line : Text) : List Text :=
  match (edits.filter rewrites).getLast? with
  | some e => e.rewriteLine number line
  | none => [line]

/-- What stands for the original lines from `number` on. -/
def standingFrom (edits : List Edit) : Nat → Document → Document
  | _, [] => []
  | number, line :: rest =>
    standing (onLine edits number) number line ++ standingFrom edits (number + 1) rest

/-- Edits of single lines: no range, no rewriting of a line that does not exist, and none of a line
that is deleted already. -/
structure Separable (edits : List Edit) (number : Nat) (lines : Document) : Prop where
  no_range : ∀ e ∈ edits, e.action ≠ .replaceRange
  inside : ∀ e ∈ edits, e.rewrites = true → e.line < number + lines.length
  deleted_last : edits.Pairwise fun a b =>
    a.line = b.line → a.action = .deleteLine → b.rewrites = false

section OneEdit

variable {e : Edit}

theorem rewrites_of_inserts (h : e.action.inserts = true) : e.rewrites = false := by
  unfold rewrites
  cases ha : e.action <;> simp_all [EditAction.inserts]

/-- An edit that neither rewrites nor inserts, and has no range, does nothing. -/
theorem onward_of_idle (hrewrites : e.rewrites = false) (hinserted : e.inserted? = none)
    (hrange : e.action ≠ .replaceRange) (lines : Document) : e.onward lines = lines := by
  unfold rewrites at hrewrites
  unfold inserted? at hinserted
  unfold onward
  cases ha : e.action <;> cases hn : e.newText <;> simp_all [EditAction.inserts]

/-- A rewriting edit puts what stands for the first line in its place. -/
theorem onward_of_rewrites (h : e.rewrites = true) (number : Nat) (line : Text) (rest : Document) :
    e.onward (line :: rest) = e.rewriteLine number line ++ rest := by
  unfold rewrites at h
  unfold onward rewriteLine
  cases ha : e.action <;> cases hn : e.newText <;> simp_all

/-- A rewritten line does not show any more. -/
theorem rewriteLine_of_rewrites (h : e.rewrites = true) (number : Nat) (line line' : Text) :
    e.rewriteLine number line = e.rewriteLine number line' := by
  unfold rewrites at h
  unfold rewriteLine
  cases ha : e.action <;> cases hn : e.newText <;> simp_all

/-- An edit that rewrites and does not delete puts its text. -/
theorem exists_rewriteLine_eq (h : e.rewrites = true) (hkept : e.action ≠ .deleteLine) :
    ∃ new, e.newText = some new ∧ ∀ number line, e.rewriteLine number line = [new] := by
  unfold rewrites at h
  unfold rewriteLine
  cases ha : e.action <;> cases hn : e.newText <;> simp_all

theorem inserted?_eq_some_iff {new : Text} :
    e.inserted? = some new ↔ e.action.inserts = true ∧ e.newText = some new := by
  simp [inserted?]

end OneEdit

/-- The document `out` holds all of `lines` in their order, and the texts `added`. -/
def Extends (added : List Text) (lines out : Document) : Prop :=
  lines.Sublist out ∧ out.Perm (added ++ lines)

namespace Extends

variable {added more : List Text} {lines out out' : Document}

theorem refl (lines : Document) : Extends [] lines lines :=
  ⟨List.Sublist.refl lines, List.Perm.refl lines⟩

theorem cons (new : Text) (lines : Document) : Extends [new] lines (new :: lines) :=
  ⟨List.sublist_cons_self new lines, List.Perm.refl _⟩

theorem trans (h : Extends added lines out) (h' : Extends more out out') :
    Extends (added ++ more) lines out' := by
  constructor
  · exact h.1.trans h'.1
  · calc out'
      _ |>.Perm (more ++ out) := h'.2
      _ |>.Perm (more ++ (added ++ lines)) := h.2.append_left more
      _ |>.Perm (added ++ (more ++ lines)) := List.perm_append_comm_assoc more added lines
      _ |>.Perm (added ++ more ++ lines) := by rw [List.append_assoc]

theorem of_perm (h : Extends added lines out) (hp : added.Perm more) : Extends more lines out :=
  ⟨h.1, h.2.trans (hp.append_right lines)⟩

/-- Lines above stay where they are. -/
theorem append_left (h : Extends added lines out) (before : Document) :
    Extends added (before ++ lines) (before ++ out) := by
  constructor
  · exact (List.Sublist.refl before).append h.1
  · exact (h.2.append_left before).trans (List.perm_append_comm_assoc before added lines)

end Extends

section Insertions

variable {e : Edit}

/-- An edit that does not rewrite adds what it inserts and keeps all lines. -/
theorem onward_extends (h : e.rewrites = false) (hrange : e.action ≠ .replaceRange)
    (lines : Document) : Extends (insertedTexts [e]) lines (e.onward lines) := by
  cases hi : e.inserted? with
  | none =>
      rw [onward_of_idle h hi hrange]
      simpa [insertedTexts, hi] using Extends.refl lines
  | some new =>
      obtain ⟨hinserts, hn⟩ := inserted?_eq_some_iff.mp hi
      have htexts : insertedTexts [e] = [new] := by simp [insertedTexts, hi]
      rw [htexts]
      cases ha : e.action with
      | insertBefore =>
          simpa only [onward, ha, hn] using Extends.cons new lines
      | insertAfter =>
          have hbehind := (Extends.cons new (lines.drop 1)).append_left (lines.take 1)
          rw [List.take_append_drop] at hbehind
          simpa only [onward, ha, hn] using hbehind
      | replaceLine => simp [ha, EditAction.inserts] at hinserts
      | deleteLine => simp [ha, EditAction.inserts] at hinserts
      | replaceRange => simp [ha, EditAction.inserts] at hinserts

theorem changeFrom_extends (h : e.rewrites = false) (hrange : e.action ≠ .replaceRange) (number : Nat)
    (lines : Document) : Extends (insertedTexts [e]) lines (changeFrom number lines e) := by
  have hbehind := (onward_extends h hrange (lines.drop (e.line - number))).append_left
    (lines.take (e.line - number))
  rwa [List.take_append_drop] at hbehind

/-- The run: edits that each add their texts add all of them. -/
theorem foldl_extends {f : Document → Edit → Document} {edits : List Edit}
    (h : ∀ e ∈ edits, ∀ lines, Extends (insertedTexts [e]) lines (f lines e)) (lines : Document) :
    Extends (insertedTexts edits) lines (edits.foldl f lines) := by
  induction edits generalizing lines with
  | nil => exact Extends.refl lines
  | cons e rest ih =>
      have hfirst := h e List.mem_cons_self lines
      have hrest := ih (fun e he => h e (List.mem_cons_of_mem _ he)) (f lines e)
      have htexts : insertedTexts (e :: rest) = insertedTexts [e] ++ insertedTexts rest := by
        rw [insertedTexts, insertedTexts, insertedTexts, ← List.filterMap_append]
        rfl
      rw [htexts, List.foldl_cons]
      exact hfirst.trans hrest

end Insertions

section Rewriting

variable {edits : List Edit}

/-- The last edit decides, if it rewrites the line. -/
theorem standing_append (edits : List Edit) (e : Edit) (number : Nat) (line : Text) :
    standing (edits ++ [e]) number line =
      if e.rewrites then e.rewriteLine number line else standing edits number line := by
  cases h : e.rewrites <;> simp [standing, h]

/-- Insertions do not matter for what stands for a line. -/
theorem standing_filter_not_inserts (edits : List Edit) (number : Nat) (line : Text) :
    standing (edits.filter fun e => !e.action.inserts) number line = standing edits number line := by
  have hsame : (edits.filter fun e => !e.action.inserts).filter rewrites = edits.filter rewrites := by
    rw [List.filter_filter]
    apply List.filter_congr
    intro e _
    cases hi : e.action.inserts with
    | false => simp
    | true => simp [rewrites_of_inserts hi]
  rw [standing, standing, hsame]

/-- Only insertions add texts. -/
theorem insertedTexts_filter_inserts (edits : List Edit) :
    insertedTexts (edits.filter fun e => e.action.inserts) = insertedTexts edits := by
  rw [insertedTexts, insertedTexts, List.filterMap_filter]
  apply List.filterMap_congr
  intro e _
  cases hi : e.action.inserts <;> simp [inserted?, hi]

/-- A line that is not deleted has exactly one line standing for it. -/
theorem exists_standing_eq_singleton (h : ∀ e ∈ edits, e.action ≠ .deleteLine) (number : Nat)
    (line : Text) : ∃ text, standing edits number line = [text] := by
  unfold standing
  split
  · next e he =>
      obtain ⟨hmem, hrewrites⟩ := List.mem_filter.mp (List.mem_of_getLast? he)
      obtain ⟨new, _, hline⟩ := exists_rewriteLine_eq hrewrites (h e hmem)
      exact ⟨new, hline number line⟩
  · exact ⟨line, rfl⟩

/-- Edits of one line that insert nothing leave what stands for it, and all lines below. -/
theorem foldl_onward_eq_standing (hinserted : ∀ e ∈ edits, e.inserted? = none)
    (hrange : ∀ e ∈ edits, e.action ≠ .replaceRange)
    (hdeleted : edits.Pairwise fun a b => a.action = .deleteLine → b.rewrites = false)
    (number : Nat) (line : Text) (rest : Document) :
    edits.foldl (fun lines e => e.onward lines) (line :: rest) = standing edits number line ++ rest := by
  -- from the last edit back, since that is the one which decides
  induction edits using List.reverseRecOn with
  | nil => rfl
  | append_singleton edits e ih =>
      rw [List.pairwise_append] at hdeleted
      have hlast := hdeleted.2.2
      have ih := ih (fun a ha => hinserted a (List.mem_append_left _ ha))
        (fun a ha => hrange a (List.mem_append_left _ ha)) hdeleted.1
      rw [List.foldl_append, ih, List.foldl_cons, List.foldl_nil, standing_append]
      cases hr : e.rewrites with
      | false =>
          have hidle := onward_of_idle hr (hinserted e (by simp)) (hrange e (by simp))
          simp [hidle]
      | true =>
          have hkept : ∀ a ∈ edits, a.action ≠ .deleteLine := by
            intro a ha hd
            simp [hlast a ha e (by simp) hd] at hr
          obtain ⟨text, htext⟩ := exists_standing_eq_singleton hkept number line
          rw [htext, List.singleton_append, onward_of_rewrites hr number, if_pos rfl,
            rewriteLine_of_rewrites hr number text line]

end Rewriting

section Run

variable {edits : List Edit}

theorem Separable.tail {number : Nat} {line : Text} {rest : Document}
    (h : Separable edits number (line :: rest)) : Separable edits (number + 1) rest where
  no_range := h.no_range
  inside e he hr := by
    have hlt := h.inside e he hr
    rw [List.length_cons] at hlt
    omega
  deleted_last := h.deleted_last

/-- The texts of the edits from a line on are those of the edits below it and its own ones. -/
theorem insertedTexts_perm (edits : List Edit) (number : Nat) :
    (insertedTexts (edits.filter fun e => number + 1 ≤ e.line) ++
      insertedTexts (onLine edits number)).Perm
      (insertedTexts (edits.filter fun e => number ≤ e.line)) := by
  have hparts := List.filter_append_perm (fun e : Edit => decide (number + 1 ≤ e.line))
    (edits.filter fun e => number ≤ e.line)
  rw [filter_below, filter_not_below] at hparts
  rw [insertedTexts, insertedTexts, ← List.filterMap_append]
  exact hparts.filterMap inserted?

/-- The edits of one line, all in turn, leave what stands for it among the texts they insert. -/
theorem foldl_onward_turn {number : Nat} {lines : Document} (h : Separable edits number lines)
    (line : Text) (rest : Document) :
    (turn (onLine edits number)).foldl (fun lines e => e.onward lines) (line :: rest) =
      ((onLine edits number).filter fun e => e.action.inserts).foldl (fun lines e => e.onward lines)
        (standing (onLine edits number) number line ++ rest) := by
  have hmem : ∀ e ∈ (onLine edits number).filter (fun e => !e.action.inserts),
      e ∈ edits ∧ e.line = number ∧ e.action.inserts = false := by
    intro e he
    simpa [and_assoc] using he
  rw [turn, List.foldl_append, ← standing_filter_not_inserts, foldl_onward_eq_standing]
  · intro e he
    simp [inserted?, hmem e he]
  · intro e he
    exact h.no_range e (hmem e he).1
  · apply List.Pairwise.imp_of_mem _ ((h.deleted_last.filter _).filter _)
    intro a b ha hb hab
    exact hab ((hmem a ha).2.1.trans (hmem b hb).2.1.symm)

/-- The sweep keeps what stands for the original lines, in their order, and adds what edits insert. -/
theorem sweepFrom_extends {number : Nat} {lines : Document} (h : Separable edits number lines) :
    Extends (insertedTexts (edits.filter fun e => number ≤ e.line))
      (standingFrom edits number lines) (sweepFrom edits number lines) := by
  induction lines generalizing number with
  | nil =>
      have hperm : ((schedule edits).filter fun e => number ≤ e.line).Perm
          (edits.filter fun e => number ≤ e.line) := (schedule_perm edits).filter _
      have hadd : ∀ e ∈ (schedule edits).filter (fun e => number ≤ e.line), ∀ lines,
          Extends (insertedTexts [e]) lines (changeFrom number lines e) := by
        intro e he lines
        obtain ⟨he, hle⟩ := List.mem_filter.mp (hperm.mem_iff.mp he)
        apply changeFrom_extends _ (h.no_range e he)
        by_contra hr
        have hlt := h.inside e he (by simpa using hr)
        have hle := of_decide_eq_true hle
        rw [List.length_nil] at hlt
        omega
      exact (foldl_extends hadd []).of_perm (hperm.filterMap inserted?)
  | cons line rest ih =>
      have hadd : ∀ e ∈ (onLine edits number).filter (fun e => e.action.inserts), ∀ lines,
          Extends (insertedTexts [e]) lines (e.onward lines) := by
        intro e he lines
        obtain ⟨he, hi⟩ := List.mem_filter.mp he
        exact onward_extends (rewrites_of_inserts hi) (h.no_range e (mem_onLine.mp he).1) lines
      have hown := foldl_extends hadd
        (standing (onLine edits number) number line ++ sweepFrom edits (number + 1) rest)
      rw [insertedTexts_filter_inserts] at hown
      rw [sweepFrom_cons, foldl_onward_turn h, standingFrom]
      exact (((ih h.tail).append_left _).trans hown).of_perm (insertedTexts_perm edits number)

/-- A document after all edits holds what stands for its lines, and what the edits insert. -/
theorem sweep_extends {lines : Document} (h : Separable edits 1 lines) :
    Extends (insertedTexts edits) (standingFrom edits 1 lines) (sweep edits lines) := by
  have hextends := sweepFrom_extends h
  rwa [filter_one_le_line] at hextends

end Run

end TexMend.Edit
