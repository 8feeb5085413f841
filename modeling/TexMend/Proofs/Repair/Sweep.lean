import Mathlib.Data.List.Basic
import TexMend.Proofs.Repair.Patch

/-!
# Edits line by line

The schedule works from the last addressed line to the first, and no edit looks above its own line. So
what stands from a line on is settled by the edits of that line alone, acting on what the edits below it
have left. This holds of every list of edits, also of those that share lines or point past the end.
-/

namespace TexMend.Edit

/-- What an edit makes of the lines from the addressed one on. -/
def onward (e : Edit) (lines : Document) : Document :=
  match e.action, e.newText with
  | .replaceLine, some new => lines.set 0 new
  | .insertBefore, some new => new :: lines
  | .insertAfter, some new => lines.take 1 ++ new :: lines.drop 1
  | .deleteLine, _ => lines.drop 1
  | .replaceRange, some new => new :: lines.drop (e.lastLine + 1 - e.line)
  | _, none => lines

/-- What an edit makes of the lines from `number` on, if it addresses none before them. -/
def changeFrom (number : Nat) (lines : Document) (e : Edit) : Document :=
  lines.take (e.line - number) ++ e.onward (lines.drop (e.line - number))

def onLine (edits : List Edit) (number : Nat) : List Edit :=
  edits.filter fun e => e.line = number

/-- Edits of one line in the order in which they are applied: insertions come last. -/
def turn (edits : List Edit) : List Edit :=
  edits.filter (fun e => !e.action.inserts) ++ edits.filter fun e => e.action.inserts

/-- The lines from `number` on after all edits that address one of them. -/
def sweepFrom (edits : List Edit) (number : Nat) (lines : Document) : Document :=
  ((schedule edits).filter fun e => number ≤ e.line).foldl (changeFrom number) lines

/-- A document after all edits. -/
def sweep (edits : List Edit) (lines : Document) : Document :=
  sweepFrom edits 1 lines

section OneEdit

variable {e : Edit}

theorem changeFrom_of_line_eq {number : Nat} (h : e.line = number) (lines : Document) :
    changeFrom number lines e = e.onward lines := by
  simp [changeFrom, h]

/-- A line above the addressed one is kept. -/
theorem changeFrom_cons {number : Nat} (h : number < e.line) (line : Text) (rest : Document) :
    changeFrom number (line :: rest) e = line :: changeFrom (number + 1) rest e := by
  have hsub : e.line - number = e.line - (number + 1) + 1 := by omega
  simp [changeFrom, hsub]

/-- One edit changes the lines from the addressed one on. -/
theorem apply_eq_changeFrom (h : e.overflows = false) (lines : Document) :
    e.apply lines = .ok (changeFrom 1 lines e) := by
  have hpos := e.line_pos
  have hnext : e.line - 1 + 1 = e.line := by omega
  cases hn : e.newText with
  | none =>
      cases ha : e.action with
      | deleteLine =>
          simp [apply, changeFrom, onward, ha, List.eraseIdx_eq_take_drop_succ, hnext]
      | replaceLine => simp [apply, changeFrom, onward, ha, hn]
      | insertBefore => simp [apply, changeFrom, onward, ha, hn]
      | insertAfter => simp [apply, changeFrom, onward, ha, hn]
      | replaceRange => simp [apply, changeFrom, onward, ha, hn]
  | some new =>
      cases ha : e.action with
      | replaceLine =>
          have hset : lines.set (e.line - 1) new =
              lines.take (e.line - 1) ++ (lines.drop (e.line - 1)).set 0 new := by
            rw [← List.take_append_drop (e.line - 1) (lines.set (e.line - 1) new)]
            simp [List.take_set_of_le, List.drop_set]
          simp [apply, changeFrom, onward, ha, hn, hset]
      | insertBefore =>
          have hlimit : e.line - 1 ≤ positionLimit := by simpa [overflows, ha, hn] using h
          simp [apply, changeFrom, onward, ha, hn, insertAt, hlimit]
      | insertAfter =>
          have hlimit : e.line ≤ positionLimit := by simpa [overflows, ha, hn] using h
          have htake : lines.take e.line =
              lines.take (e.line - 1) ++ (lines.drop (e.line - 1)).take 1 := by
            rw [← List.take_add, hnext]
          simp [apply, changeFrom, onward, ha, hn, insertAt, hlimit, htake, hnext]
      | deleteLine =>
          simp [apply, changeFrom, onward, ha, List.eraseIdx_eq_take_drop_succ, hnext]
      | replaceRange =>
          obtain ⟨stop, hs, hle⟩ := e.range_ok ha
          have hlast : e.lastLine = stop.toNat := by simp [lastLine, ha, hs]
          have hdrop : e.line - 1 + (e.lastLine + 1 - e.line) = stop.toNat := by omega
          simp [apply, changeFrom, onward, ha, hn, hs, hdrop]

end OneEdit

section Run

variable {edits : List Edit}

/-- A run of edits fails exactly when one of them overflows, wherever it stands. -/
theorem foldlM_apply_eq (edits : List Edit) (lines : Document) :
    edits.foldlM (fun lines e => e.apply lines) lines =
      if edits.any overflows then .error .positionTooLarge
      else .ok (edits.foldl (changeFrom 1) lines) := by
  induction edits generalizing lines with
  | nil => rfl
  | cons e rest ih =>
      rw [List.foldlM_cons]
      cases ho : e.overflows with
      | true => simp [apply_of_overflows ho, ho, bind, Except.bind]
      | false =>
          rw [apply_eq_changeFrom ho, List.any_cons, ho, Bool.false_or, List.foldl_cons, ← ih]
          rfl

/-- Edits that are in order already are applied as they stand. -/
theorem schedule_of_sorted (h : edits.Pairwise fun a b => precedes a b = true) :
    schedule edits = edits :=
  List.mergeSort_of_pairwise h

/-- Lines are numbered from one. -/
theorem filter_one_le_line (edits : List Edit) : edits.filter (fun e => 1 ≤ e.line) = edits := by
  rw [List.filter_eq_self]
  intro e _
  exact decide_eq_true e.line_pos

/-- Applying edits together is the sweep, unless one of them overflows. -/
theorem applyAll_eq_sweep (edits : List Edit) (lines : Document) :
    applyAll edits lines =
      if edits.any overflows then .error .positionTooLarge else .ok (sweep edits lines) := by
  rw [applyAll, foldlM_apply_eq, (schedule_perm edits).any_eq, sweep, sweepFrom, filter_one_le_line]

/-- Sorting keeps the order of items that rank equal. -/
theorem filter_mergeSort {α : Type} {le : α → α → Bool}
    (trans : ∀ a b c, le a b = true → le b c = true → le a c = true)
    (total : ∀ a b, (le a b || le b a) = true) {p : α → Bool}
    (h : ∀ a b, p a = true → p b = true → le a b = true) (items : List α) :
    (items.mergeSort le).filter p = items.filter p := by
  have hrank : (items.filter p).Pairwise fun a b => le a b = true := by
    apply List.pairwise_of_forall_mem_list
    intro a ha b hb
    exact h a b (List.mem_filter.mp ha).2 (List.mem_filter.mp hb).2
  have hsub : (items.filter p).Sublist (items.mergeSort le) :=
    List.sublist_mergeSort trans total hrank List.filter_sublist
  have hsub' : (items.filter p).Sublist ((items.mergeSort le).filter p) := by
    simpa using hsub.filter p
  exact (hsub'.eq_of_length ((List.mergeSort_perm items le).filter p).length_eq.symm).symm

/-- Edits of equal rank keep their order. -/
theorem filter_schedule {p : Edit → Bool}
    (h : ∀ a b : Edit, p a = true → p b = true → precedes a b = true) :
    (schedule edits).filter p = edits.filter p :=
  filter_mergeSort precedes_trans precedes_total h edits

/-- Where the items with a property come before those without, the list falls into two parts. -/
theorem filter_append_filter_not {α : Type} {p : α → Bool} {l : List α}
    (h : l.Pairwise fun a b => p b = true → p a = true) :
    l.filter p ++ l.filter (fun a => !p a) = l := by
  induction l with
  | nil => rfl
  | cons first rest ih =>
      obtain ⟨hfirst, hrest⟩ := List.pairwise_cons.mp h
      cases hp : p first with
      | true => simp [hp, ih hrest]
      | false =>
          have hnone : rest.filter p = [] := by
            rw [List.filter_eq_nil_iff]
            intro a ha hpa
            have := hfirst a ha hpa
            simp [hp] at this
          have hall : rest.filter (fun a => !p a) = rest := by simpa [hnone] using ih hrest
          simp [hp, hnone, hall]

@[simp] theorem mem_onLine {number : Nat} {e : Edit} :
    e ∈ onLine edits number ↔ e ∈ edits ∧ e.line = number := by
  simp [onLine]

/-- The edits of one line are applied in turn. -/
theorem onLine_schedule (edits : List Edit) (number : Nat) :
    onLine (schedule edits) number = turn (onLine edits number) := by
  have hsorted : (onLine (schedule edits) number).Pairwise fun a b =>
      (!b.action.inserts) = true → (!a.action.inserts) = true := by
    apply List.Pairwise.imp_of_mem _ ((schedule_sorted edits).filter _)
    intro a b ha hb hab hi
    have ha := (mem_onLine.mp ha).2
    have hb := (mem_onLine.mp hb).2
    simp only [precedes, Bool.or_eq_true, Bool.and_eq_true, decide_eq_true_eq] at hab
    rcases hab with hlt | ⟨_, ha' | hb'⟩
    · omega
    · exact ha'
    · simp [hb'] at hi
  -- Edits of one line that are alike in this keep their order.
  have hkind {p : Edit → Bool} (hp : ∀ a b, p a = true → p b = true → a.action.inserts = b.action.inserts) :
      (onLine (schedule edits) number).filter p = (onLine edits number).filter p := by
    rw [onLine, onLine, List.filter_filter, List.filter_filter]
    apply filter_schedule
    intro a b ha hb
    simp only [Bool.and_eq_true, decide_eq_true_eq] at ha hb
    simp [precedes, ha.2, hb.2, hp a b ha.1 hb.1]
  have hrewriting : (onLine (schedule edits) number).filter (fun e => !e.action.inserts) =
      (onLine edits number).filter fun e => !e.action.inserts := by
    apply hkind
    intro a b ha hb
    simpa using ha.trans hb.symm
  have hinserting : (onLine (schedule edits) number).filter (fun e => e.action.inserts) =
      (onLine edits number).filter fun e => e.action.inserts := by
    apply hkind
    intro a b ha hb
    exact ha.trans hb.symm
  rw [← filter_append_filter_not hsorted, turn, ← hrewriting, ← hinserting]
  simp only [Bool.not_not]

/-- Of the edits from a line on, those below it. -/
theorem filter_below (edits : List Edit) (number : Nat) :
    (edits.filter fun e => number ≤ e.line).filter (fun e => number + 1 ≤ e.line) =
      edits.filter fun e => number + 1 ≤ e.line := by
  rw [List.filter_filter]
  apply List.filter_congr
  intro e _
  rw [← Bool.decide_and, decide_eq_decide]
  omega

/-- Of the edits from a line on, those that are not below it. -/
theorem filter_not_below (edits : List Edit) (number : Nat) :
    (edits.filter fun e => number ≤ e.line).filter (fun e => !decide (number + 1 ≤ e.line)) =
      onLine edits number := by
  rw [List.filter_filter, onLine]
  apply List.filter_congr
  intro e _
  rw [← decide_not, ← Bool.decide_and, decide_eq_decide]
  omega

/-- Edits below a line keep it. -/
theorem foldl_changeFrom_cons {number : Nat} (h : ∀ e ∈ edits, number < e.line) (line : Text)
    (rest : Document) :
    edits.foldl (changeFrom number) (line :: rest) =
      line :: edits.foldl (changeFrom (number + 1)) rest := by
  induction edits generalizing rest with
  | nil => rfl
  | cons e more ih =>
      have hmore : ∀ e ∈ more, number < e.line := fun e he => h e (List.mem_cons_of_mem _ he)
      rw [List.foldl_cons, changeFrom_cons (h e List.mem_cons_self), ih hmore, List.foldl_cons]

/-- The lines from one on: first what stands below it, then its own edits in turn. -/
theorem sweepFrom_cons (edits : List Edit) (number : Nat) (line : Text) (rest : Document) :
    sweepFrom edits number (line :: rest) =
      (turn (onLine edits number)).foldl (fun lines e => e.onward lines)
        (line :: sweepFrom edits (number + 1) rest) := by
  have hsorted : ((schedule edits).filter fun e => number ≤ e.line).Pairwise fun a b =>
      decide (number + 1 ≤ b.line) = true → decide (number + 1 ≤ a.line) = true := by
    apply List.Pairwise.imp _ ((schedule_sorted edits).filter _)
    intro a b hab hb
    simp only [precedes, Bool.or_eq_true, Bool.and_eq_true, decide_eq_true_eq, beq_iff_eq] at hab hb ⊢
    omega
  have hbelow : ∀ e ∈ (schedule edits).filter (fun e => number + 1 ≤ e.line), number < e.line := by
    intro e he
    exact Nat.lt_of_succ_le (of_decide_eq_true (List.mem_filter.mp he).2)
  rw [sweepFrom, ← filter_append_filter_not hsorted, filter_below, filter_not_below, onLine_schedule,
    List.foldl_append, foldl_changeFrom_cons hbelow, sweepFrom, ← onLine_schedule]
  apply List.foldl_ext
  intro lines e he
  exact changeFrom_of_line_eq (mem_onLine.mp he).2 lines

end Run

end TexMend.Edit
