import TexMend.Proofs.Repair.SharedLine

/-!
# Where the texts of a line go

A text that is inserted before a line belongs between the line above and the line itself, a text that is
inserted after it between the line and the one below. Edits that share a line leave it so, with two
exceptions: a text inserted before the line moves the line away from texts that are inserted after it
later, and behind a deleted line such texts slip past the next one.
-/

namespace TexMend.Edit

/-- Does the edit insert a text before its line? -/
def putsBefore (e : Edit) : Bool :=
  e.action = .insertBefore && e.newText.isSome

/-- Does the edit insert a text after its line? -/
def putsAfter (e : Edit) : Bool :=
  e.action = .insertAfter && e.newText.isSome

/-- No text is inserted after a line that was moved away by a text inserted before it, or deleted. -/
structure Undisturbed (edits : List Edit) : Prop where
  not_moved : edits.Pairwise fun a b => a.line = b.line → a.putsBefore = true → b.putsAfter = false
  not_deleted : ∀ a ∈ edits, ∀ b ∈ edits,
    a.line = b.line → a.action = .deleteLine → b.putsAfter = false

def textsBefore (edits : List Edit) : List Text :=
  (edits.filter putsBefore).filterMap newText

def textsAfter (edits : List Edit) : List Text :=
  (edits.filter putsAfter).filterMap newText

/-- The lines from `number` on, each between the texts inserted before and after it. Of several texts
for one place the later one stands higher. -/
def layoutFrom (edits : List Edit) : Nat → Document → Document
  | _, [] => []
  | number, line :: rest =>
    let own := onLine edits number
    (textsBefore own).reverse ++ standing own number line ++ (textsAfter own).reverse ++
      layoutFrom edits (number + 1) rest

/-- A document with every inserted text next to its line. -/
def layout (edits : List Edit) (lines : Document) : Document :=
  layoutFrom edits 1 lines

section Insertions

variable {edits : List Edit}

theorem textsAfter_eq_nil (h : ∀ e ∈ edits, e.putsAfter = false) : textsAfter edits = [] := by
  have hnone : edits.filter putsAfter = [] := by
    rw [List.filter_eq_nil_iff]
    intro e he
    simp [h e he]
  rw [textsAfter, hnone, List.filterMap_nil]

/-- An insertion has a text for before the line, or for after it, or none. -/
theorem inserts_cases {e : Edit} (h : e.action.inserts = true) :
    (∃ new, e.action = .insertBefore ∧ e.newText = some new) ∨
      (∃ new, e.action = .insertAfter ∧ e.newText = some new) ∨ e.newText = none := by
  cases hn : e.newText with
  | none => exact Or.inr (Or.inr rfl)
  | some new =>
      cases ha : e.action with
      | insertBefore => exact Or.inl ⟨new, rfl, rfl⟩
      | insertAfter => exact Or.inr (Or.inl ⟨new, rfl, rfl⟩)
      | replaceLine => simp [ha, EditAction.inserts] at h
      | deleteLine => simp [ha, EditAction.inserts] at h
      | replaceRange => simp [ha, EditAction.inserts] at h

theorem onward_of_no_text {e : Edit} (h : e.action.inserts = true) (hn : e.newText = none)
    (lines : Document) : e.onward lines = lines := by
  unfold onward
  cases ha : e.action <;> simp_all [EditAction.inserts]

/-- Without texts after the line, those before it pile up on top. -/
theorem foldl_onward_before (hinserts : ∀ e ∈ edits, e.action.inserts = true)
    (hafter : ∀ e ∈ edits, e.putsAfter = false) (lines : Document) :
    edits.foldl (fun lines e => e.onward lines) lines = (textsBefore edits).reverse ++ lines := by
  induction edits generalizing lines with
  | nil => rfl
  | cons e rest ih =>
      have ih := ih (fun e he => hinserts e (List.mem_cons_of_mem _ he))
        fun e he => hafter e (List.mem_cons_of_mem _ he)
      rw [List.foldl_cons, ih]
      rcases inserts_cases (hinserts e List.mem_cons_self) with
        ⟨new, ha, hn⟩ | ⟨new, ha, hn⟩ | hn
      · simp [onward, textsBefore, putsBefore, ha, hn]
      · have := hafter e List.mem_cons_self
        simp [putsAfter, ha, hn] at this
      · rw [onward_of_no_text (hinserts e List.mem_cons_self) hn]
        simp [textsBefore, putsBefore, hn]

/-- If every text after the line comes before those that move it away, each finds its place. -/
theorem foldl_onward_around (hinserts : ∀ e ∈ edits, e.action.inserts = true)
    (hmoved : edits.Pairwise fun a b => a.putsBefore = true → b.putsAfter = false) (line : Text)
    (rest : Document) :
    edits.foldl (fun lines e => e.onward lines) (line :: rest) =
      (textsBefore edits).reverse ++ line :: ((textsAfter edits).reverse ++ rest) := by
  induction edits generalizing rest with
  | nil => rfl
  | cons e more ih =>
      obtain ⟨hfirst, hmore⟩ := List.pairwise_cons.mp hmoved
      have hinserts' : ∀ e ∈ more, e.action.inserts = true :=
        fun e he => hinserts e (List.mem_cons_of_mem _ he)
      have ih := ih hinserts' hmore
      rw [List.foldl_cons]
      rcases inserts_cases (hinserts e List.mem_cons_self) with
        ⟨new, ha, hn⟩ | ⟨new, ha, hn⟩ | hn
      · have hafter : ∀ b ∈ more, b.putsAfter = false :=
          fun b hb => hfirst b hb (by simp [putsBefore, ha, hn])
        have hnone : textsAfter (e :: more) = [] := by
          apply textsAfter_eq_nil
          rintro b (_ | ⟨_, hb⟩)
          · simp [putsAfter, ha]
          · exact hafter b hb
        have hbefore : textsBefore (e :: more) = new :: textsBefore more := by
          simp [textsBefore, putsBefore, ha, hn]
        rw [foldl_onward_before hinserts' hafter, hnone, hbefore]
        simp [onward, ha, hn]
      · have hbefore : textsBefore (e :: more) = textsBefore more := by
          simp [textsBefore, putsBefore, ha]
        have hafter : textsAfter (e :: more) = new :: textsAfter more := by
          simp [textsAfter, putsAfter, ha, hn]
        have honward : e.onward (line :: rest) = line :: new :: rest := by
          simp [onward, ha, hn]
        rw [honward, ih, hbefore, hafter]
        simp
      · have hbefore : textsBefore (e :: more) = textsBefore more := by
          simp [textsBefore, putsBefore, hn]
        have hafter : textsAfter (e :: more) = textsAfter more := by
          simp [textsAfter, putsAfter, hn]
        rw [onward_of_no_text (hinserts e List.mem_cons_self) hn, ih, hbefore, hafter]

end Insertions

section Run

variable {edits : List Edit}

/-- Texts before and after a line come from insertions only. -/
theorem filter_filter_inserts {p : Edit → Bool} (h : ∀ e, p e = true → e.action.inserts = true)
    (edits : List Edit) : (edits.filter fun e => e.action.inserts).filter p = edits.filter p := by
  rw [List.filter_filter]
  apply List.filter_congr
  intro e _
  cases hp : p e with
  | false => rfl
  | true => simp [h e hp]

theorem inserts_of_putsBefore (e : Edit) (h : e.putsBefore = true) : e.action.inserts = true := by
  simp only [putsBefore, Bool.and_eq_true, decide_eq_true_eq] at h
  simp [h.1, EditAction.inserts]

theorem inserts_of_putsAfter (e : Edit) (h : e.putsAfter = true) : e.action.inserts = true := by
  simp only [putsAfter, Bool.and_eq_true, decide_eq_true_eq] at h
  simp [h.1, EditAction.inserts]

/-- Undisturbed edits leave the layout. -/
theorem sweepFrom_eq_layoutFrom {number : Nat} {lines : Document} (h : Separable edits number lines)
    (hin : ∀ e ∈ edits, e.line < number + lines.length) (hu : Undisturbed edits) :
    sweepFrom edits number lines = layoutFrom edits number lines := by
  induction lines generalizing number with
  | nil =>
      have hnone : (schedule edits).filter (fun e => number ≤ e.line) = [] := by
        rw [List.filter_eq_nil_iff]
        intro e he
        have hlt := hin e ((schedule_perm edits).mem_iff.mp he)
        rw [List.length_nil] at hlt
        rw [decide_eq_true_eq]
        omega
      rw [sweepFrom, hnone]
      rfl
  | cons line rest ih =>
      have hin' : ∀ e ∈ edits, e.line < number + 1 + rest.length := by
        intro e he
        have hlt := hin e he
        rw [List.length_cons] at hlt
        omega
      have hinserts : ∀ e ∈ (onLine edits number).filter (fun e => e.action.inserts),
          e.action.inserts = true := fun e he => (List.mem_filter.mp he).2
      rw [sweepFrom_cons, foldl_onward_turn h, ih h.tail hin', layoutFrom]
      have hbefore : textsBefore ((onLine edits number).filter fun e => e.action.inserts) =
          textsBefore (onLine edits number) := by
        rw [textsBefore, filter_filter_inserts inserts_of_putsBefore, textsBefore]
      have hafter : textsAfter ((onLine edits number).filter fun e => e.action.inserts) =
          textsAfter (onLine edits number) := by
        rw [textsAfter, filter_filter_inserts inserts_of_putsAfter, textsAfter]
      by_cases hd : ∃ e ∈ onLine edits number, e.action = .deleteLine
      · obtain ⟨e, he, hd⟩ := hd
        obtain ⟨he, hline⟩ := mem_onLine.mp he
        have hnot : ∀ b ∈ onLine edits number, b.putsAfter = false := by
          intro b hb
          obtain ⟨hb, hline'⟩ := mem_onLine.mp hb
          exact hu.not_deleted e he b hb (hline.trans hline'.symm) hd
        rw [foldl_onward_before hinserts fun b hb => hnot b (List.mem_filter.mp hb).1,
          textsAfter_eq_nil hnot, hbefore]
        simp
      · have hkept : ∀ e ∈ onLine edits number, e.action ≠ .deleteLine :=
          fun e he hd' => hd ⟨e, he, hd'⟩
        obtain ⟨text, htext⟩ := exists_standing_eq_singleton hkept number line
        have hmoved : ((onLine edits number).filter fun e => e.action.inserts).Pairwise fun a b =>
            a.putsBefore = true → b.putsAfter = false := by
          apply List.Pairwise.imp_of_mem _ ((hu.not_moved.filter _).filter _)
          intro a b ha hb hab
          have ha := (mem_onLine.mp (List.mem_filter.mp ha).1).2
          have hb := (mem_onLine.mp (List.mem_filter.mp hb).1).2
          exact hab (ha.trans hb.symm)
        rw [htext, List.singleton_append, foldl_onward_around hinserts hmoved, hbefore, hafter]
        simp

/-- Insertions anywhere and at most one replacement or deletion for each line, in any order: no text is
lost, and the kept and replaced lines keep their order. If the edits are undisturbed, every text stands
between its line and the next one on its side. -/
theorem applyAll_eq_layout (lines : Document) (edits : List Edit)
    (hin : ∀ e ∈ edits, e.line ≤ lines.length) (hrange : ∀ e ∈ edits, e.action ≠ .replaceRange)
    (honce : edits.Pairwise fun a b => a.line = b.line → a.rewrites = true → b.rewrites = false) :
    ∃ out, Extends (insertedTexts edits) (standingFrom edits 1 lines) out ∧
      (Undisturbed edits → out = layout edits lines) ∧
      (lines.length ≤ positionLimit → applyAll edits lines = .ok out) ∧
      applyAll edits lines = if edits.any overflows then .error .positionTooLarge else .ok out := by
  have hinside : ∀ e ∈ edits, e.line < 1 + lines.length := by
    intro e he
    have hle := hin e he
    omega
  have hseparable : Separable edits 1 lines := by
    constructor
    · exact hrange
    · intro e he _
      exact hinside e he
    · apply honce.imp
      intro a b hab hline hd
      exact hab hline (by simp [rewrites, hd])
  refine ⟨sweep edits lines, sweep_extends hseparable, ?_, ?_, applyAll_eq_sweep edits lines⟩
  · intro hu
    exact sweepFrom_eq_layoutFrom hseparable hinside hu
  · intro hfits
    rw [applyAll_eq_sweep, any_overflows_eq_false hfits hin]
    rfl

/-- Texts before and after a line that is replaced, with the one after it given first. -/
def sampleBefore : Edit :=
  { action := .insertBefore, line := 1, newText := some "w".toList, line_pos := Nat.zero_lt_one
    range_ok := nofun }

def sampleReplacement : Edit :=
  { action := .replaceLine, line := 1, newText := some "A".toList, line_pos := Nat.zero_lt_one
    range_ok := nofun }

/-- The texts surround the replaced line, and the deleted one disturbs none of them. -/
theorem applyAll_eq_layout_replaced_line :
    applyAll [sampleInsertion, sampleBefore, sampleReplacement, sampleDeletion] ["a", "b", "c"] =
      .ok ["w", "A", "x", "c"] := by
  obtain ⟨out, _, hlayout, hout, _⟩ := applyAll_eq_layout ["a", "b", "c"]
    [sampleInsertion, sampleBefore, sampleReplacement, sampleDeletion] (by decide) (by decide) (by decide)
  have hu : Undisturbed [sampleInsertion, sampleBefore, sampleReplacement, sampleDeletion] :=
    ⟨by decide, by decide⟩
  rw [hout (by decide), hlayout hu]
  decide

/-- A text for after the line that the deletion takes away. -/
def sampleFollower : Edit :=
  { action := .insertAfter, line := 2, newText := some "z".toList, line_pos := Nat.zero_lt_two
    range_ok := nofun }

/-- A text inserted before a line separates it from the one inserted after it, and behind a deleted line a
text lands after the next one. -/
theorem applyAll_ne_layout_disturbed :
    applyAll [sampleBefore, sampleInsertion] ["a", "b"] = .ok ["w", "x", "a", "b"] ∧
      layout [sampleBefore, sampleInsertion] ["a", "b"] = ["w", "a", "x", "b"] ∧
      applyAll [sampleDeletion, sampleFollower] ["a", "b", "c"] = .ok ["a", "c", "z"] ∧
      layout [sampleDeletion, sampleFollower] ["a", "b", "c"] = ["a", "z", "c"] := by
  refine ⟨?_, by decide, ?_, by decide⟩
  · rw [applyAll, schedule_of_sorted (by decide)]
    rfl
  · rw [applyAll, schedule_of_sorted (by decide)]
    rfl

end Run

end TexMend.Edit
