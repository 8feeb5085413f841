import TexMend.Proofs.Repair.SharedLine

/-!
# What stands for lines that are not deleted

Where no edit deletes, exactly one line stands for each: the text of the last edit that replaces it, or
the line itself. So no line is lost, and a line that was not there before has an edit of its own.
-/

namespace TexMend.Edit

/-- Does the edit replace its line by this text? -/
def replacesBy (new : Text) (e : Edit) : Bool :=
  e.rewrites && e.newText = some new

@[simp] theorem replacesBy_eq_true_iff {new : Text} {e : Edit} :
    replacesBy new e = true ↔ e.rewrites = true ∧ e.newText = some new := by
  simp [replacesBy]

section OneLine

variable {edits : List Edit}

/-- The line itself stands, or the text of an edit that replaces it. -/
theorem standing_cases (hkept : ∀ e ∈ edits, e.action ≠ .deleteLine) (number : Nat) (line : Text) :
    standing edits number line = [line] ∨
      ∃ e ∈ edits, ∃ new, e.replacesBy new = true ∧ standing edits number line = [new] := by
  unfold standing
  split
  · next e he =>
      obtain ⟨hmem, hrewrites⟩ := List.mem_filter.mp (List.mem_of_getLast? he)
      obtain ⟨new, hnew, hline⟩ := exists_rewriteLine_eq hrewrites (hkept e hmem)
      exact Or.inr ⟨e, hmem, new, replacesBy_eq_true_iff.mpr ⟨hrewrites, hnew⟩, hline number line⟩
  · exact Or.inl rfl

/-- The last text that is put for the line stands. -/
theorem standing_of_last {before after : List Edit} {e : Edit} {new : Text}
    (hkept : ∀ t ∈ before ++ e :: after, t.action ≠ .deleteLine) (h : e.replacesBy new = true)
    (hlast : ∀ t ∈ after, t.rewrites = true → t.newText = some new) (number : Nat) (line : Text) :
    standing (before ++ e :: after) number line = [new] := by
  obtain ⟨hrewrites, hnew⟩ := replacesBy_eq_true_iff.mp h
  have hsplit : (before ++ e :: after).filter rewrites =
      before.filter rewrites ++ e :: after.filter rewrites := by
    rw [List.filter_append, List.filter_cons_of_pos hrewrites]
  obtain ⟨t, ht⟩ : ∃ t, (e :: after.filter rewrites).getLast? = some t := ⟨_, List.getLast?_cons⟩
  have hstands : standing (before ++ e :: after) number line = t.rewriteLine number line := by
    rw [standing, hsplit, List.getLast?_append, ht]
    rfl
  -- the last edit that rewrites the line is `e` or a later one, which has the same text
  have htext : t ∈ before ++ e :: after ∧ t.rewrites = true ∧ t.newText = some new := by
    rcases List.mem_cons.mp (List.mem_of_getLast? ht) with rfl | hafter
    · exact ⟨by simp, hrewrites, hnew⟩
    · obtain ⟨hmem, hr⟩ := List.mem_filter.mp hafter
      exact ⟨by simp [hmem], hr, hlast t hmem hr⟩
  obtain ⟨new', hnew', hline⟩ := exists_rewriteLine_eq htext.2.1 (hkept t htext.1)
  rw [hstands, hline, Option.some.inj (hnew'.symm.trans htext.2.2)]

theorem count_standing_le (hkept : ∀ e ∈ edits, e.action ≠ .deleteLine) (text : Text) (number : Nat)
    (line : Text) :
    (standing edits number line).count text ≤ [line].count text + edits.countP (replacesBy text) := by
  rcases standing_cases hkept number line with hline | ⟨e, he, new, hputs, hnew⟩
  · rw [hline]
    exact Nat.le_add_right _ _
  · rw [hnew]
    by_cases ht : new = text
    · subst ht
      have hpos : 0 < edits.countP (replacesBy new) := List.countP_pos_iff.mpr ⟨e, he, hputs⟩
      rw [List.count_singleton_self]
      omega
    · rw [List.count_eq_zero_of_not_mem (by simpa using Ne.symm ht)]
      exact Nat.zero_le _

end OneLine

section AllLines

variable {edits : List Edit}

/-- Edits of one line delete nothing if none does. -/
theorem onLine_kept (hkept : ∀ e ∈ edits, e.action ≠ .deleteLine) (number : Nat) :
    ∀ e ∈ onLine edits number, e.action ≠ .deleteLine :=
  fun e he => hkept e (mem_onLine.mp he).1

theorem length_standingFrom (hkept : ∀ e ∈ edits, e.action ≠ .deleteLine) (number : Nat)
    (lines : Document) : (standingFrom edits number lines).length = lines.length := by
  induction lines generalizing number with
  | nil => rfl
  | cons line rest ih =>
      obtain ⟨text, htext⟩ := exists_standing_eq_singleton (onLine_kept hkept number) number line
      rw [standingFrom, htext, List.singleton_append, List.length_cons, ih, List.length_cons]

/-- What stands was there before, or an edit puts it. -/
theorem mem_standingFrom (hkept : ∀ e ∈ edits, e.action ≠ .deleteLine) {number : Nat}
    {lines : Document} {text : Text} (h : text ∈ standingFrom edits number lines) :
    text ∈ lines ∨ ∃ e ∈ edits, e.replacesBy text = true := by
  induction lines generalizing number with
  | nil => cases h
  | cons line rest ih =>
      rcases List.mem_append.mp h with hfirst | hrest
      · rcases standing_cases (onLine_kept hkept number) number line with hline | ⟨e, he, new, hputs, hnew⟩
        · rw [hline, List.mem_singleton] at hfirst
          exact Or.inl (hfirst ▸ List.mem_cons_self)
        · rw [hnew, List.mem_singleton] at hfirst
          exact Or.inr ⟨e, (mem_onLine.mp he).1, hfirst ▸ hputs⟩
      · exact (ih hrest).imp_left (List.mem_cons_of_mem line)

/-- A text that is put for an existing line stands, unless a later edit puts another one. -/
theorem mem_standingFrom_of_last {before after : List Edit} {e : Edit} {new : Text}
    (hkept : ∀ t ∈ before ++ e :: after, t.action ≠ .deleteLine) (h : e.replacesBy new = true)
    (hlast : ∀ t ∈ after, t.line = e.line → t.rewrites = true → t.newText = some new)
    {number : Nat} {lines : Document} (hle : number ≤ e.line) (hlt : e.line < number + lines.length) :
    new ∈ standingFrom (before ++ e :: after) number lines := by
  induction lines generalizing number with
  | nil =>
      rw [List.length_nil] at hlt
      omega
  | cons line rest ih =>
      rw [List.length_cons] at hlt
      by_cases hn : e.line = number
      · have hown : onLine (before ++ e :: after) number =
            onLine before number ++ e :: onLine after number := by
          simp [onLine, hn]
        have hkept' := onLine_kept hkept number
        rw [hown] at hkept'
        have hstands := standing_of_last hkept' h
          (fun t ht => hlast t (mem_onLine.mp ht).1 ((mem_onLine.mp ht).2.trans hn.symm)) number line
        rw [standingFrom, hown, hstands]
        exact List.mem_cons_self
      · exact List.mem_append_right _ (ih (by omega) (by omega))

/-- The run: each line that stands more often than before has edits that put it. -/
theorem count_standingFrom_le (hkept : ∀ e ∈ edits, e.action ≠ .deleteLine) (text : Text)
    (number : Nat) (lines : Document) :
    (standingFrom edits number lines).count text ≤
      lines.count text + (edits.filter fun e => number ≤ e.line).countP (replacesBy text) := by
  induction lines generalizing number with
  | nil => exact Nat.zero_le _
  | cons line rest ih =>
      have hfirst := count_standing_le (onLine_kept hkept number) text number line
      have hrest := ih (number + 1)
      have hparts := (List.filter_append_perm (fun e : Edit => decide (number + 1 ≤ e.line))
        (edits.filter fun e => number ≤ e.line)).countP_eq (replacesBy text)
      rw [filter_below, filter_not_below, List.countP_append] at hparts
      have hlines : (line :: rest).count text = [line].count text + rest.count text := by
        rw [← List.count_append, List.singleton_append]
      rw [standingFrom, List.count_append]
      omega

end AllLines

end TexMend.Edit
