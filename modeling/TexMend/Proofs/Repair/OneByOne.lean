import TexMend.Repair.Rule
import TexMend.Proofs.Repair.Surroundings
import TexMend.Proofs.Text.Lines

/-!
# Suggestions one by one

Suggestions that are accepted together work on the lines of one source. Accepted one at a time, each gets the text that
the one before it has left, which is cut into lines anew. Both ways agree from the bottom of the document up, because
no step but a deletion can leave a text whose lines are not those that the step left: a deletion may leave no line at
all, which as a text is one empty line.
-/

namespace TexMend.Suggestion

open Edit

/-- Accept suggestions one at a time: each is applied to the text that those before it have left. -/
def acceptEach (order : List Suggestion) (source : Text) : Except ApplyError Text :=
  order.foldlM (fun text s => applyAll [s] text) source

/-- Do two suggestions rank equal? -/
def ties (s t : Suggestion) : Bool :=
  s.edit.line = t.edit.line && s.edit.action.inserts = t.edit.action.inserts

/-- May `s` stand before `t` in an order? Lines descend, and on one line insertions come last. -/
def Leads (s t : Suggestion) : Prop :=
  t.edit.line ≤ s.edit.line ∧
    (s.edit.line = t.edit.line → s.edit.action.inserts = true → t.edit.action.inserts = true)

/-- An order from the bottom of the document up, in which suggestions that rank equal stand as they are listed. -/
structure BottomUp (listed order : List Suggestion) : Prop where
  perm : order.Perm listed
  descends : order.Pairwise Leads
  keeps_ties : ∀ s, order.filter (ties s) = listed.filter (ties s)

section Order

variable {s t : Suggestion} {listed order other : List Suggestion}

@[simp] theorem ties_eq_true_iff : ties s t = true ↔
    s.edit.line = t.edit.line ∧ s.edit.action.inserts = t.edit.action.inserts := by
  simp [ties]

theorem Leads.antisymm (h : Leads s t) (h' : Leads t s) : ties s t = true := by
  have hline : s.edit.line = t.edit.line := Nat.le_antisymm h'.1 h.1
  rw [ties_eq_true_iff]
  exact ⟨hline, Bool.eq_iff_iff.mpr ⟨h.2 hline, h'.2 hline.symm⟩⟩

theorem precedes_eq_true_iff_leads : precedes s.edit t.edit = true ↔ Leads s t := by
  unfold precedes Leads
  cases s.edit.action.inserts <;> cases t.edit.action.inserts <;> simp <;> omega

/-- Where lines descend, the order of those that rank equal settles the whole order. -/
theorem eq_of_descends (h : order.Pairwise Leads) (h' : other.Pairwise Leads)
    (hties : ∀ s, order.filter (ties s) = other.filter (ties s)) : order = other := by
  induction order generalizing other with
  | nil =>
      cases other with
      | nil => rfl
      | cons t more =>
          have hnil := hties t
          simp at hnil
  | cons s rest ih =>
      cases other with
      | nil =>
          have hnil := hties s
          simp at hnil
      | cons t more =>
          obtain ⟨hfirst, hrest⟩ := List.pairwise_cons.mp h
          obtain ⟨hfirst', hmore⟩ := List.pairwise_cons.mp h'
          have hmem (u : Suggestion) : u ∈ s :: rest ↔ u ∈ t :: more := by
            have hu : u ∈ (s :: rest).filter (ties u) ↔ u ∈ (t :: more).filter (ties u) := by rw [hties u]
            simpa only [List.mem_filter, ties_eq_true_iff, and_self, and_true] using hu
          -- each of the two heads leads the other one, so they rank equal, and the first of their rank is the same
          have hhead : s = t := by
            rcases List.mem_cons.mp ((hmem s).mp List.mem_cons_self) with heq | hs
            · exact heq
            rcases List.mem_cons.mp ((hmem t).mpr List.mem_cons_self) with heq | ht
            · exact heq.symm
            have htie : ties s t = true := (hfirst t ht).antisymm (hfirst' s hs)
            have hrank := hties s
            rw [List.filter_cons_of_pos (by simp), List.filter_cons_of_pos htie] at hrank
            exact (List.cons.inj hrank).1
          subst hhead
          rw [ih hrest hmore]
          intro u
          have hu := hties u
          cases htie : ties u s with
          | true =>
              rw [List.filter_cons_of_pos htie, List.filter_cons_of_pos htie] at hu
              exact (List.cons.inj hu).2
          | false =>
              rwa [List.filter_cons_of_neg (by simp [htie]), List.filter_cons_of_neg (by simp [htie])] at hu

theorem bottomUp_mergeSort (listed : List Suggestion) :
    BottomUp listed (listed.mergeSort fun s t => precedes s.edit t.edit) where
  perm := List.mergeSort_perm _ _
  descends := by
    have hsorted : (listed.mergeSort fun s t => precedes s.edit t.edit).Pairwise fun s t =>
        precedes s.edit t.edit = true :=
      List.pairwise_mergeSort (fun s t u => precedes_trans s.edit t.edit u.edit)
        (fun s t => precedes_total s.edit t.edit) listed
    exact hsorted.imp precedes_eq_true_iff_leads.mp
  keeps_ties s := by
    apply filter_mergeSort (fun s t u => precedes_trans s.edit t.edit u.edit)
      fun s t => precedes_total s.edit t.edit
    intro a b ha hb
    rw [ties_eq_true_iff] at ha hb
    simp [precedes, ← ha.1, ← hb.1, ← ha.2, ← hb.2]

theorem BottomUp.unique (h : BottomUp listed order) (h' : BottomUp listed other) : order = other :=
  eq_of_descends h.descends h'.descends fun s => (h.keeps_ties s).trans (h'.keeps_ties s).symm

/-- The order in which suggestions are applied together is the one from the bottom up. -/
theorem BottomUp.map_edit (h : BottomUp listed order) :
    order.map Suggestion.edit = schedule (listed.map Suggestion.edit) := by
  rw [h.unique (bottomUp_mergeSort listed), schedule]
  exact List.map_mergeSort fun _ _ _ _ => rfl

end Order

section Run

variable {order : List Suggestion} {lines : Document}

theorem applyAll_singleton (s : Suggestion) (source : Text) :
    applyAll [s] source = (s.edit.apply (Text.splitLines source)).map Text.joinLines := by
  have hone : schedule [s.edit] = [s.edit] := schedule_of_sorted (List.pairwise_singleton _ _)
  rw [applyAll, List.map_singleton, Edit.applyAll, hone, List.foldlM_cons]
  cases s.edit.apply (Text.splitLines source) <;> rfl

/-- Cutting each text anew does no harm, as long as no line is deleted and no newline comes in. -/
theorem acceptEach_joinLines (hkept : ∀ s ∈ order, s.edit.action ≠ .deleteLine)
    (hplain : ∀ s ∈ order, ∀ new, s.edit.newText = some new → '\n' ∉ new)
    (hne : lines ≠ []) (hlines : ∀ line ∈ lines, '\n' ∉ line) :
    acceptEach order (Text.joinLines lines) =
      ((order.map Suggestion.edit).foldlM (fun lines (e : Edit) => e.apply lines) lines).map Text.joinLines := by
  induction order generalizing lines with
  | nil => rfl
  | cons s rest ih =>
      rw [acceptEach, List.foldlM_cons, applyAll_singleton, Text.splitLines_joinLines hne hlines, List.map_cons,
        List.foldlM_cons]
      cases happly : s.edit.apply lines with
      | error e => rfl
      | ok next =>
          apply ih (fun t ht => hkept t (List.mem_cons_of_mem s ht)) fun t ht => hplain t (List.mem_cons_of_mem s ht)
          · exact ne_nil_of_apply happly (hkept s List.mem_cons_self) hne
          · intro line hline
            rcases mem_of_apply happly hline with hold | hnew
            · exact hlines line hold
            · exact hplain s List.mem_cons_self line hnew

/-- Suggestions that delete no line and bring in no newline have one order from the bottom up, and to accept them one by
one in this order is to accept them all at once. If no insertion is beyond the greatest position, both give a text. -/
theorem applyAll_eq_acceptEach (suggestions : List Suggestion) (source : Text)
    (hkept : ∀ s ∈ suggestions, s.edit.action ≠ .deleteLine)
    (hplain : ∀ s ∈ suggestions, ∀ new, s.edit.newText = some new → '\n' ∉ new) :
    (∃! order, BottomUp suggestions order) ∧
    (∀ order, BottomUp suggestions order → acceptEach order source = applyAll suggestions source) ∧
    ((∀ s ∈ suggestions, s.edit.overflows = false) → ∃ text, applyAll suggestions source = .ok text) := by
  refine ⟨⟨_, bottomUp_mergeSort suggestions, fun other h => h.unique (bottomUp_mergeSort suggestions)⟩, ?_, ?_⟩
  · intro order h
    have hmem {s : Suggestion} : s ∈ order ↔ s ∈ suggestions := h.perm.mem_iff
    have hrun := acceptEach_joinLines (fun s hs => hkept s (hmem.mp hs)) (fun s hs => hplain s (hmem.mp hs))
      (Text.splitLines_ne_nil source) fun line => Text.newline_not_mem_of_mem_splitLines
    rw [Text.joinLines_splitLines, h.map_edit] at hrun
    exact hrun
  · intro hfits
    have hnone : (suggestions.map Suggestion.edit).any overflows = false := by
      rw [List.any_eq_false]
      intro e he
      obtain ⟨s, hs, rfl⟩ := List.mem_map.mp he
      simp [hfits s hs]
    rw [applyAll, applyAll_eq_sweep, hnone]
    exact ⟨_, rfl⟩

def suggestionOf (edit : Edit) : Suggestion :=
  { errorId := "err_1", description := "sample", origin := .rule, edit, confidence := .int 1 }

/-- Two suggestions for the first line, and one that inserts past the end of a short document. -/
def crowdedSuggestions : List Suggestion :=
  [suggestionOf (Repair.addAfter 1 "below"), suggestionOf (Repair.replaceLine 1 "one" "first"),
    suggestionOf (Repair.addBefore 9 "last")]

/-- Suggestions that share a line, or point past the end, can be accepted one by one. -/
theorem applyAll_eq_acceptEach_crowded :
    (∀ s ∈ crowdedSuggestions, s.edit.action ≠ .deleteLine ∧ s.edit.overflows = false) ∧
      ∃ order text, BottomUp crowdedSuggestions order ∧ applyAll crowdedSuggestions "one\ntwo" = .ok text ∧
        acceptEach order "one\ntwo" = .ok text := by
  have hfits : ∀ s ∈ crowdedSuggestions, s.edit.action ≠ .deleteLine ∧ s.edit.overflows = false := by decide
  have hplain : ∀ s ∈ crowdedSuggestions, ∀ new, s.edit.newText = some new → '\n' ∉ new := by
    simp [crowdedSuggestions, suggestionOf, Repair.addAfter, Repair.addBefore, Repair.replaceLine]
  obtain ⟨⟨order, horder, -⟩, heach, htext⟩ :=
    applyAll_eq_acceptEach crowdedSuggestions "one\ntwo" (fun s hs => (hfits s hs).1) hplain
  obtain ⟨text, htext⟩ := htext fun s hs => (hfits s hs).2
  exact ⟨hfits, order, text, horder, htext, (heach order horder).trans htext⟩

end Run

end TexMend.Suggestion
