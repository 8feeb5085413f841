import TexMend.Repair.Edit

/-!
# Edits as one patch of the original lines

Edits are applied one after the other, and each moves the lines below it. A patch knows nothing of an
order: it walks the original lines once and asks for each which edit addresses it. Edits of disjoint
ranges are such a patch, because the highest is applied first and moves nothing that the others address.
-/

namespace TexMend.Edit

/-- The last line that is addressed. -/
def lastLine (e : Edit) : Nat :=
  match e.action, e.endLine with
  | .replaceRange, some stop => stop.toNat
  | _, _ => e.line

def addresses (number : Nat) (e : Edit) : Bool :=
  e.line ≤ number && number ≤ e.lastLine

@[simp] theorem addresses_eq_true_iff {number : Nat} {e : Edit} :
    addresses number e = true ↔ e.line ≤ number ∧ number ≤ e.lastLine := by
  simp [addresses]

theorem addresses_eq_false_of_lt {number : Nat} {e : Edit} (h : number < e.line) :
    addresses number e = false := by
  rw [Bool.eq_false_iff, Ne, addresses_eq_true_iff]
  omega

/-- The two edits address no line in common. -/
def Apart (a b : Edit) : Prop :=
  a.lastLine < b.line ∨ b.lastLine < a.line

/-- What stands in the place of an addressed line. A range is replaced at its first line; an edit without
the text that it needs leaves the line. -/
def rewriteLine (e : Edit) (number : Nat) (line : Text) : List Text :=
  match e.action, e.newText with
  | .replaceLine, some new => [new]
  | .insertBefore, some new => [new, line]
  | .insertAfter, some new => [line, new]
  | .deleteLine, _ => []
  | .replaceRange, some new => if number = e.line then [new] else []
  | _, none => [line]

/-- What stands in the place of a line: an edit that addresses it rewrites it, any other line is kept. -/
def patchLine (edits : List Edit) (number : Nat) (line : Text) : List Text :=
  match edits.find? (addresses number) with
  | some e => e.rewriteLine number line
  | none => [line]

/-- Patch the lines from `number` on. -/
def patchFrom (edits : List Edit) : Nat → Document → Document
  | _, [] => []
  | number, line :: rest => patchLine edits number line ++ patchFrom edits (number + 1) rest

/-- All edits at once, on the original numbers of the lines. -/
def patch (edits : List Edit) (lines : Document) : Document :=
  patchFrom edits 1 lines

/-- An insertion at a position that no list of lines can have. -/
def overflows (e : Edit) : Bool :=
  match e.action, e.newText with
  | .insertBefore, some _ => positionLimit < e.line - 1
  | .insertAfter, some _ => positionLimit < e.line
  | _, _ => false

theorem line_le_lastLine (e : Edit) : e.line ≤ e.lastLine := by
  unfold lastLine
  split
  · next stop ha hs =>
      obtain ⟨stop', hs', hle⟩ := e.range_ok ha
      obtain rfl := Option.some.inj (hs.symm.trans hs')
      omega
  · exact Nat.le_refl _

theorem lastLine_of_ne_range {e : Edit} (h : e.action ≠ .replaceRange) : e.lastLine = e.line := by
  unfold lastLine
  split
  · next ha _ => exact absurd ha h
  · rfl

instance (a b : Edit) : Decidable (a.Apart b) :=
  inferInstanceAs (Decidable (_ ∨ _))

theorem Apart.symm {a b : Edit} (h : a.Apart b) : b.Apart a :=
  Or.symm h

section Patch

variable {edits edits' : List Edit}

/-- A patch asks each line only for the edit that addresses it. -/
theorem patchFrom_congr {number : Nat}
    (h : ∀ m, number ≤ m → edits.find? (addresses m) = edits'.find? (addresses m)) (lines : Document) :
    patchFrom edits number lines = patchFrom edits' number lines := by
  induction lines generalizing number with
  | nil => rfl
  | cons line rest ih =>
      have hfirst := h number (Nat.le_refl _)
      have hrest := ih fun m hm => h m (Nat.le_of_succ_le hm)
      simp only [patchFrom, patchLine, hfirst, hrest]

theorem find?_eq_none_of_passed {m : Nat} (h : ∀ e ∈ edits, e.lastLine < m) :
    edits.find? (addresses m) = none := by
  rw [List.find?_eq_none]
  intro e he
  have := h e he
  rw [addresses_eq_true_iff]
  omega

theorem patchFrom_nil (number : Nat) (lines : Document) : patchFrom [] number lines = lines := by
  induction lines generalizing number with
  | nil => rfl
  | cons line rest ih => simp [patchFrom, patchLine, ih]

/-- Lines behind everything that is addressed are kept. -/
theorem patchFrom_of_passed {number : Nat} (h : ∀ e ∈ edits, e.lastLine < number) (lines : Document) :
    patchFrom edits number lines = lines := by
  have hnone : ∀ m, number ≤ m →
      edits.find? (addresses m) = ([] : List Edit).find? (addresses m) := by
    intro m hm
    exact find?_eq_none_of_passed fun e he => Nat.lt_of_lt_of_le (h e he) hm
  rw [patchFrom_congr hnone, patchFrom_nil]

/-- One edit and then others that lie before it are one patch. -/
theorem patchFrom_patchFrom {e : Edit} (h : ∀ e' ∈ edits, e'.lastLine < e.line) (number : Nat)
    (lines : Document) :
    patchFrom edits number (patchFrom [e] number lines) = patchFrom (e :: edits) number lines := by
  induction lines generalizing number with
  | nil => rfl
  | cons line rest ih =>
      by_cases hn : number < e.line
      · have hfar : addresses number e = false := addresses_eq_false_of_lt hn
        have hone : patchLine [e] number line = [line] := by simp [patchLine, hfar]
        have hall : patchLine (e :: edits) number line = patchLine edits number line := by
          simp [patchLine, hfar]
        simp only [patchFrom, hone, hall, List.singleton_append, ih]
      · have hpassed : ∀ e' ∈ edits, e'.lastLine < number := fun e' he' => by
          have := h e' he'
          omega
        rw [patchFrom_of_passed hpassed]
        apply patchFrom_congr
        intro m hm
        have hnone : edits.find? (addresses m) = none :=
          find?_eq_none_of_passed fun e' he' => Nat.lt_of_lt_of_le (hpassed e' he') hm
        simp only [List.find?_cons, List.find?_nil, hnone]

end Patch

section OneEdit

variable {e : Edit}

/-- The lines before the edit are kept. -/
theorem patchFrom_append (before rest : Document) (number : Nat) (h : number + before.length ≤ e.line) :
    patchFrom [e] number (before ++ rest) = before ++ patchFrom [e] (number + before.length) rest := by
  induction before generalizing number with
  | nil => rfl
  | cons line before ih =>
      rw [List.length_cons] at h
      have hfar : addresses number e = false := addresses_eq_false_of_lt (by omega)
      have hline : patchLine [e] number line = [line] := by simp [patchLine, hfar]
      have hnumber : number + 1 + before.length = number + (line :: before).length := by
        rw [List.length_cons]
        omega
      rw [List.cons_append, patchFrom, hline, ih (number + 1) (by omega), hnumber]
      rfl

/-- The addressed line is rewritten, and what is behind it only if the edit has a range. -/
theorem patch_append_cons {before after : Document} {line : Text} (h : before.length + 1 = e.line) :
    patch [e] (before ++ line :: after) =
      before ++ (e.rewriteLine e.line line ++ patchFrom [e] (e.line + 1) after) := by
  have hnumber : 1 + before.length = e.line := by omega
  have hfound : addresses e.line e = true :=
    addresses_eq_true_iff.mpr ⟨Nat.le_refl _, e.line_le_lastLine⟩
  rw [patch, patchFrom_append before _ 1 (by omega), hnumber, patchFrom]
  simp only [patchLine, List.find?_cons, hfound]

/-- Behind its first line a range is dropped. -/
theorem patchFrom_range {new : Text} (ha : e.action = .replaceRange) (hn : e.newText = some new)
    {number : Nat} (h : e.line < number) (lines : Document) :
    patchFrom [e] number lines = lines.drop (e.lastLine + 1 - number) := by
  induction lines generalizing number with
  | nil => simp [patchFrom]
  | cons line rest ih =>
      by_cases hp : e.lastLine < number
      · have hzero : e.lastLine + 1 - number = 0 := by omega
        rw [patchFrom_of_passed (by simpa using hp), hzero, List.drop_zero]
      · have hin : addresses number e = true := by
          rw [addresses_eq_true_iff]
          omega
        have hdrop : e.lastLine + 1 - number = e.lastLine + 1 - (number + 1) + 1 := by omega
        have hne : number ≠ e.line := by omega
        have hline : patchLine [e] number line = [] := by
          simp [patchLine, hin, rewriteLine, ha, hn, hne]
        rw [patchFrom, hline, ih (by omega), hdrop]
        rfl

/-- An edit without the text that it needs patches nothing. -/
theorem patchFrom_of_no_text (ha : e.action ≠ .deleteLine) (hn : e.newText = none) (number : Nat)
    (lines : Document) : patchFrom [e] number lines = lines := by
  induction lines generalizing number with
  | nil => rfl
  | cons line rest ih =>
      have hkeep : e.rewriteLine number line = [line] := by
        unfold rewriteLine
        cases h : e.action <;> simp_all
      have hline : patchLine [e] number line = [line] := by
        unfold patchLine
        cases hf : List.find? (addresses number) [e] with
        | none => rfl
        | some found =>
            obtain rfl : found = e := by simpa using List.mem_of_find?_eq_some hf
            exact hkeep
      rw [patchFrom, hline, ih]
      rfl

theorem insertAt_length_append {before after : Document} {new : Text}
    (h : before.length ≤ positionLimit) :
    insertAt before.length new (before ++ after) = .ok (before ++ new :: after) := by
  simp [insertAt, h]

theorem apply_of_overflows (h : e.overflows = true) (lines : Document) :
    e.apply lines = .error .positionTooLarge := by
  unfold overflows at h
  split at h
  · next new ha hn =>
      have hlimit : ¬ e.line - 1 ≤ positionLimit := Nat.not_le.mpr (of_decide_eq_true h)
      simp only [apply, ha, hn, insertAt, if_neg hlimit]
  · next new ha hn =>
      have hlimit : ¬ e.line ≤ positionLimit := Nat.not_le.mpr (of_decide_eq_true h)
      simp only [apply, ha, hn, insertAt, if_neg hlimit]
  · cases h

/-- A line that exists, between the lines before and after it. -/
theorem exists_eq_append_cons {number : Nat} {lines : Document} (hpos : 1 ≤ number)
    (hin : number ≤ lines.length) :
    ∃ before line after, lines = before ++ line :: after ∧ before.length + 1 = number := by
  have hlt : number - 1 < lines.length := by omega
  refine ⟨lines.take (number - 1), lines[number - 1], lines.drop (number - 1 + 1), ?_, ?_⟩
  · rw [← List.drop_eq_getElem_cons hlt, List.take_append_drop]
  · rw [List.length_take]
    omega

/-- An edit of a line that exists is the patch by this edit alone. -/
theorem apply_eq_patch (h : e.overflows = false) {lines : Document} (hin : e.line ≤ lines.length) :
    e.apply lines = .ok (patch [e] lines) := by
  obtain ⟨before, line, after, rfl, hlen⟩ := exists_eq_append_cons e.line_pos hin
  have hindex : e.line - 1 = before.length := by omega
  have hafter (ha : e.action ≠ .replaceRange) : patchFrom [e] (e.line + 1) after = after := by
    apply patchFrom_of_passed
    simp [lastLine_of_ne_range ha]
  cases hn : e.newText with
  | none =>
      by_cases hd : e.action = .deleteLine
      · have hkeep := hafter (by simp [hd])
        simp [patch_append_cons hlen, apply, hd, hindex, hkeep, rewriteLine, List.eraseIdx_append]
      · have hsame : e.apply (before ++ line :: after) = .ok (before ++ line :: after) := by
          unfold apply
          cases ha : e.action <;> simp_all
        rw [hsame, patch, patchFrom_of_no_text hd hn]
  | some new =>
      rw [patch_append_cons hlen]
      cases ha : e.action with
      | replaceLine =>
          have hkeep := hafter (by simp [ha])
          simp [apply, ha, hn, hindex, hkeep, rewriteLine]
      | insertBefore =>
          have hkeep := hafter (by simp [ha])
          have hlimit : before.length ≤ positionLimit := by
            simpa [overflows, ha, hn, hindex] using h
          simp only [apply, ha, hn, hindex, insertAt_length_append hlimit, hkeep, rewriteLine]
          rfl
      | insertAfter =>
          have hkeep := hafter (by simp [ha])
          have hlimit : (before ++ [line]).length ≤ positionLimit := by
            simpa [overflows, ha, hn, ← hlen] using h
          have hsplit : before ++ line :: after = before ++ [line] ++ after := by simp
          have hposition : e.line = (before ++ [line]).length := by simp [← hlen]
          simp only [apply, ha, hn, hkeep, rewriteLine]
          rw [hsplit, hposition, insertAt_length_append hlimit]
          simp
      | deleteLine =>
          have hkeep := hafter (by simp [ha])
          simp [apply, ha, hindex, hkeep, rewriteLine, List.eraseIdx_append]
      | replaceRange =>
          obtain ⟨stop, hs, hle⟩ := e.range_ok ha
          have hlast : e.lastLine = stop.toNat := by simp [lastLine, ha, hs]
          have hdrop : (before ++ line :: after).drop stop.toNat =
              after.drop (e.lastLine + 1 - (e.line + 1)) := by
            have hfar : stop.toNat = before.length + (e.lastLine + 1 - (e.line + 1) + 1) := by omega
            rw [hfar, List.drop_length_add_append]
            rfl
          rw [patchFrom_range ha hn (Nat.lt_succ_self _), ← hdrop]
          simp [apply, ha, hn, hs, hindex, rewriteLine]

end OneEdit

section Schedule

variable {edits : List Edit}

theorem precedes_trans (a b c : Edit) (hab : precedes a b = true) (hbc : precedes b c = true) :
    precedes a c = true := by
  simp only [precedes, Bool.or_eq_true, Bool.and_eq_true, decide_eq_true_eq, beq_iff_eq,
    Bool.not_eq_true'] at *
  rcases hab with h | ⟨h, hi⟩ <;> rcases hbc with h' | ⟨h', hi'⟩
  · exact Or.inl (by omega)
  · exact Or.inl (by omega)
  · exact Or.inl (by omega)
  · refine Or.inr ⟨by omega, ?_⟩
    rcases hi with hi | hi
    · exact Or.inl hi
    · exact hi'.imp_left fun hn => by simp [hi] at hn

theorem precedes_total (a b : Edit) : (precedes a b || precedes b a) = true := by
  simp only [precedes, Bool.or_eq_true, Bool.and_eq_true, decide_eq_true_eq, beq_iff_eq,
    Bool.not_eq_true']
  rcases Nat.lt_trichotomy a.line b.line with h | h | h
  · exact Or.inr (Or.inl h)
  · cases hi : a.action.inserts with
    | false => exact Or.inl (Or.inr ⟨h, Or.inl rfl⟩)
    | true => exact Or.inr (Or.inr ⟨h.symm, Or.inr rfl⟩)
  · exact Or.inl (Or.inl h)

theorem schedule_perm (edits : List Edit) : (schedule edits).Perm edits :=
  List.mergeSort_perm edits precedes

theorem schedule_sorted (edits : List Edit) :
    (schedule edits).Pairwise fun a b => precedes a b = true :=
  List.pairwise_mergeSort precedes_trans precedes_total edits

/-- Edits that are apart are applied from the bottom up, each above all that went before. -/
theorem schedule_pairwise (h : edits.Pairwise Apart) :
    (schedule edits).Pairwise fun a b => b.lastLine < a.line := by
  have hapart : (schedule edits).Pairwise Apart := (schedule_perm edits).symm.pairwise h Apart.symm
  refine (schedule_sorted edits).imp₂ ?_ hapart
  intro a b hp ha
  have hline := b.line_le_lastLine
  have hline' := a.line_le_lastLine
  have hle : b.line ≤ a.line := by
    simp only [precedes, Bool.or_eq_true, Bool.and_eq_true, decide_eq_true_eq, beq_iff_eq] at hp
    omega
  rcases ha with h | h <;> omega

/-- One patch keeps all lines before the first one that is addressed. -/
theorem le_length_patch {e : Edit} {lines : Document} (hin : e.line ≤ lines.length) :
    e.line ≤ (patch [e] lines).length + 1 := by
  obtain ⟨before, line, after, rfl, hlen⟩ := exists_eq_append_cons e.line_pos hin
  rw [patch_append_cons hlen, List.length_append]
  omega

/-- The run: each step patches what the steps before it have not moved. -/
theorem foldlM_apply_eq_patch (hsorted : edits.Pairwise fun a b => b.lastLine < a.line)
    {lines : Document} (hin : ∀ e ∈ edits, e.line ≤ lines.length) :
    edits.foldlM (fun lines e => e.apply lines) lines =
      if edits.any overflows then .error .positionTooLarge else .ok (patch edits lines) := by
  induction edits generalizing lines with
  | nil => simp [patch, patchFrom_nil, pure, Except.pure]
  | cons e rest ih =>
      obtain ⟨hlast, hrest⟩ := List.pairwise_cons.mp hsorted
      cases ho : e.overflows with
      | true => simp [apply_of_overflows ho, ho, bind, Except.bind]
      | false =>
          have hline := hin e List.mem_cons_self
          have hin' : ∀ e' ∈ rest, e'.line ≤ (patch [e] lines).length := by
            intro e' he'
            have hstill := le_length_patch hline
            have habove := hlast e' he'
            have hle := e'.line_le_lastLine
            omega
          have hpatch : patch rest (patch [e] lines) = patch (e :: rest) lines :=
            patchFrom_patchFrom hlast 1 lines
          rw [List.foldlM_cons, apply_eq_patch ho hline, List.any_cons, ho, Bool.false_or, ← hpatch]
          exact ih hrest hin'

/-- Of edits that are apart at most one addresses a line, so their order does not matter. -/
theorem find?_addresses_eq_some_iff (h : edits.Pairwise Apart) {number : Nat} {e : Edit} :
    edits.find? (addresses number) = some e ↔ e ∈ edits ∧ addresses number e = true := by
  induction edits with
  | nil => simp
  | cons first rest ih =>
      obtain ⟨hfirst, hrest⟩ := List.pairwise_cons.mp h
      cases hf : addresses number first with
      | false =>
          rw [List.find?_cons, hf]
          simp only [ih hrest, List.mem_cons]
          constructor
          · rintro ⟨he, ha⟩
            exact ⟨Or.inr he, ha⟩
          · rintro ⟨rfl | he, ha⟩
            · simp [hf] at ha
            · exact ⟨he, ha⟩
      | true =>
          rw [List.find?_cons, hf]
          simp only [Option.some.injEq, List.mem_cons]
          constructor
          · rintro rfl
            exact ⟨Or.inl rfl, hf⟩
          · rintro ⟨rfl | he, ha⟩
            · rfl
            · have hapart := hfirst e he
              rw [addresses_eq_true_iff] at hf ha
              unfold Apart at hapart
              omega

theorem patch_perm {order : List Edit} (h : edits.Pairwise Apart) (hp : order.Perm edits)
    (lines : Document) : patch order lines = patch edits lines := by
  have horder : order.Pairwise Apart := hp.symm.pairwise h Apart.symm
  apply patchFrom_congr
  intro m _
  apply Option.ext
  intro e
  rw [find?_addresses_eq_some_iff horder, find?_addresses_eq_some_iff h, hp.mem_iff]

/-- No insertion at a line that exists is beyond the greatest position, unless the document is. -/
theorem any_overflows_eq_false {lines : Document} (hfits : lines.length ≤ positionLimit)
    (hin : ∀ e ∈ edits, e.line ≤ lines.length) : edits.any overflows = false := by
  rw [List.any_eq_false]
  intro e he
  have hline := hin e he
  unfold overflows
  split
  · simp only [decide_eq_true_eq]
    omega
  · simp only [decide_eq_true_eq]
    omega
  · simp

/-- Edits of lines that exist and of disjoint ranges, in any order, give the patch of the original lines.
A document of more lines than there are positions is no exception, but for an insertion that no position
is left for. -/
theorem applyAll_eq_patch (lines : Document) (edits : List Edit)
    (hin : ∀ e ∈ edits, e.line ≤ lines.length) (hapart : edits.Pairwise Apart) :
    (lines.length ≤ positionLimit → ∀ order : List Edit, order.Perm edits →
      applyAll order lines = .ok (patch edits lines)) ∧
    ∀ order : List Edit, order.Perm edits → applyAll order lines =
      if edits.any overflows then .error .positionTooLarge else .ok (patch edits lines) := by
  have hrun : ∀ order : List Edit, order.Perm edits → applyAll order lines =
      if edits.any overflows then .error .positionTooLarge else .ok (patch edits lines) := by
    intro order hp
    have hall : (schedule order).Perm edits := (schedule_perm order).trans hp
    have horder : order.Pairwise Apart := hp.symm.pairwise hapart Apart.symm
    rw [applyAll, foldlM_apply_eq_patch (schedule_pairwise horder) fun e he => hin e (hall.mem_iff.mp he),
      patch_perm hapart hall, hall.any_eq]
  refine ⟨?_, hrun⟩
  intro hfits order hp
  rw [hrun order hp, any_overflows_eq_false hfits hin]
  rfl

/-- A deletion, an insertion and a range that reaches past the end of a short document. -/
def sampleDeletion : Edit := { action := .deleteLine, line := 2, range_ok := nofun }

def sampleInsertion : Edit :=
  { action := .insertAfter, line := 1, newText := some "x".toList, range_ok := nofun }

def sampleRange : Edit :=
  { action := .replaceRange, line := 3, endLine := some 9, newText := some "y".toList
    range_ok := fun _ => ⟨9, rfl, by decide⟩ }

/-- The range is clipped, and neither order of the other two shifts it. -/
theorem applyAll_eq_patch_clipped_range :
    applyAll [sampleDeletion, sampleInsertion, sampleRange] ["a", "b", "c", "d"] =
        .ok ["a", "x", "y"] ∧
      applyAll [sampleInsertion, sampleDeletion, sampleRange] ["a", "b", "c", "d"] =
        .ok ["a", "x", "y"] := by
  have h := (applyAll_eq_patch ["a", "b", "c", "d"] [sampleDeletion, sampleInsertion, sampleRange]
    (by decide) (by decide)).1 (by decide)
  exact ⟨h _ (List.Perm.refl _), h _ (List.Perm.swap _ _ _)⟩

end Schedule

end TexMend.Edit
