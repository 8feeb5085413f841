import Mathlib.Data.List.Infix
import TexMend.Proofs.Repair.Proposal
import TexMend.Proofs.Repair.Rounds

/-!
# Braces that nest

How far a line is from nested braces is measured on its beginnings: the largest excess of closing over opening
braces among them is the number of rounds in which a surplus brace is removed. Afterwards no beginning closes more
than it opens, and the braces that are still open at the end of the line are closed there, one in each round.
-/

namespace TexMend.Repair

/-- No beginning of the line closes more than `excess` braces beyond those that it opens. -/
def OverclosesAtMost (excess : Nat) (line : Text) : Prop :=
  ∀ start, start <+: line → closings start ≤ openings start + excess

/-- The largest excess of closing over opening braces among the beginnings of a line. -/
def overclosing (line : Text) : Nat :=
  (line.inits.map fun start => closings start - openings start).foldr max 0

/-- Every closing brace has an opening one before it, and every opening one a closing one behind it. -/
structure Nested (line : Text) : Prop where
  counts_eq : openings line = closings line
  never_overclosed : OverclosesAtMost 0 line

/-- The text without the closing braces that exceed `pending` and the opening ones before them. -/
def matchedFrom (pending : Nat) : Text → Text
  | [] => []
  | c :: cs =>
    if c = '{' then c :: matchedFrom (pending + 1) cs
    else if c = '}' then
      match pending with
      | 0 => matchedFrom 0 cs
      | n + 1 => c :: matchedFrom n cs
    else c :: matchedFrom pending cs

/-- The line without the closing braces that have no partner. -/
def matched (line : Text) : Text :=
  matchedFrom 0 line

/-- The opening braces that are still open at the end of a line. -/
def unclosed (line : Text) : Nat :=
  openings line - closings line

/-- The line with the braces closed that are open at its end. -/
def closed (line : Text) : Text :=
  line ++ List.replicate (unclosed line) '}'

section Counts

@[simp] theorem openings_nil : openings [] = 0 := rfl

@[simp] theorem closings_nil : closings [] = 0 := rfl

@[simp] theorem openings_cons (c : Char) (cs : Text) :
    openings (c :: cs) = openings cs + if c = '{' then 1 else 0 := by
  simp [openings, List.count_cons]

@[simp] theorem closings_cons (c : Char) (cs : Text) :
    closings (c :: cs) = closings cs + if c = '}' then 1 else 0 := by
  simp [closings, List.count_cons]

@[simp] theorem openings_append (text rest : Text) : openings (text ++ rest) = openings text + openings rest :=
  List.count_append

@[simp] theorem closings_append (text rest : Text) : closings (text ++ rest) = closings text + closings rest :=
  List.count_append

@[simp] theorem openings_replicate_closing (n : Nat) : openings (List.replicate n '}') = 0 := by
  simp [openings, List.count_replicate]

@[simp] theorem closings_replicate_closing (n : Nat) : closings (List.replicate n '}') = n := by
  simp [closings]

@[simp] theorem removeAt_zero_cons (c : Char) (cs : Text) : removeAt 0 (c :: cs) = cs := rfl

@[simp] theorem removeAt_succ_cons (position : Nat) (c : Char) (cs : Text) :
    removeAt (position + 1) (c :: cs) = c :: removeAt position cs := rfl

end Counts

section Beginnings

variable {excess : Nat} {text rest line : Text}

theorem overclosesAtMost_nil (excess : Nat) : OverclosesAtMost excess [] := by
  intro start hstart
  obtain rfl := List.prefix_nil.mp hstart
  exact Nat.zero_le _

theorem overclosesAtMost_cons_iff {c : Char} {cs : Text} : OverclosesAtMost excess (c :: cs) ↔
    ∀ start, start <+: cs → closings (c :: start) ≤ openings (c :: start) + excess := by
  constructor
  · intro h start hstart
    exact h (c :: start) (List.cons_prefix_cons.mpr ⟨rfl, hstart⟩)
  · intro h start hstart
    rcases List.prefix_cons_iff.mp hstart with rfl | ⟨tail, rfl, htail⟩
    · exact Nat.zero_le _
    · exact h tail htail

theorem overclosesAtMost_opening_cons_iff {cs : Text} :
    OverclosesAtMost excess ('{' :: cs) ↔ OverclosesAtMost (excess + 1) cs := by
  rw [overclosesAtMost_cons_iff]
  refine forall₂_congr fun start _ => ?_
  simp
  omega

theorem overclosesAtMost_closing_cons_iff {cs : Text} :
    OverclosesAtMost (excess + 1) ('}' :: cs) ↔ OverclosesAtMost excess cs := by
  rw [overclosesAtMost_cons_iff]
  refine forall₂_congr fun start _ => ?_
  simp
  omega

theorem not_overclosesAtMost_zero_closing_cons {cs : Text} : ¬ OverclosesAtMost 0 ('}' :: cs) := by
  intro h
  have hfirst := h ['}'] (List.cons_prefix_cons.mpr ⟨rfl, List.nil_prefix⟩)
  simp at hfirst

theorem overclosesAtMost_other_cons_iff {c : Char} {cs : Text} (hopening : c ≠ '{') (hclosing : c ≠ '}') :
    OverclosesAtMost excess (c :: cs) ↔ OverclosesAtMost excess cs := by
  rw [overclosesAtMost_cons_iff]
  refine forall₂_congr fun start _ => ?_
  simp [hopening, hclosing]

theorem overclosing_le_iff : overclosing line ≤ excess ↔ OverclosesAtMost excess line := by
  have hmax : ∀ counts : List Nat, counts.foldr max 0 ≤ excess ↔ ∀ n ∈ counts, n ≤ excess := by
    intro counts
    induction counts with
    | nil => simp
    | cons n counts ih => rw [List.foldr_cons, Nat.max_le, ih, List.forall_mem_cons]
  rw [overclosing, hmax]
  simp only [List.forall_mem_map, List.mem_inits, Nat.sub_le_iff_le_add']
  rfl

end Beginnings

section Surplus

variable {pending position : Nat} {line : Text}

/-- A surplus brace is found exactly if some beginning of the text has one. -/
theorem surplusFrom_eq_none_iff : surplusFrom pending line = none ↔ OverclosesAtMost pending line := by
  fun_induction surplusFrom pending line with
  | case1 => simp [overclosesAtMost_nil]
  | case2 pending cs ih => rw [Option.map_eq_none_iff, ih, overclosesAtMost_opening_cons_iff]
  | case3 cs => simp [not_overclosesAtMost_zero_closing_cons]
  | case4 cs pending _ ih => rw [Option.map_eq_none_iff, ih, overclosesAtMost_closing_cons_iff]
  | case5 pending c cs hopening hclosing ih =>
      rw [Option.map_eq_none_iff, ih, overclosesAtMost_other_cons_iff hopening hclosing]

/-- Without the surplus brace that is found, every bound on the excess holds for one brace less. -/
theorem overclosesAtMost_removeAt_iff (h : surplusFrom pending line = some position) {excess : Nat}
    (hle : pending ≤ excess) :
    OverclosesAtMost excess (removeAt position line) ↔ OverclosesAtMost (excess + 1) line := by
  fun_induction surplusFrom pending line generalizing position excess with
  | case1 => cases h
  | case2 pending cs ih =>
      obtain ⟨position, hposition, rfl⟩ := Option.map_eq_some_iff.mp h
      rw [removeAt_succ_cons, overclosesAtMost_opening_cons_iff, overclosesAtMost_opening_cons_iff,
        ih hposition (Nat.succ_le_succ hle)]
  | case3 cs =>
      obtain rfl := Option.some.inj h
      rw [removeAt_zero_cons, overclosesAtMost_closing_cons_iff]
  | case4 cs pending _ ih =>
      obtain ⟨position, hposition, rfl⟩ := Option.map_eq_some_iff.mp h
      obtain ⟨excess, rfl⟩ : ∃ less, excess = less + 1 := Nat.exists_eq_add_one.mpr (Nat.zero_lt_of_lt hle)
      rw [removeAt_succ_cons, overclosesAtMost_closing_cons_iff, overclosesAtMost_closing_cons_iff,
        ih hposition (Nat.le_of_succ_le_succ hle)]
  | case5 pending c cs hopening hclosing ih =>
      obtain ⟨position, hposition, rfl⟩ := Option.map_eq_some_iff.mp h
      rw [removeAt_succ_cons, overclosesAtMost_other_cons_iff hopening hclosing,
        overclosesAtMost_other_cons_iff hopening hclosing, ih hposition hle]

/-- A round that removes a surplus brace takes one off the largest excess. -/
theorem overclosing_eq_add_one (h : surplusClosing? line = some position) :
    overclosing line = overclosing (removeAt position line) + 1 := by
  have hbound (excess : Nat) : overclosing (removeAt position line) ≤ excess ↔ overclosing line ≤ excess + 1 := by
    rw [overclosing_le_iff, overclosing_le_iff]
    exact overclosesAtMost_removeAt_iff h (Nat.zero_le _)
  have hpos : ¬ overclosing line ≤ 0 := by
    rw [overclosing_le_iff, ← surplusFrom_eq_none_iff]
    exact Option.ne_none_iff_exists'.mpr ⟨position, h⟩
  have hle := (hbound (overclosing (removeAt position line))).mp (Nat.le_refl _)
  have hge := (hbound (overclosing line - 1)).mpr (by omega)
  omega

end Surplus

section Matched

variable {pending position : Nat} {line : Text}

theorem matchedFrom_of_overclosesAtMost (h : OverclosesAtMost pending line) : matchedFrom pending line = line := by
  fun_induction matchedFrom pending line with
  | case1 => rfl
  | case2 pending cs ih => rw [ih (overclosesAtMost_opening_cons_iff.mp h)]
  | case3 cs => exact absurd h not_overclosesAtMost_zero_closing_cons
  | case4 cs pending _ ih => rw [ih (overclosesAtMost_closing_cons_iff.mp h)]
  | case5 pending c cs hopening hclosing ih => rw [ih ((overclosesAtMost_other_cons_iff hopening hclosing).mp h)]

/-- What is left in the end is the same before and after the removal of one brace. -/
theorem matchedFrom_removeAt (h : surplusFrom pending line = some position) :
    matchedFrom pending (removeAt position line) = matchedFrom pending line := by
  fun_induction surplusFrom pending line generalizing position with
  | case1 => cases h
  | case2 pending cs ih =>
      obtain ⟨position, hposition, rfl⟩ := Option.map_eq_some_iff.mp h
      simp [matchedFrom, ih hposition]
  | case3 cs =>
      obtain rfl := Option.some.inj h
      simp [matchedFrom]
  | case4 cs pending _ ih =>
      obtain ⟨position, hposition, rfl⟩ := Option.map_eq_some_iff.mp h
      simp [matchedFrom, ih hposition]
  | case5 pending c cs hopening hclosing ih =>
      obtain ⟨position, hposition, rfl⟩ := Option.map_eq_some_iff.mp h
      simp [matchedFrom, hopening, hclosing, ih hposition]

theorem matchedFrom_overclosesAtMost (pending : Nat) (line : Text) :
    OverclosesAtMost pending (matchedFrom pending line) := by
  fun_induction matchedFrom pending line with
  | case1 => exact overclosesAtMost_nil _
  | case2 pending cs ih => exact overclosesAtMost_opening_cons_iff.mpr ih
  | case3 cs _ ih => exact ih
  | case4 cs pending _ ih => exact overclosesAtMost_closing_cons_iff.mpr ih
  | case5 pending c cs hopening hclosing ih => exact (overclosesAtMost_other_cons_iff hopening hclosing).mpr ih

theorem matchedFrom_sublist (pending : Nat) (line : Text) : (matchedFrom pending line).Sublist line := by
  fun_induction matchedFrom pending line with
  | case1 => exact List.Sublist.refl _
  | case2 pending cs ih => exact ih.cons_cons _
  | case3 cs _ ih => exact ih.cons _
  | case4 cs pending _ ih => exact ih.cons_cons _
  | case5 pending c cs hopening hclosing ih => exact ih.cons_cons _

/-- Nothing but closing braces is missing. -/
theorem filter_matchedFrom (pending : Nat) (line : Text) :
    (matchedFrom pending line).filter (· ≠ '}') = line.filter (· ≠ '}') := by
  fun_induction matchedFrom pending line with
  | case1 => rfl
  | case2 pending cs ih => simpa using ih
  | case3 cs _ ih => simpa using ih
  | case4 cs pending _ ih => simpa using ih
  | case5 pending c cs hopening hclosing ih => simpa [hclosing] using ih

end Matched

section Closed

variable {line : Text}

theorem closings_le_openings (h : OverclosesAtMost 0 line) : closings line ≤ openings line :=
  h line List.prefix_rfl

theorem nested_closed (h : OverclosesAtMost 0 line) : Nested (closed line) := by
  have hle := closings_le_openings h
  constructor
  · simp only [closed, unclosed, openings_append, closings_append, openings_replicate_closing,
      closings_replicate_closing]
    omega
  · intro start hstart
    rcases List.prefix_or_prefix_of_prefix hstart (List.prefix_append line _) with hbefore | ⟨tail, rfl⟩
    · exact h start hbefore
    · obtain ⟨hlength, htail⟩ := List.prefix_replicate_iff.mp ((List.prefix_append_right_inj line).mp hstart)
      rw [htail]
      simp only [openings_append, closings_append, openings_replicate_closing, closings_replicate_closing]
      unfold unclosed at hlength
      omega

theorem unclosed_eq_add_one (h : closings line < openings line) :
    unclosed line = unclosed (line ++ ['}']) + 1 := by
  simp [unclosed]
  omega

/-- The first of the braces that are closed at the end. -/
theorem closed_eq_closed_append (h : closings line < openings line) : closed line = closed (line ++ ['}']) := by
  rw [closed, closed, unclosed_eq_add_one h, List.append_assoc]
  rfl

end Closed

section Rules

variable {r : Record} {number : Nat}

/-- The line after one surplus brace is removed from it. -/
def dropSurplus? (line : Text) : Option Text :=
  (surplusClosing? line).map fun position => removeAt position line

/-- The line after one brace is closed at its end. -/
def closeOne? (line : Text) : Option Text :=
  if openings line ≤ closings line then none else some (line ++ ['}'])

theorem rewritesLine_extraBrace (hcategory : r.category = .extraBrace) (hnumber : r.line = some (number : Int))
    (hpos : 1 ≤ number) : RewritesLine r number dropSurplus? := by
  apply RewritesLine.of_fix? hpos (("Remove extra \x7d on line " : Text) ++ Text.ofNat number) 75
  intro lines line hline
  rw [fix?, hcategory]
  change fixSurplusBrace? r lines = _
  cases line with
  | nil =>
      have hnone : dropSurplus? [] = none := rfl
      simp [fixSurplusBrace?, pointedLine?, hnumber, hline, hnone]
  | cons c cs =>
      rw [fixSurplusBrace?, pointedLine?_eq_some hnumber hpos hline (List.cons_ne_nil c cs), dropSurplus?,
        Option.map_map]
      rfl

theorem rewritesLine_unclosedBrace (hcategory : r.category = .unclosedBrace)
    (hnumber : r.line = some (number : Int)) (hpos : 1 ≤ number) : RewritesLine r number closeOne? := by
  apply RewritesLine.of_fix? hpos (("Add missing closing brace on line " : Text) ++ Text.ofNat number) 70
  intro lines line hline
  rw [fix?, hcategory]
  change fixOpenBrace? r lines = _
  cases line with
  | nil =>
      have hnone : closeOne? [] = none := rfl
      simp [fixOpenBrace?, pointedLine?, hnumber, hline, hnone]
  | cons c cs =>
      rw [fixOpenBrace?, pointedLine?_eq_some hnumber hpos hline (List.cons_ne_nil c cs), closeOne?]
      dsimp only
      split <;> rfl

theorem dropSurplus?_eq_none {line : Text} (h : dropSurplus? line = none) :
    overclosing line = 0 ∧ matched line = line := by
  have hnever : OverclosesAtMost 0 line := surplusFrom_eq_none_iff.mp (Option.map_eq_none_iff.mp h)
  exact ⟨Nat.le_zero.mp (overclosing_le_iff.mpr hnever), matchedFrom_of_overclosesAtMost hnever⟩

theorem dropSurplus?_eq_some {line new : Text} (h : dropSurplus? line = some new) :
    overclosing line = overclosing new + 1 ∧ matched line = matched new := by
  obtain ⟨position, hposition, rfl⟩ := Option.map_eq_some_iff.mp h
  exact ⟨overclosing_eq_add_one hposition, (matchedFrom_removeAt hposition).symm⟩

theorem closeOne?_eq_none {line : Text} (h : closeOne? line = none) : unclosed line = 0 ∧ closed line = line := by
  have hle : openings line ≤ closings line := by simpa [closeOne?] using h
  have hzero : unclosed line = 0 := Nat.sub_eq_zero_of_le hle
  exact ⟨hzero, by rw [closed, hzero, List.replicate_zero, List.append_nil]⟩

theorem closeOne?_eq_some {line new : Text} (h : closeOne? line = some new) :
    unclosed line = unclosed new + 1 ∧ closed line = closed new := by
  obtain ⟨hlt, rfl⟩ : ¬ openings line ≤ closings line ∧ line ++ ['}'] = new := by simpa [closeOne?] using h
  rw [Nat.not_le] at hlt
  exact ⟨unclosed_eq_add_one hlt, closed_eq_closed_append hlt⟩

end Rules

section Rounds

variable {surplus missing : Record} {number : Nat} {lines : Document} {line : Text}

/-- Rounds for a surplus of closing braces, and after them rounds for missing ones, end with a line whose braces
nest. The former are as many as the largest excess of closing braces among the beginnings of the line and take away
nothing but closing braces; the latter are as many as there are braces still open and append one for each. No
other line changes. -/
theorem brace_rounds_nest (hsurplus : surplus.category = .extraBrace) (hmissing : missing.category = .unclosedBrace)
    (hnumber : surplus.line = some (number : Int)) (hnumber' : missing.line = some (number : Int)) (hpos : 1 ≤ number)
    (hline : lines[number - 1]? = some line) :
    (∀ count last, Rounds surplus count lines last ∧ fix? surplus last = none ↔
      count = overclosing line ∧ last = lines.set (number - 1) (matched line)) ∧
    ((matched line).Sublist line ∧ (matched line).filter (· ≠ '}') = line.filter (· ≠ '}') ∧
      OverclosesAtMost 0 (matched line)) ∧
    (∀ count last, Rounds missing count (lines.set (number - 1) (matched line)) last ∧ fix? missing last = none ↔
      count = unclosed (matched line) ∧ last = lines.set (number - 1) (closed (matched line))) ∧
    Nested (closed (matched line)) ∧
    ∀ count middle, Rounds surplus count lines middle → ∃ text, middle = lines.set (number - 1) text ∧
      ∀ count' last, Rounds missing count' middle last → ∃ text', last = lines.set (number - 1) text' := by
  have hdrops := rewritesLine_extraBrace hsurplus hnumber hpos
  have hcloses := rewritesLine_unclosedBrace hmissing hnumber' hpos
  have hnever : OverclosesAtMost 0 (matched line) := matchedFrom_overclosesAtMost 0 line
  refine ⟨?_, ⟨matchedFrom_sublist 0 line, filter_matchedFrom 0 line, hnever⟩, ?_, nested_closed hnever, ?_⟩
  · intro count last
    exact hdrops.rounds_iff (fun _ => dropSurplus?_eq_none) (fun _ _ => dropSurplus?_eq_some) hline
  · intro count last
    rw [hcloses.rounds_iff (fun _ => closeOne?_eq_none) (fun _ _ => closeOne?_eq_some)
      (getElem?_set_of_getElem? hline), List.set_set]
  · intro count middle hrounds
    obtain ⟨text, rfl⟩ := hdrops.exists_set hline hrounds
    refine ⟨text, rfl, ?_⟩
    intro count' last hrounds'
    obtain ⟨text', hlast⟩ := hcloses.exists_set (getElem?_set_of_getElem? hline) hrounds'
    exact ⟨text', hlast.trans (List.set_set ..)⟩

/-- A record of braces on the first line. -/
def braceRecord (category : Category) : Record where
  id := "err_1"
  severity := .error
  category := category
  message := "Extra \x7d, or forgotten $"
  rawLog := "! Extra \x7d, or forgotten $."
  file := none
  line := some (1 : Nat)
  offendingText := none

/-- Two braces close what is opened only behind them: both go, and the two that are open are closed. -/
theorem brace_rounds_nest_crossed :
    (braceRecord .extraBrace).category = .extraBrace ∧ (braceRecord .unclosedBrace).category = .unclosedBrace ∧
      (braceRecord .extraBrace).line = some ((1 : Nat) : Int) ∧
      (braceRecord .unclosedBrace).line = some ((1 : Nat) : Int) ∧ 1 ≤ 1 ∧
      (["\x7da\x7d\x7b\x7b"] : Document)[1 - 1]? = some ("\x7da\x7d\x7b\x7b" : Text) ∧
      Rounds (braceRecord .extraBrace) 2 ["\x7da\x7d\x7b\x7b"] ["a\x7b\x7b"] ∧
      Rounds (braceRecord .unclosedBrace) 2 ["a\x7b\x7b"] ["a\x7b\x7b\x7d\x7d"] ∧
      fix? (braceRecord .unclosedBrace) ["a\x7b\x7b\x7d\x7d"] = none := by
  have hline : (["\x7da\x7d\x7b\x7b"] : Document)[1 - 1]? = some ("\x7da\x7d\x7b\x7b" : Text) := rfl
  have hsurplus : (braceRecord .extraBrace).category = .extraBrace := rfl
  have hmissing : (braceRecord .unclosedBrace).category = .unclosedBrace := rfl
  obtain ⟨hdrops, -, hcloses, -, -⟩ := brace_rounds_nest hsurplus hmissing rfl rfl (Nat.le_refl 1) hline
  obtain ⟨hfirst, -⟩ := (hdrops 2 ["a\x7b\x7b"]).mpr ⟨by decide, by decide⟩
  obtain ⟨hsecond, hend⟩ := (hcloses 2 ["a\x7b\x7b\x7d\x7d"]).mpr ⟨by decide, by decide⟩
  exact ⟨hsurplus, hmissing, rfl, rfl, Nat.le_refl 1, hline, hfirst, hsecond, hend⟩

end Rounds

end TexMend.Repair
