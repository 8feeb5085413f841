import Mathlib.Data.List.Find
import TexMend.Proofs.Repair.MathMode
import TexMend.Proofs.Repair.Rounds

/-!
# Math mode in rounds

A round puts one token into math mode and may take tokens behind it out again. The first occurrences of the tokens
are therefore weighed like the digits of a binary numeral, the leftmost the heaviest: what is outside math mode
counts one. A round turns one digit to zero and no digit to the left of it changes, so the numeral falls.
-/

namespace TexMend.Repair

/-- The weight of a text in which the tokens `unseen` may still come, behind `seen` dollar signs: the first
occurrences of those tokens as the digits of a binary numeral, one for each that lies outside math mode. -/
def mathWeightFrom (seen : Nat) (unseen : List Text) : Text → Nat
  | [] => 0
  | c :: cs =>
    match unseen.find? fun token => token.isPrefixOf (c :: cs) with
    | some token =>
      (if seen % 2 = 0 then Nat.pow 2 (unseen.length - 1) else 0) +
        mathWeightFrom (seen + dollars [c]) (unseen.erase token) cs
    | none => mathWeightFrom (seen + dollars [c]) unseen cs

/-- The weight of a whole line. -/
def mathWeight (line : Text) : Nat :=
  mathWeightFrom 0 mathTokens line

section Weight

variable {seen : Nat} {unseen : List Text} {token : Text}

theorem mathWeightFrom_lt (seen : Nat) (unseen : List Text) (text : Text) :
    mathWeightFrom seen unseen text < Nat.pow 2 unseen.length := by
  induction text generalizing seen unseen with
  | nil => exact Nat.pow_pos (by decide)
  | cons c cs ih =>
      unfold mathWeightFrom
      split
      · next token hfind =>
          have hmem : token ∈ unseen := List.mem_of_find?_eq_some hfind
          have hrest := ih (seen + dollars [c]) (unseen.erase token)
          have hlength := List.length_pos_of_mem hmem
          rw [List.length_erase_of_mem hmem] at hrest
          have hdouble : Nat.pow 2 unseen.length = 2 * Nat.pow 2 (unseen.length - 1) := by
            conv_lhs => rw [← Nat.sub_add_cancel hlength]
            exact Nat.pow_succ'
          split <;> omega
      · exact ih _ _

/-- At a place where an unseen token begins, it is the one that is found. -/
theorem find?_begins {text : Text} (hunseen : ∀ t ∈ unseen, t ∈ mathTokens) (hmem : token ∈ unseen)
    (hbegins : token <+: text) : unseen.find? (fun t => t.isPrefixOf text) = some token := by
  cases hfind : unseen.find? fun t => t.isPrefixOf text with
  | none => simpa [hbegins] using List.find?_eq_none.mp hfind token hmem
  | some found =>
      have hfound : found <+: text := by simpa using List.find?_some hfind
      rw [eq_of_tokens_begin (hunseen found (List.mem_of_find?_eq_some hfind)) (hunseen token hmem) hfound
        hbegins]

/-- No token begins at a dollar sign. -/
theorem find?_dollar (hunseen : ∀ t ∈ unseen, t ∈ mathTokens) (rest : Text) :
    unseen.find? (fun t => t.isPrefixOf ('$' :: rest)) = none := by
  apply List.find?_eq_none.mpr
  intro t ht
  obtain ⟨mark, letters, rfl, hmark, _⟩ := exists_mark (hunseen t ht)
  have hne : mark ≠ '$' := by
    rintro rfl
    exact absurd hmark (by decide)
  simp [hne]

/-- Which token begins in front of a mark does not depend on what the mark is. -/
theorem find?_before_mark {mark other c : Char} (hunseen : ∀ t ∈ unseen, t ∈ mathTokens)
    (hmark : Text.isAsciiLetter mark = false) (hother : Text.isAsciiLetter other = false)
    (before rest rest' : Text) :
    unseen.find? (fun t => t.isPrefixOf (c :: (before ++ mark :: rest))) =
      unseen.find? (fun t => t.isPrefixOf (c :: (before ++ other :: rest'))) := by
  have hstop {letters rest : Text} {m : Char} (hm : Text.isAsciiLetter m = false)
      (hletters : ∀ d ∈ letters, Text.isAsciiLetter d = true) :
      letters <+: before ++ m :: rest ↔ letters <+: before := by
    constructor
    · apply Text.prefix_of_prefix_append_cons
      intro hmem
      rw [hletters m hmem] at hm
      cases hm
    · exact fun h => h.trans (List.prefix_append _ _)
  apply List.find?_congr
  intro t ht
  obtain ⟨first, letters, rfl, -, hletters⟩ := exists_mark (hunseen t ht)
  rw [Bool.eq_iff_iff, List.isPrefixOf_iff_prefix, List.isPrefixOf_iff_prefix, List.cons_prefix_cons,
    List.cons_prefix_cons, hstop hmark hletters, hstop hother hletters]

/-- An expression at the front: the digit of its token is one before and zero after, and all lighter digits together
are less than it. -/
theorem mathWeightFrom_wrapped_front_lt {mark : Char} {tail rest : Text} (hunseen : ∀ t ∈ unseen, t ∈ mathTokens)
    (hmem : token ∈ unseen) (hbegins : token <+: mark :: tail) (heven : seen % 2 = 0) :
    mathWeightFrom seen unseen ('$' :: mark :: (tail ++ '$' :: rest)) <
      mathWeightFrom seen unseen (mark :: (tail ++ rest)) := by
  have hfind : unseen.find? (fun t => t.isPrefixOf (mark :: (tail ++ rest))) = some token :=
    find?_begins hunseen hmem (hbegins.trans (List.prefix_append _ rest))
  have hfind' : unseen.find? (fun t => t.isPrefixOf (mark :: (tail ++ '$' :: rest))) = some token :=
    find?_begins hunseen hmem (hbegins.trans (List.prefix_append _ ('$' :: rest)))
  have hodd : ¬ (seen + dollars ['$']) % 2 = 0 := by
    have hone : dollars ['$'] = 1 := by decide
    omega
  have hrest := mathWeightFrom_lt (seen + dollars ['$'] + dollars [mark]) (unseen.erase token)
    (tail ++ '$' :: rest)
  rw [List.length_erase_of_mem hmem] at hrest
  calc mathWeightFrom seen unseen ('$' :: mark :: (tail ++ '$' :: rest))
    _ = mathWeightFrom (seen + dollars ['$'] + dollars [mark]) (unseen.erase token) (tail ++ '$' :: rest) := by
      rw [mathWeightFrom, find?_dollar hunseen, mathWeightFrom, hfind']
      simp only [if_neg hodd, Nat.zero_add]
    _ < Nat.pow 2 (unseen.length - 1) := hrest
    _ ≤ mathWeightFrom seen unseen (mark :: (tail ++ rest)) := by
      rw [mathWeightFrom, hfind]
      simp only [if_pos heven]
      omega

/-- Dollar signs around an expression take weight off, if it begins with the first occurrence of an unseen token
and lies outside math mode. -/
theorem mathWeightFrom_wrapped_lt {before expression rest : Text} (hunseen : ∀ t ∈ unseen, t ∈ mathTokens)
    (hmem : token ∈ unseen) (hbegins : token <+: expression)
    (hfirst : ∀ earlier, earlier ++ token <+: before ++ (expression ++ rest) → before.length ≤ earlier.length)
    (heven : (seen + dollars before) % 2 = 0) :
    mathWeightFrom seen unseen (before ++ '$' :: (expression ++ '$' :: rest)) <
      mathWeightFrom seen unseen (before ++ (expression ++ rest)) := by
  obtain ⟨mark, letters, htoken, hmark, -⟩ := exists_mark (hunseen token hmem)
  obtain ⟨tail, rfl⟩ : ∃ tail, expression = mark :: tail := by
    obtain ⟨more, rfl⟩ := hbegins
    exact ⟨letters ++ more, by rw [htoken]; rfl⟩
  have hletter : Text.isAsciiLetter mark = false := by
    simp only [List.mem_cons, List.not_mem_nil, or_false] at hmark
    rcases hmark with rfl | rfl | rfl <;> rfl
  induction before generalizing seen unseen with
  | nil => exact mathWeightFrom_wrapped_front_lt hunseen hmem hbegins heven
  | cons c before ih =>
      have hlater : ¬ token <+: c :: (before ++ (mark :: tail ++ rest)) := fun h =>
        absurd (hfirst [] h) (by simp)
      have hfirst' : ∀ earlier, earlier ++ token <+: before ++ (mark :: tail ++ rest) →
          before.length ≤ earlier.length := by
        intro earlier h
        exact Nat.le_of_succ_le_succ (hfirst (c :: earlier) (List.cons_prefix_cons.mpr ⟨rfl, h⟩))
      have heven' : (seen + dollars [c] + dollars before) % 2 = 0 := by
        have hsplit : dollars ([c] ++ before) = dollars [c] + dollars before := List.count_append
        rw [Nat.add_assoc, ← hsplit]
        exact heven
      have hsame := find?_before_mark (c := c) hunseen (by decide : Text.isAsciiLetter '$' = false) hletter before
        (mark :: tail ++ '$' :: rest) (tail ++ rest)
      simp only [List.cons_append, mathWeightFrom] at hsame ⊢
      cases hfind : unseen.find? fun t => t.isPrefixOf (c :: (before ++ mark :: (tail ++ rest))) with
      | some found =>
          have hfound : found <+: c :: (before ++ (mark :: tail ++ rest)) := by
            simpa using List.find?_some hfind
          have hne : token ≠ found := fun h => hlater (h ▸ hfound)
          simp only [hsame, hfind]
          apply Nat.add_lt_add_left
          exact ih (fun t ht => hunseen t (List.mem_of_mem_erase ht)) ((List.mem_erase_of_ne hne).mpr hmem)
            heven' hfirst'
      | none =>
          simp only [hsame, hfind]
          exact ih hunseen hmem heven' hfirst'

/-- A repair of the line takes weight off. -/
theorem mathWeight_wrapped_lt {line : Text} {gap : MathGap} (h : mathGap? line = some gap) :
    mathWeight gap.wrapped < mathWeight line := by
  obtain ⟨token, htoken, hgap⟩ := List.exists_of_findSome?_eq_some h
  obtain ⟨hfirst, heven, hbegins⟩ := mathGapOf?_spec htoken hgap
  have hline : line = gap.before ++ (gap.expression ++ gap.rest) := by
    rw [← List.append_assoc]
    exact eq_append_of_mathGap?_eq_some h
  have hwrapped : gap.wrapped = gap.before ++ '$' :: (gap.expression ++ '$' :: gap.rest) := by
    simp [MathGap.wrapped]
  have hearliest := hfirst.earliest
  rw [hline] at hearliest
  rw [mathWeight, mathWeight, hwrapped]
  conv_rhs => rw [hline]
  apply mathWeightFrom_wrapped_lt (fun _ h => h) htoken hbegins hearliest
  rw [Nat.zero_add]
  exact heven

end Weight

/-- The line has two dollar signs more, the first of them outside math mode, and all else stays. -/
def EntersMathMode (number : Nat) (lines next : Document) : Prop :=
  ∃ before part after : Text, lines[number - 1]? = some (before ++ part ++ after) ∧ dollars before % 2 = 0 ∧
    next = lines.set (number - 1) (before ++ '$' :: part ++ '$' :: after)

/-- The weight of the line with a number. -/
def mathWeightAt (number : Nat) (lines : Document) : Nat :=
  mathWeight (lines[number - 1]?.getD [])

section Rounds

variable {r : Record} {number : Nat} {lines : Document}

/-- A fix of a line in the document can be applied, and takes weight off. -/
theorem exists_apply_math (hcategory : r.category = .missingMathDelimiter)
    (hnumber : r.line = some (number : Int)) (hpos : 1 ≤ number) (hinside : number ≤ lines.length)
    {s : Suggestion} (hfix : fix? r lines = some s) :
    ∃ next, s.edit.apply lines = .ok next ∧ EntersMathMode number lines next ∧ next.length = lines.length ∧
      mathWeightAt number next < mathWeightAt number lines := by
  have hlt : number - 1 < lines.length := by omega
  have hline : lines[number - 1]? = some lines[number - 1] := List.getElem?_eq_getElem hlt
  rw [fix?_math hcategory hnumber hpos hline] at hfix
  obtain ⟨gap, hgap, rfl⟩ := Option.map_eq_some_iff.mp hfix
  obtain ⟨token, htoken, hgapOf⟩ := List.exists_of_findSome?_eq_some hgap
  obtain ⟨-, heven, -⟩ := mathGapOf?_spec htoken hgapOf
  refine ⟨_, apply_replaceLine hpos _ gap.wrapped lines, ⟨gap.before, gap.expression, gap.rest, ?_, heven, rfl⟩, List.length_set, ?_⟩
  · rw [hline, eq_append_of_mathGap?_eq_some hgap]
  · simp only [mathWeightAt, List.getElem?_set_self hlt, hline, Option.getD_some]
    exact mathWeight_wrapped_lt hgap

/-- Rounds of the repair of a line of the document come to an end after at most `2 ^ 17 - 1` of them. Each one
puts two dollar signs into the line, the first of them outside math mode, and changes nothing else. In the end
the first occurrence of every token lies in math mode. -/
theorem math_rounds_end (hcategory : r.category = .missingMathDelimiter)
    (hnumber : r.line = some (number : Int)) (hpos : 1 ≤ number) (hinside : number ≤ lines.length) :
    (∃ count last, Rounds r count lines last ∧ fix? r last = none) ∧
      ∀ count last, Rounds r count lines last →
        count ≤ Nat.pow 2 17 - 1 ∧
        (∀ s, fix? r last = some s → ∃ next, s.edit.apply last = .ok next ∧ EntersMathMode number last next) ∧
        (fix? r last = none → ∃ line, last[number - 1]? = some line ∧
          ∀ token ∈ mathTokens, ∀ before, Text.FirstBehind token before line → dollars before % 2 = 1) := by
  have hround : ∀ lines next, number ≤ lines.length → Round r lines next →
      number ≤ next.length ∧ mathWeightAt number next < mathWeightAt number lines := by
    rintro lines next hinside ⟨s, hfix, happly⟩
    obtain ⟨next', happly', -, hlength, hlt⟩ := exists_apply_math hcategory hnumber hpos hinside hfix
    obtain rfl := Except.ok.inj (happly.symm.trans happly')
    exact ⟨hlength ▸ hinside, hlt⟩
  constructor
  · refine exists_last_round ?_ hround hinside
    intro lines s hinside hfix
    obtain ⟨next, happly, -⟩ := exists_apply_math hcategory hnumber hpos hinside hfix
    exact ⟨next, happly⟩
  · intro count last hrounds
    obtain ⟨hlast, hcount⟩ := hrounds.count_add_weight_le hround hinside
    have hlt : number - 1 < last.length := by omega
    have hline : last[number - 1]? = some last[number - 1] := List.getElem?_eq_getElem hlt
    refine ⟨?_, ?_, ?_⟩
    · have hbound : mathWeightAt number lines < Nat.pow 2 17 := mathWeightFrom_lt 0 mathTokens _
      omega
    · intro s hfix
      obtain ⟨next, happly, henters, -⟩ := exists_apply_math hcategory hnumber hpos hlast hfix
      exact ⟨next, happly, henters⟩
    · intro hnone
      refine ⟨_, hline, ?_⟩
      intro token htoken before hfirst
      rw [fix?_math hcategory hnumber hpos hline, Option.map_eq_none_iff, ← Option.isNone_iff_eq_none] at hnone
      rcases Nat.mod_two_eq_zero_or_one (dollars before) with heven | hodd
      · have hsome := mathGap?_isSome_iff.mpr ⟨token, htoken, before, hfirst, heven⟩
        simp [Option.isNone_iff_eq_none.mp hnone] at hsome
      · exact hodd

/-- A line with a token in math mode inside an argument of a token outside it. -/
def nestedLines : Document := ["\\frac\x7b$\\omega$\x7d\x7b2\x7d"]

/-- A round takes the inner token out of math mode, and the rounds come to an end all the same. -/
theorem math_rounds_end_nested :
    mathRecord.category = .missingMathDelimiter ∧ mathRecord.line = some ((1 : Nat) : Int) ∧ 1 ≤ 1 ∧
      1 ≤ nestedLines.length ∧ Round mathRecord nestedLines ["$\\frac\x7b$\\omega$\x7d\x7b2\x7d$"] ∧
      ∃ count last, count ≤ Nat.pow 2 17 - 1 ∧ Rounds mathRecord count nestedLines last ∧
        fix? mathRecord last = none := by
  have hinside : 1 ≤ nestedLines.length := Nat.le_refl 1
  obtain ⟨⟨count, last, hrounds, hnone⟩, hall⟩ :=
    math_rounds_end (r := mathRecord) rfl rfl (Nat.le_refl 1) hinside
  exact ⟨rfl, rfl, Nat.le_refl 1, hinside, ⟨_, rfl, rfl⟩, count, last, (hall count last hrounds).1, hrounds, hnone⟩

end Rounds

end TexMend.Repair
