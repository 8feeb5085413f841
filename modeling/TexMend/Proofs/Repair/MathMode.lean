import TexMend.Proofs.Repair.Proposal

/-!
# Tokens outside math mode

The rule looks at the first occurrence of each token only. It proposes a repair exactly if one of these lies
outside math mode, so a token that stands in math mode first is not found where it stands outside later.
-/

namespace TexMend.Repair

section Token

/-- A token is one mark, or a backslash and letters. -/
theorem mathTokens_spelling : ∀ token ∈ mathTokens, token = ['_'] ∨ token = ['^'] ∨
    token = '\\' :: token.tail ∧ token.tail.all Text.isAsciiLetter = true := by
  decide

/-- No token begins another one. -/
theorem mathTokens_prefix_free : ∀ token ∈ mathTokens, ∀ other ∈ mathTokens,
    token.isPrefixOf other = true → token = other := by
  decide

variable {token text : Text}

theorem eq_of_tokens_begin {other : Text} (h : token ∈ mathTokens) (h' : other ∈ mathTokens)
    (hbegins : token <+: text) (hbegins' : other <+: text) : token = other := by
  rcases List.prefix_or_prefix_of_prefix hbegins hbegins' with hle | hle
  · exact mathTokens_prefix_free token h other h' (List.isPrefixOf_iff_prefix.mpr hle)
  · exact (mathTokens_prefix_free other h' token h (List.isPrefixOf_iff_prefix.mpr hle)).symm

/-- A token begins with a mark that does not come in it again. -/
theorem exists_mark (h : token ∈ mathTokens) :
    ∃ mark letters, token = mark :: letters ∧ mark ∈ ['_', '^', '\\'] ∧
      ∀ c ∈ letters, Text.isAsciiLetter c = true := by
  rcases mathTokens_spelling token h with rfl | rfl | ⟨hhead, hletters⟩
  · exact ⟨'_', [], rfl, by decide, by simp⟩
  · exact ⟨'^', [], rfl, by decide, by simp⟩
  · exact ⟨'\\', token.tail, hhead, by decide, List.all_eq_true.mp hletters⟩

/-- The word that an expression begins with holds the whole token. -/
theorem begins_expressionAt? {expression : Text} (h : token ∈ mathTokens) (hbegins : token <+: text)
    (hexpression : expressionAt? text = some expression) : token <+: expression := by
  rcases mathTokens_spelling token h with rfl | rfl | ⟨hhead, hletters⟩
  · obtain ⟨rest, rfl⟩ := hbegins
    cases hexpression
  · obtain ⟨rest, rfl⟩ := hbegins
    cases hexpression
  · obtain ⟨rest, rfl⟩ := hbegins
    generalize token.tail = letters at hhead hletters
    subst hhead
    have hword : letters <+: (letters ++ rest).takeWhile Text.isAsciiLetter := by
      rw [List.takeWhile_append_of_pos (List.all_eq_true.mp hletters)]
      exact List.prefix_append _ _
    unfold expressionAt? at hexpression
    extract_lets slash word head argument mark script at hexpression
    have hstart : '\\' :: letters <+: head := (List.prefix_append_right_inj ['\\']).mpr hword
    split at hexpression
    · cases hexpression
    · rw [← Option.some.inj hexpression, List.append_assoc, List.append_assoc]
      exact hstart.trans (List.prefix_append _ _)

end Token

section Gap

variable {line token : Text}

/-- The gap of a token is the first occurrence of the token, with the expression that it begins. -/
theorem mathGapOf?_spec {gap : MathGap} (h : token ∈ mathTokens) (hgap : mathGapOf? line token = some gap) :
    Text.FirstBehind token gap.before line ∧ dollars gap.before % 2 = 0 ∧ token <+: gap.expression := by
  unfold mathGapOf? at hgap
  split at hgap
  · cases hgap
  · next position hposition =>
      dsimp only at hgap
      split at hgap
      · cases hgap
      · next heven =>
          obtain rfl := Option.some.inj hgap
          refine ⟨Text.firstBehind_of_positionOf? hposition, (Nat.mod_two_eq_zero_or_one _).resolve_right heven, ?_⟩
          cases hexpression : expressionAt? (line.drop position) with
          | none => exact List.prefix_rfl
          | some expression =>
              exact begins_expressionAt? h (Text.prefix_drop_of_positionOf?_eq_some hposition) hexpression

theorem mathGapOf?_isSome_iff (h : token ∈ mathTokens) :
    (mathGapOf? line token).isSome ↔
      ∃ before, Text.FirstBehind token before line ∧ dollars before % 2 = 0 := by
  constructor
  · intro hsome
    obtain ⟨gap, hgap⟩ := Option.isSome_iff_exists.mp hsome
    obtain ⟨hfirst, heven, -⟩ := mathGapOf?_spec h hgap
    exact ⟨gap.before, hfirst, heven⟩
  · rintro ⟨before, hfirst, heven⟩
    obtain ⟨position, hposition, rfl⟩ := hfirst.exists_positionOf?
    have hodd : ¬ dollars (line.take position) % 2 = 1 := by omega
    simp [mathGapOf?, hposition, hodd]

theorem mathGap?_isSome_iff :
    (mathGap? line).isSome ↔
      ∃ token ∈ mathTokens, ∃ before, Text.FirstBehind token before line ∧ dollars before % 2 = 0 := by
  rw [mathGap?, List.findSome?_isSome_iff]
  exact exists_congr fun token => and_congr_right fun h => mathGapOf?_isSome_iff h

end Gap

section Rule

variable {r : Record} {lines : Document} {number : Nat} {line : Text}

/-- The repair of a line in math mode, where there is a gap. -/
theorem fix?_math (hcategory : r.category = .missingMathDelimiter) (hnumber : r.line = some (number : Int))
    (hpos : 1 ≤ number) (hline : lines[number - 1]? = some line) :
    fix? r lines = (mathGap? line).map fun gap =>
      suggest r ("Wrap \"" ++ gap.expression ++ "\" in math mode ($...$)") 75
        (replaceLine number line gap.wrapped) := by
  rw [fix?, hcategory]
  change fixMath? r lines = _
  cases line with
  | nil =>
      have hnone : mathGap? [] = none := rfl
      simp [fixMath?, pointedLine?, hnumber, hline, hnone]
  | cons c cs =>
      rw [fixMath?, pointedLine?_eq_some hnumber hpos hline (List.cons_ne_nil c cs)]

/-- The rule proposes a repair exactly if the first occurrence of some token lies outside math mode. So it
finds a token outside math mode whenever there is one, on every line on which no token stands in math mode
first and outside it later. -/
theorem math_repair_iff (hcategory : r.category = .missingMathDelimiter)
    (hnumber : r.line = some (number : Int)) (hpos : 1 ≤ number) (hline : lines[number - 1]? = some line) :
    ((fix? r lines).isSome ↔
      ∃ token ∈ mathTokens, ∃ before, Text.FirstBehind token before line ∧ dollars before % 2 = 0) ∧
    ((∀ token ∈ mathTokens, ∀ first later, Text.FirstBehind token first line → later ++ token <+: line →
        dollars first % 2 = 1 → dollars later % 2 = 1) →
      ((fix? r lines).isSome ↔
        ∃ token ∈ mathTokens, ∃ before, before ++ token <+: line ∧ dollars before % 2 = 0)) := by
  have hfirst : (fix? r lines).isSome ↔
      ∃ token ∈ mathTokens, ∃ before, Text.FirstBehind token before line ∧ dollars before % 2 = 0 := by
    rw [fix?_math hcategory hnumber hpos hline, Option.isSome_map, mathGap?_isSome_iff]
  refine ⟨hfirst, ?_⟩
  intro horder
  rw [hfirst]
  constructor
  · rintro ⟨token, htoken, before, hbefore, heven⟩
    exact ⟨token, htoken, before, hbefore.stands, heven⟩
  · rintro ⟨token, htoken, later, hlater, heven⟩
    obtain ⟨position, hposition⟩ := Option.isSome_iff_exists.mp (Text.isSome_positionOf?_of_stands hlater)
    have hbefore := Text.firstBehind_of_positionOf? hposition
    refine ⟨token, htoken, line.take position, hbefore, ?_⟩
    rcases Nat.mod_two_eq_zero_or_one (dollars (line.take position)) with h | h
    · exact h
    · have hodd := horder token htoken _ later hbefore hlater h
      omega

/-- A record that misses math mode on the first line. -/
def mathRecord : Record where
  id := "err_1"
  severity := .error
  category := .missingMathDelimiter
  message := "Missing $ inserted: math mode required here"
  rawLog := "! Missing $ inserted."
  file := none
  line := some (1 : Nat)
  offendingText := none

/-- A token on a line without any dollar sign is found. -/
theorem math_repair_iff_bare_token :
    mathRecord.category = .missingMathDelimiter ∧ mathRecord.line = some ((1 : Nat) : Int) ∧ 1 ≤ 1 ∧
      (["an \\alpha"] : Document)[1 - 1]? = some ("an \\alpha" : Text) ∧
      (fix? mathRecord ["an \\alpha"]).isSome := by
  have hline : (["an \\alpha"] : Document)[1 - 1]? = some ("an \\alpha" : Text) := rfl
  refine ⟨rfl, rfl, Nat.le_refl 1, hline, ?_⟩
  apply ((math_repair_iff rfl rfl (Nat.le_refl 1) hline).2 ?_).mpr
  · exact ⟨"\\alpha", by decide, "an ", by decide, by decide⟩
  · intro token _ first later hfirst _ hodd
    have hbefore : first <+: "an \\alpha".toList := (List.prefix_append first token).trans hfirst.stands
    have hnone : dollars first ≤ 0 := hbefore.sublist.count_le '$'
    omega

/-- A token that stands in math mode first is not found where it stands outside later. -/
theorem token_behind_math_not_found :
    ¬ ((fix? mathRecord ["$x_1$ y_2"]).isSome ↔
      ∃ token ∈ mathTokens, ∃ before : Text, before ++ token <+: ("$x_1$ y_2" : Text) ∧
        dollars before % 2 = 0) := by
  have hnone : (fix? mathRecord ["$x_1$ y_2"]).isSome = false := by rfl
  have hlater : ("$x_1$ y" : Text) ++ ("_" : Text) <+: ("$x_1$ y_2" : Text) := by decide
  rw [hnone]
  intro h
  cases h.mpr ⟨"_", by decide, "$x_1$ y", hlater, by decide⟩

end Rule

end TexMend.Repair
