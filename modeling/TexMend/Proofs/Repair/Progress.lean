import TexMend.Proofs.Repair.Balance
import TexMend.Proofs.Repair.Correction
import TexMend.Proofs.Repair.Fixes
import TexMend.Proofs.Repair.Nesting
import TexMend.Proofs.Repair.Reach
import TexMend.Proofs.Diagnosis.Lookup

/-!
# Fixes that change something

An added line changes every document, and the rules for braces and for math mode change the line that they rewrite.
The correction of a misspelled command is proposed without a look at the line, so it changes nothing where the command
is not on it.
-/

namespace TexMend

open Edit

/-- The edit can be applied to the lines, and gives other lines. -/
def Edit.Changes (e : Edit) (lines : Document) : Prop :=
  ∃ next, e.apply lines = .ok next ∧ next ≠ lines

namespace Repair

variable {r : Record} {lines : Document} {s : Suggestion} {old new : Text}

/-- The record complains about a command that is not on the line it points at. -/
def LacksCommand (r : Record) (lines : Document) : Prop :=
  r.category = .undefinedControlSequence ∧ ∃ command number line, token? r = some command ∧
    pointedLine? r lines = some (number, line) ∧ ¬ command <:+: line

section Edits

/-- An insertion changes the lines, unless its position is one that no list of lines has. -/
theorem changes_iff_of_insertAt {e : Edit} {position : Nat} (happly : e.apply lines = insertAt position new lines)
    (hoverflows : e.overflows = decide (positionLimit < position)) : e.Changes lines ↔ e.overflows = false := by
  rw [hoverflows, decide_eq_false_iff_not, Nat.not_lt]
  constructor
  · rintro ⟨next, hnext, -⟩
    rw [happly, insertAt] at hnext
    split at hnext
    · next hle => exact hle
    · cases hnext
  · intro hle
    have hnext : e.apply lines = .ok (lines.take position ++ new :: lines.drop position) := by
      rw [happly, insertAt, if_pos hle]
    refine ⟨_, hnext, ?_⟩
    intro hsame
    have hlength := (addsLine_of_insertAt (happly ▸ hnext)).length_eq
    rw [hsame] at hlength
    omega

/-- A replacement changes the lines if the new text is another one. -/
theorem changes_replaceLine_iff {number : Nat} (hpos : 1 ≤ number) (hline : lines[number - 1]? = some old) :
    (replaceLine number old new).Changes lines ↔ new ≠ old := by
  have hset : lines.set (number - 1) new = lines ↔ new = old := by
    constructor
    · intro hsame
      have hnew : (lines.set (number - 1) new)[number - 1]? = some new := getElem?_set_of_getElem? hline
      rw [hsame, hline] at hnew
      exact (Option.some.inj hnew).symm
    · rintro rfl
      exact set_of_getElem? hline
  rw [Changes, apply_replaceLine hpos]
  constructor
  · rintro ⟨next, hnext, hchanged⟩
    rw [← Except.ok.inj hnext] at hchanged
    exact mt hset.mpr hchanged
  · intro hne
    exact ⟨_, rfl, mt hset.mp hne⟩

end Edits

section Rewriting

/-- How a rule rewrites the line that the record points at. -/
inductive Rewriting (r : Record) (old : Text) : Text → Prop
  | correcting {command correction : Text} (category : r.category = .undefinedControlSequence)
      (token : token? r = some command) (typo : typoFix? command = some correction) :
      Rewriting r old (Text.replaceFirst command correction old)
  | closing (category : r.category = .unclosedBrace) : Rewriting r old (old ++ ['}'])
  | wrapping {gap : MathGap} (category : r.category = .missingMathDelimiter) (found : mathGap? old = some gap) :
      Rewriting r old gap.wrapped
  | dropping {position : Nat} (category : r.category = .extraBrace) (found : surplusClosing? old = some position) :
      Rewriting r old (removeAt position old)

/-- A fix that replaces a line rewrites the one that the record points at. -/
theorem exists_rewriting_of_fix? (hfix : fix? r lines = some s) (hreplaces : s.edit.action = .replaceLine) :
    ∃ number old new, pointedLine? r lines = some (number, old) ∧ s.edit = replaceLine number old new ∧
      Rewriting r old new := by
  cases hcategory : r.category with
  | undefinedControlSequence =>
      cases htoken : token? r with
      | none => simp [fix?, hcategory, fixCommand?, htoken] at hfix
      | some command =>
          obtain ⟨number, line, correction, htypo, hpointed, hedit⟩ :=
            exists_correction_of_fix? hcategory htoken hfix hreplaces
          exact ⟨number, line, _, hpointed, hedit, .correcting hcategory htoken htypo⟩
  | missingPackage =>
      simp only [fix?, hcategory, fixPackage?] at hfix
      obtain ⟨package, -, rfl⟩ := Option.map_eq_some_iff.mp hfix
      cases hreplaces
  | unclosedBrace =>
      simp only [fix?, hcategory, fixOpenBrace?] at hfix
      split at hfix
      · cases hfix
      · next number line hpointed =>
          split at hfix
          · cases hfix
          · obtain rfl := Option.some.inj hfix
            exact ⟨number, line, _, hpointed, rfl, .closing hcategory⟩
  | missingMathDelimiter =>
      simp only [fix?, hcategory, fixMath?] at hfix
      split at hfix
      · cases hfix
      · next number line hpointed =>
          obtain ⟨gap, hgap, rfl⟩ := Option.map_eq_some_iff.mp hfix
          exact ⟨number, line, _, hpointed, rfl, .wrapping hcategory hgap⟩
  | unclosedEnvironment =>
      simp only [fix?, hcategory, fixEnvironment?] at hfix
      split at hfix
      · cases hfix
      · split at hfix
        · obtain rfl := Option.some.inj hfix
          cases hreplaces
        · split at hfix
          · obtain rfl := Option.some.inj hfix
            cases hreplaces
          · cases hfix
  | extraBrace =>
      simp only [fix?, hcategory, fixSurplusBrace?] at hfix
      split at hfix
      · cases hfix
      · next number line hpointed =>
          obtain ⟨position, hposition, rfl⟩ := Option.map_eq_some_iff.mp hfix
          exact ⟨number, line, _, hpointed, rfl, .dropping hcategory hposition⟩
  | _ => simp [fix?, hcategory] at hfix

theorem length_wrapped {gap : MathGap} (h : mathGap? old = some gap) : gap.wrapped.length = old.length + 2 := by
  rw [eq_append_of_mathGap?_eq_some h, MathGap.wrapped]
  simp only [List.length_append, List.length_cons]
  omega

/-- Only a correction may leave its line as it is, where the command is not on it. -/
theorem Rewriting.ne_iff (h : Rewriting r old new) :
    new ≠ old ↔ ∀ command, r.category = .undefinedControlSequence → token? r = some command → command <:+: old := by
  cases h with
  | correcting category token typo =>
      rw [replaceFirst_ne_iff (typoFix?_ne typo)]
      constructor
      · intro hon command _ htoken
        obtain rfl := Option.some.inj (token.symm.trans htoken)
        exact hon
      · intro hon
        exact hon _ category token
  | closing category => simp [category]
  | wrapping category found =>
      simp only [category, reduceCtorEq, false_implies, implies_true, iff_true]
      intro hsame
      have hlength := length_wrapped found
      rw [hsame] at hlength
      omega
  | dropping category found =>
      simp only [category, reduceCtorEq, false_implies, implies_true, iff_true]
      intro hsame
      have hone := overclosing_eq_add_one found
      rw [hsame] at hone
      omega

end Rewriting

section Rule

/-- A fix changes the lines, unless it cannot be applied or corrects a command that is not on its line. -/
theorem changes_iff_of_fix? (h : fix? r lines = some s) :
    s.edit.Changes lines ↔ s.edit.overflows = false ∧ ¬ (s.edit.action = .replaceLine ∧ LacksCommand r lines) := by
  by_cases hreplaces : s.edit.action = .replaceLine
  · obtain ⟨number, old, new, hpointed, hedit, hrewriting⟩ := exists_rewriting_of_fix? h hreplaces
    obtain ⟨hpos, hline, -⟩ := pointedLine?_spec hpointed
    have hfits : s.edit.overflows = false := by
      rw [hedit]
      rfl
    have hlacks : ¬ LacksCommand r lines ↔
        ∀ command, r.category = .undefinedControlSequence → token? r = some command → command <:+: old := by
      constructor
      · intro hnot command hcategory htoken
        by_contra hoff
        exact hnot ⟨hcategory, command, number, old, htoken, hpointed, hoff⟩
      · rintro hon ⟨hcategory, command, number', line, htoken, hpointed', hoff⟩
        obtain ⟨-, rfl⟩ := Prod.mk.inj (Option.some.inj (hpointed.symm.trans hpointed'))
        exact hoff (hon command hcategory htoken)
    rw [hfits, hedit, changes_replaceLine_iff hpos hline, hrewriting.ne_iff, ← hlacks]
    simp [replaceLine]
  · simp only [hreplaces, false_and, not_false_eq_true, and_true]
    have hproposal := proposal_of_fix? h
    generalize s.edit = e at hreplaces hproposal
    cases hproposal with
    | rewriting => exact absurd rfl hreplaces
    | importing => exact changes_iff_of_insertAt rfl (overflows_addAfter ..)
    | ending => exact changes_iff_of_insertAt rfl (overflows_addAfter ..)
    | beginning => exact changes_iff_of_insertAt rfl (overflows_addBefore ..)

end Rule

end Repair

namespace Diagnoser

open Repair Assist

/-- Each fix of a diagnosis is for one of the errors. Applied alone it changes the source, unless it is to be inserted
at a position that no list of lines has, or corrects a command that is not on the line to which its error points. -/
theorem fix_changes_iff (d : Diagnoser) {log source : Text} {s : Suggestion}
    (h : s ∈ (d.diagnose log source).fixes) :
    ∃ r ∈ (d.diagnose log source).parsed.errors, r.id = s.errorId ∧
      (s.edit.Changes (Text.splitLines source) ↔ s.edit.overflows = false ∧
        ¬ (s.edit.action = .replaceLine ∧ LacksCommand r (Text.splitLines source))) := by
  obtain ⟨r, hr, hfix⟩ := Diagnosis.mem_fixes_of.mp h
  exact ⟨r, hr, (errorId_of_fix? hfix).symm, changes_iff_of_fix? hfix⟩

/-- A log that complains about a misspelled command on the first line. -/
def misspellingLog : Text :=
  "! Undefined control sequence.\nl.1 \\itm".toList

theorem edits_misspelling : (({} : Diagnoser).diagnose misspellingLog "\\itm one".toList).edits =
    [replaceLine 1 "\\itm one".toList "\\item one".toList] := by
  rfl

/-- A command that is on its line is corrected. -/
theorem fix_changes_iff_misspelling :
    ∃ s ∈ (({} : Diagnoser).diagnose misspellingLog "\\itm one".toList).fixes,
      s.edit.Changes (Text.splitLines "\\itm one".toList) := by
  have hmem : replaceLine 1 "\\itm one".toList "\\item one".toList ∈
      (({} : Diagnoser).diagnose misspellingLog "\\itm one".toList).edits := by
    rw [edits_misspelling]
    exact List.mem_singleton_self _
  obtain ⟨s, hs, hedit⟩ := List.mem_map.mp hmem
  obtain ⟨r, hr, -, hchanges⟩ := fix_changes_iff {} hs
  refine ⟨s, hs, hchanges.mpr ⟨by rw [hedit]; rfl, ?_⟩⟩
  rintro ⟨-, -, command, number, line, htoken, hpointed, hoff⟩
  obtain rfl := List.mem_singleton.mp hr
  have hcommand : command = "\\itm".toList := (Option.some.inj htoken).symm
  have hline : line = "\\itm one".toList := (Prod.mk.inj (Option.some.inj hpointed)).2.symm
  rw [hcommand, hline] at hoff
  exact hoff ⟨[], " one".toList, rfl⟩

/-- The correction of a command that the source does not hold any more is a fix that changes nothing. Because of it no
text service is asked. -/
theorem idle_correction_proposed :
    ∃ s ∈ (({} : Diagnoser).diagnose misspellingLog "\\item one".toList).fixes,
      s.edit.apply (Text.splitLines "\\item one".toList) = .ok (Text.splitLines "\\item one".toList) ∧
      ∀ (a : Assistant) (p : Provider), (({ assistant := a } : Diagnoser).requestFix p
        (({} : Diagnoser).diagnose misspellingLog "\\item one".toList) s.errorId "\\item one".toList).sent = [] := by
  exact ⟨_, List.mem_singleton_self _, rfl, fun a p => rfl⟩

end Diagnoser

end TexMend
