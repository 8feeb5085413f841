import TexMend.Proofs.Repair.Proposal
import TexMend.Proofs.Repair.Rounds
import TexMend.Proofs.Repair.Surroundings

/-!
# What a repair comes to

A record may name any line, and a document may have none. Still, whatever line a rule computes for its edit is above
zero, so every repair passes the checks of edits and suggestions. Applied, it replaces one line that is not empty, or
adds one line, and keeps all others.
-/

namespace TexMend

open Edit

/-- The position at which an insertion adds its line. -/
def Edit.position (e : Edit) : Nat :=
  if e.action = .insertBefore then e.line - 1 else e.line

namespace Repair

/-- The line that a record names. No line at all stands for the first one, and so does line zero. -/
def lineOrFirst (r : Record) : Int :=
  match r.line with
  | some n => if n = 0 then 1 else n
  | none => 1

/-- The line that the rules write into an edit with this action, as they compute it: nothing has checked it yet. -/
def aimedLine (r : Record) (lines : Document) (action : EditAction) : Int :=
  match action, r.category, (token? r).bind Log.firstMarker? with
  | .replaceLine, _, _ => lineOrFirst r
  | .insertAfter, .unclosedEnvironment, some marker =>
    ((namedLine? r).getD ((EnvironmentBalance.of lines marker.name).lastBegin.getD (max 1 lines.length)) : Nat)
  | .insertBefore, .unclosedEnvironment, some marker =>
    ((namedLine? r).getD ((EnvironmentBalance.of lines marker.name).lastEnd.getD 1) : Nat)
  | _, _, _ => importPlace lines

/-- What a repair does to a document: the text of one line gives way to another, or one line is added. -/
inductive Effect (lines : Document) (e : Edit) : Prop
  | replaces {before after : Document} {old new : Text} (action : e.action = .replaceLine)
      (parts : lines = before ++ old :: after) (place : before.length + 1 = e.line) (filled : old ≠ [])
      (original : e.originalText = some old) (text : e.newText = some new)
      (result : e.apply lines = .ok (before ++ new :: after)) : Effect lines e
  | adds {new : Text} (action : e.action = .insertBefore ∨ e.action = .insertAfter)
      (original : e.originalText = none) (text : e.newText = some new)
      (result : e.position ≤ positionLimit → ∃ before after, lines = before ++ after ∧
        before.length = min e.position lines.length ∧ e.apply lines = .ok (before ++ new :: after)) : Effect lines e

/-- A suggestion that a rule can make for a record, and a reader can rely on. -/
structure WellMade (r : Record) (lines : Document) (s : Suggestion) : Prop where
  errorId : s.errorId = r.id
  origin : s.origin = .rule
  confidence : Suggestion.isConfidence s.confidence = true
  line_pos : 1 ≤ s.edit.line
  /-- The line as it is computed passes the check of edits. -/
  edit_made : Edit.make s.edit.action (aimedLine r lines s.edit.action) none s.edit.newText s.edit.originalText =
    .ok s.edit
  /-- The confidence passes the check of suggestions. -/
  made : Suggestion.make r.id s.description .rule s.edit s.confidence = .ok s
  effect : Effect lines s.edit

section Aim

variable {r : Record} {lines : Document} {e : Edit}

/-- The parts of an edit without a range make the edit. -/
theorem make_eq_ok (hrange : e.action ≠ .replaceRange) (hend : e.endLine = none) :
    Edit.make e.action e.line none e.newText e.originalText = .ok e := by
  have hpos : (1 : Int) ≤ e.line := by exact_mod_cast e.line_pos
  rw [Edit.make, dif_pos hpos, dif_neg hrange]
  cases e
  simp_all

theorem line_of_pointedLine? {number : Nat} {text : Text} (h : pointedLine? r lines = some (number, text)) :
    r.line = some (number : Int) := by
  unfold pointedLine? at h
  split at h
  · cases h
  · next n hline =>
      split at h
      · next hpos =>
          split at h
          · next line _ =>
              split at h
              · cases h
              · obtain ⟨rfl, -⟩ := Prod.mk.inj (Option.some.inj h)
                rw [hline, Int.toNat_of_nonneg (by omega)]
          · cases h
      · cases h

theorem one_le_of_namedLine? {number : Nat} (h : namedLine? r = some number) : 1 ≤ number := by
  unfold namedLine? at h
  split at h
  · split at h
    · obtain rfl := Option.some.inj h
      omega
    · cases h
  · cases h

/-- The place of a marker needs no lower bound but for a document without lines. -/
theorem max_one_placeOf (r : Record) (marker : Text) (lines : Document) (other : Nat) :
    max 1 ((namedLine? r).getD ((lastLineWith? marker lines).getD other)) =
      (namedLine? r).getD ((lastLineWith? marker lines).getD (max 1 other)) := by
  cases hnamed : namedLine? r with
  | some number => exact Nat.max_eq_right (one_le_of_namedLine? hnamed)
  | none =>
      cases hlast : lastLineWith? marker lines with
      | some place => exact Nat.max_eq_right (lastLineFrom_bounds hlast).1
      | none => rfl

/-- The line of a proposal is the one that the rules compute. -/
theorem aimedLine_eq (h : Proposal r lines e) : aimedLine r lines e.action = (e.line : Int) := by
  cases h with
  | @rewriting number old new pointed plain =>
      obtain ⟨hpos, -, -⟩ := pointedLine?_spec pointed
      have hline : (replaceLine number old new).line = number := Nat.max_eq_right hpos
      have hne : number ≠ 0 := Nat.ne_of_gt hpos
      rw [hline]
      simp [aimedLine, replaceLine, lineOrFirst, line_of_pointedLine? pointed, hne]
  | @importing package missed =>
      have hplace : (addAfter (importPlace lines) (importLine package)).line = importPlace lines :=
        Nat.max_eq_right (Nat.le_max_left 1 _)
      have hcategory : r.category ≠ .unclosedEnvironment := by
        rcases missed with ⟨hmissed, -⟩ | hmissing
        · rw [(missesPackage_eq_true_iff.mp hmissed).1]
          decide
        · rw [hmissing]
          decide
      rw [hplace]
      simp [aimedLine, addAfter, hcategory]
  | @ending marker category token opened =>
      have hplace := max_one_placeOf r (beginMarker marker.name) lines lines.length
      simp only [aimedLine, addAfter, category, token]
      exact congrArg Nat.cast hplace.symm
  | @beginning marker category token closed =>
      have hplace := max_one_placeOf r (endMarker marker.name) lines 1
      simp only [aimedLine, addBefore, category, token]
      exact congrArg Nat.cast hplace.symm

end Aim

section Effect

variable {r : Record} {lines : Document} {e : Edit}

/-- An insertion adds its line at its position, or at the end of a shorter document. -/
theorem effect_of_insertAt {new : Text} (haction : e.action = .insertBefore ∨ e.action = .insertAfter)
    (horiginal : e.originalText = none) (hnew : e.newText = some new)
    (happly : e.apply lines = insertAt e.position new lines) : Effect lines e := by
  refine .adds haction horiginal hnew ?_
  intro hfits
  refine ⟨lines.take e.position, lines.drop e.position, (List.take_append_drop _ _).symm, List.length_take, ?_⟩
  rw [happly, insertAt, if_pos hfits]

theorem effect_replaceLine {number : Nat} {old : Text} (new : Text)
    (hpointed : pointedLine? r lines = some (number, old)) : Effect lines (replaceLine number old new) := by
  obtain ⟨hpos, hline, hfilled⟩ := pointedLine?_spec hpointed
  obtain ⟨hlt, -⟩ := List.getElem?_eq_some_iff.mp hline
  obtain ⟨before, line, after, rfl, hlen⟩ := exists_eq_append_cons hpos (Nat.le_of_pred_lt hlt)
  have hindex : number - 1 = before.length := by omega
  obtain rfl : line = old := by simpa [hindex] using hline
  refine .replaces rfl rfl (hlen.trans (Nat.max_eq_right hpos).symm) hfilled rfl rfl ?_
  rw [apply_replaceLine hpos, hindex]
  simp

theorem Proposal.endLine_eq_none (h : Proposal r lines e) : e.endLine = none := by
  cases h <;> rfl

theorem Proposal.effect (h : Proposal r lines e) : Effect lines e := by
  cases h with
  | rewriting pointed plain => exact effect_replaceLine _ pointed
  | importing missed => exact effect_of_insertAt (Or.inr rfl) rfl rfl rfl
  | ending category token opened => exact effect_of_insertAt (Or.inr rfl) rfl rfl rfl
  | beginning category token closed => exact effect_of_insertAt (Or.inl rfl) rfl rfl rfl

/-- For every record and every document the rules propose nothing, or one suggestion that is well made. -/
theorem fix_none_or_wellMade (r : Record) (lines : Document) :
    fix? r lines = none ∨ ∃ s, fix? r lines = some s ∧ WellMade r lines s := by
  cases hfix : fix? r lines with
  | none => exact Or.inl rfl
  | some s =>
      have hproposed := proposed_of_fix? hfix
      have heffect := hproposed.edit.effect
      have hrange : s.edit.action ≠ .replaceRange := by
        rcases heffect with ⟨haction⟩ | ⟨haction | haction⟩ <;> simp [haction]
      refine Or.inr ⟨s, rfl, hproposed.errorId, hproposed.origin, hproposed.confidence, s.edit.line_pos, ?_, ?_,
        heffect⟩
      · rw [aimedLine_eq hproposed.edit]
        exact make_eq_ok hrange hproposed.edit.endLine_eq_none
      · rw [Suggestion.make, if_pos hproposed.confidence, ← hproposed.errorId, ← hproposed.origin]

end Effect

end Repair

end TexMend
