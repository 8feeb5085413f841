import TexMend.Repair.Rule
import TexMend.Proofs.Repair.Rewriting
import TexMend.Proofs.Repair.Place

/-!
# What the rules propose

A rule rewrites the line that the record points at, imports a package, or adds one marker of an
environment. Every fact about the proposed edits is read off these four cases.
-/

namespace TexMend.Repair

/-- Does the record miss a command of the package? -/
def missesPackage (package : Text) (r : Record) : Bool :=
  r.category = .undefinedControlSequence &&
    (token? r).bind (fun command => lookUp command packageOfCommand) = some package

/-- The edits that a record can lead to. -/
inductive Proposal (r : Record) (lines : Document) : Edit → Prop
  | rewriting {number : Nat} {old new : Text} (pointed : pointedLine? r lines = some (number, old))
      (plain : '\n' ∉ old → '\n' ∉ new) : Proposal r lines (replaceLine number old new)
  | importing {package : Text}
      (missed : (missesPackage package r = true ∧ isImported package lines = false) ∨
        r.category = .missingPackage) :
      Proposal r lines (addAfter (importPlace lines) (importLine package))
  | ending {marker : Log.EnvironmentMarker} (category : r.category = .unclosedEnvironment)
      (token : (token? r).bind Log.firstMarker? = some marker)
      (opened : (EnvironmentBalance.of lines marker.name).ends <
        (EnvironmentBalance.of lines marker.name).begins) :
      Proposal r lines (addAfter ((namedLine? r).getD
        ((EnvironmentBalance.of lines marker.name).lastBegin.getD lines.length)) (endMarker marker.name))
  | beginning {marker : Log.EnvironmentMarker} (category : r.category = .unclosedEnvironment)
      (token : (token? r).bind Log.firstMarker? = some marker)
      (closed : (EnvironmentBalance.of lines marker.name).begins <
        (EnvironmentBalance.of lines marker.name).ends) :
      Proposal r lines (addBefore ((namedLine? r).getD
        ((EnvironmentBalance.of lines marker.name).lastEnd.getD 1)) (beginMarker marker.name))

/-- A suggestion of the rules: it is for the record, its edit is a proposal, and its confidence is one. -/
structure Proposed (r : Record) (lines : Document) (s : Suggestion) : Prop where
  errorId : s.errorId = r.id
  origin : s.origin = .rule
  confidence : Suggestion.isConfidence s.confidence = true
  edit : Proposal r lines s.edit

variable {r : Record} {lines : Document} {s : Suggestion}

/-- Up to a hundred hundredths are a confidence. -/
theorem isConfidence_hundredths {hundredths : Nat} (h : hundredths ≤ 100) :
    Suggestion.isConfidence (.decimal hundredths 2) = true := by
  have hall : ∀ hundredths ≤ 100, Suggestion.isConfidence (.decimal hundredths 2) = true := by decide +kernel
  exact hall hundredths h

theorem Proposed.of_suggest {description : Text} {hundredths : Nat} {e : Edit} (h : Proposal r lines e)
    (hle : hundredths ≤ 100) : Proposed r lines (suggest r description hundredths e) where
  errorId := rfl
  origin := rfl
  confidence := isConfidence_hundredths hle
  edit := h

/-- A pointed line exists. -/
theorem pointedLine?_spec {number : Nat} {text : Text} (h : pointedLine? r lines = some (number, text)) :
    1 ≤ number ∧ lines[number - 1]? = some text ∧ text ≠ [] := by
  unfold pointedLine? at h
  split at h
  · cases h
  · next n _ =>
      split at h
      · next hpos =>
          split at h
          · next line hline =>
              split at h
              · cases h
              · next hne =>
                  obtain ⟨rfl, rfl⟩ := Prod.mk.inj (Option.some.inj h)
                  refine ⟨by omega, hline, ?_⟩
                  rintro rfl
                  exact hne rfl
          · cases h
      · cases h

/-- A record points at every line of the document that is not empty. -/
theorem pointedLine?_eq_some {number : Nat} {line : Text} (hnumber : r.line = some (number : Int))
    (hpos : 1 ≤ number) (hline : lines[number - 1]? = some line) (hne : line ≠ []) :
    pointedLine? r lines = some (number, line) := by
  have hpos' : (1 : Int) ≤ number := Int.ofNat_le.mpr hpos
  simp [pointedLine?, hnumber, hpos', hline, hne]

theorem missesPackage_eq_true_iff {package : Text} : missesPackage package r = true ↔
    r.category = .undefinedControlSequence ∧
      ∃ command, token? r = some command ∧ lookUp command packageOfCommand = some package := by
  simp [missesPackage, Option.bind_eq_some_iff]

theorem proposed_of_importForCommand? {command : Text} (hcategory : r.category = .undefinedControlSequence)
    (htoken : token? r = some command) (h : importForCommand? r lines command = some s) :
    Proposed r lines s := by
  unfold importForCommand? at h
  split at h
  · cases h
  · next package hpackage =>
      split at h
      · cases h
      · next himported =>
          rw [← Option.some.inj h]
          refine .of_suggest (.importing (Or.inl ⟨?_, by simpa using himported⟩)) (by decide)
          exact missesPackage_eq_true_iff.mpr ⟨hcategory, command, htoken, hpackage⟩

theorem proposed_of_correctCommand? {command : Text} (h : correctCommand? r lines command = some s) :
    Proposed r lines s := by
  unfold correctCommand? at h
  split at h
  · next correction number line hcorrection hpointed =>
      rw [← Option.some.inj h]
      refine .of_suggest (.rewriting hpointed ?_) (by decide)
      intro hplain hnew
      rcases Text.mem_replaceFirst hnew with hm | hm
      · exact newline_not_mem_typoFix? hcorrection hm
      · exact hplain hm
  · cases h

theorem proposed_of_fixCommand? (hcategory : r.category = .undefinedControlSequence)
    (h : fixCommand? r lines = some s) : Proposed r lines s := by
  unfold fixCommand? at h
  split at h
  · cases h
  · next command htoken =>
      split at h
      · next found himport =>
          obtain rfl := Option.some.inj h
          exact proposed_of_importForCommand? hcategory htoken himport
      · exact proposed_of_correctCommand? h

theorem proposed_of_fixPackage? (hcategory : r.category = .missingPackage)
    (h : fixPackage? r lines = some s) : Proposed r lines s := by
  obtain ⟨package, _, rfl⟩ := Option.map_eq_some_iff.mp h
  exact .of_suggest (.importing (Or.inr hcategory)) (by decide)

theorem proposed_of_fixOpenBrace? (h : fixOpenBrace? r lines = some s) : Proposed r lines s := by
  unfold fixOpenBrace? at h
  split at h
  · cases h
  · next number line hpointed =>
      split at h
      · cases h
      · rw [← Option.some.inj h]
        refine .of_suggest (.rewriting hpointed ?_) (by decide)
        intro hplain
        exact List.not_mem_append hplain (by decide)

theorem proposed_of_fixMath? (h : fixMath? r lines = some s) : Proposed r lines s := by
  unfold fixMath? at h
  split at h
  · cases h
  · next number line hpointed =>
      obtain ⟨gap, hgap, rfl⟩ := Option.map_eq_some_iff.mp h
      exact .of_suggest (.rewriting hpointed (newline_not_mem_wrapped hgap)) (by decide)

theorem proposed_of_fixEnvironment? (hcategory : r.category = .unclosedEnvironment)
    (h : fixEnvironment? r lines = some s) : Proposed r lines s := by
  unfold fixEnvironment? at h
  split at h
  · cases h
  · next marker htoken =>
      dsimp only at h
      split at h
      · next hopen =>
          rw [← Option.some.inj h]
          exact .of_suggest (.ending hcategory htoken hopen) (by decide)
      · split at h
        · next hclosed =>
            rw [← Option.some.inj h]
            exact .of_suggest (.beginning hcategory htoken hclosed) (by decide)
        · cases h

theorem proposed_of_fixSurplusBrace? (h : fixSurplusBrace? r lines = some s) :
    Proposed r lines s := by
  unfold fixSurplusBrace? at h
  split at h
  · cases h
  · next number line hpointed =>
      obtain ⟨position, _, rfl⟩ := Option.map_eq_some_iff.mp h
      exact .of_suggest (.rewriting hpointed (newline_not_mem_removeAt position)) (by decide)

/-- Every fix of the rules is one of the proposals, for the record that they were asked about. -/
theorem proposed_of_fix? (h : fix? r lines = some s) : Proposed r lines s := by
  unfold fix? at h
  cases hcategory : r.category with
  | undefinedControlSequence =>
      rw [hcategory] at h
      exact proposed_of_fixCommand? hcategory h
  | missingPackage =>
      rw [hcategory] at h
      exact proposed_of_fixPackage? hcategory h
  | unclosedBrace =>
      rw [hcategory] at h
      exact proposed_of_fixOpenBrace? h
  | missingMathDelimiter =>
      rw [hcategory] at h
      exact proposed_of_fixMath? h
  | unclosedEnvironment =>
      rw [hcategory] at h
      exact proposed_of_fixEnvironment? hcategory h
  | extraBrace =>
      rw [hcategory] at h
      exact proposed_of_fixSurplusBrace? h
  | _ => simp [hcategory] at h

theorem proposal_of_fix? (h : fix? r lines = some s) : Proposal r lines s.edit :=
  (proposed_of_fix? h).edit

theorem errorId_of_fix? (h : fix? r lines = some s) : s.errorId = r.id :=
  (proposed_of_fix? h).errorId

namespace Proposal

variable {e : Edit}

theorem exists_newText (h : Proposal r lines e) : ∃ new, e.newText = some new := by
  cases h <;> exact ⟨_, rfl⟩

/-- A proposal rewrites a line of the document or inserts one. -/
theorem rewrites_or_inserts (h : Proposal r lines e) :
    (e.action = .replaceLine ∧ e.line ≤ lines.length) ∨ e.action.inserts = true := by
  cases h with
  | @rewriting number old new pointed plain =>
      obtain ⟨hpos, hline, _⟩ := pointedLine?_spec pointed
      obtain ⟨hlt, _⟩ := List.getElem?_eq_some_iff.mp hline
      refine Or.inl ⟨rfl, ?_⟩
      change max 1 number ≤ lines.length
      omega
  | importing missed => exact Or.inr rfl
  | ending category token opened => exact Or.inr rfl
  | beginning category token closed => exact Or.inr rfl

/-- No repair of a record of a log writes a newline into a document. -/
theorem newline_not_mem (h : Proposal r lines e) (hcategory : r.category ≠ .missingPackage)
    (hlines : ∀ line ∈ lines, '\n' ∉ line) {new : Text} (hnew : e.newText = some new) : '\n' ∉ new := by
  cases h with
  | rewriting pointed plain =>
      obtain rfl := Option.some.inj hnew
      obtain ⟨_, hline, _⟩ := pointedLine?_spec pointed
      exact plain (hlines _ (List.mem_of_getElem? hline))
  | importing missed =>
      obtain rfl := Option.some.inj hnew
      obtain ⟨_, command, _, hpackage⟩ := missesPackage_eq_true_iff.mp (missed.resolve_right hcategory).1
      exact newline_not_mem_importLine
        (newline_not_mem_packageOfCommand _ (mem_of_lookUp_eq_some hpackage))
  | @ending marker category token opened =>
      obtain rfl := Option.some.inj hnew
      have hmarker : '\n' ∉ beginMarker marker.name :=
        newline_not_mem_of_occurrences_pos hlines (Nat.zero_lt_of_lt opened)
      exact newline_not_mem_endMarker fun hm => hmarker (mem_beginMarker hm)
  | @beginning marker category token closed =>
      obtain rfl := Option.some.inj hnew
      have hmarker : '\n' ∉ endMarker marker.name :=
        newline_not_mem_of_occurrences_pos hlines (Nat.zero_lt_of_lt closed)
      exact newline_not_mem_beginMarker fun hm => hmarker (mem_endMarker hm)

end Proposal

end TexMend.Repair
