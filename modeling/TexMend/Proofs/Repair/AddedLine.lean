import TexMend.Proofs.Repair.Proposal
import TexMend.Proofs.Repair.SharedLine

/-!
# Lines that a repair adds

A rule adds an import, or the beginning or the end of an environment. The three forms of lines differ, so the line
tells which rule added it, and when.
-/

namespace TexMend.Repair

open Edit

/-- Does the record name the environment? -/
def namesEnvironment (name : Text) (r : Record) : Bool :=
  r.category = .unclosedEnvironment &&
    ((token? r).bind Log.firstMarker?).map Log.EnvironmentMarker.name = some name

/-- The line that the rules add for a record. -/
def addedLine? (r : Record) (lines : Document) : Option Text :=
  (fix? r lines).bind fun s => s.edit.inserted?

section Markers

theorem enclosed_inj {lead name name' tail : Text} :
    lead ++ name ++ tail = lead ++ name' ++ tail ↔ name = name' := by
  rw [List.append_cancel_right_eq, List.append_cancel_left_eq]

theorem importLine_inj {package package' : Text} :
    importLine package = importLine package' ↔ package = package' :=
  enclosed_inj

theorem endMarker_inj {name name' : Text} : endMarker name = endMarker name' ↔ name = name' :=
  enclosed_inj

theorem beginMarker_inj {name name' : Text} : beginMarker name = beginMarker name' ↔ name = name' :=
  enclosed_inj

/-- Texts that differ in one place are different. -/
theorem ne_of_getElem?_eq {first second : Text} (position : Nat) (c d : Char)
    (hfirst : first[position]? = some c) (hsecond : second[position]? = some d) (h : c ≠ d) :
    first ≠ second := by
  rintro rfl
  exact h (Option.some.inj (hfirst.symm.trans hsecond))

-- the letter after the backslash tells the three lines apart
theorem importLine_ne_endMarker (package name : Text) : importLine package ≠ endMarker name :=
  ne_of_getElem?_eq 1 'u' 'e' rfl rfl (by decide)

theorem importLine_ne_beginMarker (package name : Text) : importLine package ≠ beginMarker name :=
  ne_of_getElem?_eq 1 'u' 'b' rfl rfl (by decide)

theorem endMarker_ne_beginMarker (name name' : Text) : endMarker name ≠ beginMarker name' :=
  ne_of_getElem?_eq 1 'e' 'b' rfl rfl (by decide)

end Markers

section AddedLine

variable {r : Record} {lines : Document}

theorem namesEnvironment_eq_true_iff {name : Text} : namesEnvironment name r = true ↔
    r.category = .unclosedEnvironment ∧
      ∃ marker, (token? r).bind Log.firstMarker? = some marker ∧ marker.name = name := by
  simp only [namesEnvironment, Bool.and_eq_true, decide_eq_true_eq, Option.map_eq_some_iff]

/-- A line that a record adds belongs to a proposal that inserts it. -/
theorem exists_proposal_of_addedLine? {text : Text} (h : addedLine? r lines = some text) :
    ∃ e, Proposal r lines e ∧ e.inserted? = some text := by
  obtain ⟨s, hs, hadded⟩ := Option.bind_eq_some_iff.mp h
  exact ⟨s.edit, proposal_of_fix? hs, hadded⟩

/-- An import is added for a record that misses the package, unless the document has one. -/
theorem addedLine?_eq_importLine_iff {package : Text} (hcategory : r.category ≠ .missingPackage) :
    addedLine? r lines = some (importLine package) ↔
      missesPackage package r = true ∧ isImported package lines = false := by
  constructor
  · intro h
    obtain ⟨e, hproposal, hadded⟩ := exists_proposal_of_addedLine? h
    -- the other proposals rewrite a line, or add one of another form
    cases hproposal with
    | rewriting pointed plain => cases hadded
    | importing missed =>
        obtain rfl := importLine_inj.mp (Option.some.inj hadded)
        exact missed.resolve_right hcategory
    | ending category token opened =>
        exact absurd (Option.some.inj hadded).symm (importLine_ne_endMarker _ _)
    | beginning category token closed =>
        exact absurd (Option.some.inj hadded).symm (importLine_ne_beginMarker _ _)
  · rintro ⟨hmissed, himported⟩
    obtain ⟨hcommand, command, htoken, hpackage⟩ := missesPackage_eq_true_iff.mp hmissed
    simp only [addedLine?, fix?, hcommand, fixCommand?, htoken, importForCommand?, hpackage, himported]
    rfl

/-- An import is added for a record that names the package, and for one that misses it in a document without it. -/
theorem addsImport_iff {package : Text} : addedLine? r lines = some (importLine package) ↔
    (r.category = .missingPackage ∧ token? r = some package) ∨
      (missesPackage package r = true ∧ isImported package lines = false) := by
  by_cases hcategory : r.category = .missingPackage
  · have hadded : addedLine? r lines = (token? r).map importLine := by
      simp only [addedLine?, fix?, hcategory, fixPackage?]
      cases token? r <;> rfl
    have hmissed : missesPackage package r = false := by
      rw [Bool.eq_false_iff, Ne, missesPackage_eq_true_iff, hcategory]
      exact nofun
    simp [hadded, hcategory, hmissed, importLine_inj]
  · rw [addedLine?_eq_importLine_iff hcategory]
    simp only [hcategory, false_and, false_or]

/-- The import that a fix adds goes to its place in the document. -/
theorem edit_eq_of_adds_import {s : Suggestion} {package : Text} (h : fix? r lines = some s)
    (hadds : s.edit.inserted? = some (importLine package)) :
    s.edit = addAfter (importPlace lines) (importLine package) := by
  have hproposal := proposal_of_fix? h
  generalize s.edit = e at hadds hproposal
  cases hproposal with
  | rewriting pointed plain => cases hadds
  | importing missed => rw [Option.some.inj hadds]
  | ending category token opened => exact absurd (Option.some.inj hadds).symm (importLine_ne_endMarker _ _)
  | beginning category token closed =>
      exact absurd (Option.some.inj hadds).symm (importLine_ne_beginMarker _ _)

/-- An end is added for a record that names the environment, if it begins more often than it ends. -/
theorem addedLine?_eq_endMarker_iff {name : Text} :
    addedLine? r lines = some (endMarker name) ↔ namesEnvironment name r = true ∧
      (EnvironmentBalance.of lines name).ends < (EnvironmentBalance.of lines name).begins := by
  constructor
  · intro h
    obtain ⟨e, hproposal, hadded⟩ := exists_proposal_of_addedLine? h
    cases hproposal with
    | rewriting pointed plain => cases hadded
    | importing missed => exact absurd (Option.some.inj hadded) (importLine_ne_endMarker _ _)
    | ending category token opened =>
        obtain rfl := endMarker_inj.mp (Option.some.inj hadded)
        exact ⟨namesEnvironment_eq_true_iff.mpr ⟨category, _, token, rfl⟩, opened⟩
    | beginning category token closed =>
        exact absurd (Option.some.inj hadded).symm (endMarker_ne_beginMarker _ _)
  · rintro ⟨hnames, hopened⟩
    obtain ⟨hcategory, marker, htoken, rfl⟩ := namesEnvironment_eq_true_iff.mp hnames
    simp only [addedLine?, fix?, hcategory, fixEnvironment?, htoken, hopened, if_true]
    rfl

/-- A beginning is added for a record that names the environment, if it ends more often than it begins. -/
theorem addedLine?_eq_beginMarker_iff {name : Text} :
    addedLine? r lines = some (beginMarker name) ↔ namesEnvironment name r = true ∧
      (EnvironmentBalance.of lines name).begins < (EnvironmentBalance.of lines name).ends := by
  constructor
  · intro h
    obtain ⟨e, hproposal, hadded⟩ := exists_proposal_of_addedLine? h
    cases hproposal with
    | rewriting pointed plain => cases hadded
    | importing missed => exact absurd (Option.some.inj hadded) (importLine_ne_beginMarker _ _)
    | ending category token opened =>
        exact absurd (Option.some.inj hadded) (endMarker_ne_beginMarker _ _)
    | beginning category token closed =>
        obtain rfl := beginMarker_inj.mp (Option.some.inj hadded)
        exact ⟨namesEnvironment_eq_true_iff.mpr ⟨category, _, token, rfl⟩, closed⟩
  · rintro ⟨hnames, hclosed⟩
    obtain ⟨hcategory, marker, htoken, rfl⟩ := namesEnvironment_eq_true_iff.mp hnames
    simp only [addedLine?, fix?, hcategory, fixEnvironment?, htoken, Nat.lt_asymm hclosed, hclosed,
      if_false, if_true]
    rfl

end AddedLine

end TexMend.Repair
