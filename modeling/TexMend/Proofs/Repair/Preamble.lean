import TexMend.Proofs.Repair.AddedLine

/-!
# Imports in the preamble

An import goes right below the last line of the preamble that imports something, and to the end of the preamble if
none does, so it always stands above the body. A line that imports a package is recognised as such whatever the
package is called, and so the package is not asked for again.
-/

namespace TexMend.Repair

open Edit

/-- An import belongs between the lines `above` and `below` of a preamble: right below the last line that imports
something, or at the end if none does. -/
inductive ImportBelongs : Document → Document → Prop
  | belowLast {above below : Document} {last : Text} (imports : importCommand <:+: last)
      (none_below : ∀ line ∈ below, ¬ importCommand <:+: line) : ImportBelongs (above ++ [last]) below
  | atEnd {preamble : Document} (none_above : ∀ line ∈ preamble, ¬ importCommand <:+: line) :
      ImportBelongs preamble []

/-- The first line that begins the body is `body`: it is not the first line of the document and imports nothing. -/
structure BodyBegins (preamble : Document) (body : Text) : Prop where
  preamble_ne_nil : preamble ≠ []
  none_before : ∀ line ∈ preamble, ¬ bodyMarker <:+: line
  begins : bodyMarker <:+: body
  imports_nothing : ¬ importCommand <:+: body

section Place

variable {preamble above below rest : Document} {body : Text}

/-- Every preamble has a place where imports belong. -/
theorem exists_importBelongs (preamble : Document) : ∃ above below, preamble = above ++ below ∧ ImportBelongs above below := by
  induction preamble with
  | nil => exact ⟨[], [], rfl, .atEnd nofun⟩
  | cons line preamble ih =>
      obtain ⟨above, below, rfl, hbelongs⟩ := ih
      cases hbelongs with
      | @belowLast above _ last imports none_below =>
          exact ⟨line :: above ++ [last], below, by simp, .belowLast imports none_below⟩
      | atEnd none_above =>
          by_cases himports : importCommand <:+: line
          · have hlast : ImportBelongs ([] ++ [line]) above := .belowLast himports none_above
            exact ⟨[line], above, by simp, hlast⟩
          · exact ⟨line :: above, [], by simp, .atEnd (List.forall_mem_cons.mpr ⟨himports, none_above⟩)⟩

theorem importPlaceFrom_cons_of_not_begins {line : Text} (h : ¬ bodyMarker <:+: line) (found before : Nat)
    (rest : Document) : importPlaceFrom found before (line :: rest) =
      importPlaceFrom (if Text.includes importCommand line then before + 1 else found) (before + 1) rest := by
  rw [← Text.includes_iff_infix] at h
  simp only [importPlaceFrom, if_neg h]

/-- The scan ends at the body. -/
theorem importPlaceFrom_body (h : BodyBegins preamble body) (found before : Nat) (rest : Document) :
    importPlaceFrom found before (body :: rest) = if found = 0 then before else found := by
  have hbegins := Text.includes_iff_infix.mpr h.begins
  have himports := mt Text.includes_iff_infix.mp h.imports_nothing
  simp only [importPlaceFrom, if_pos hbegins, if_neg himports]

/-- Lines that import nothing leave the place that is found so far. -/
theorem importPlaceFrom_append {lines : Document} (hbody : ∀ line ∈ lines, ¬ bodyMarker <:+: line)
    (himport : ∀ line ∈ lines, ¬ importCommand <:+: line) (found before : Nat) (rest : Document) :
    importPlaceFrom found before (lines ++ rest) = importPlaceFrom found (before + lines.length) rest := by
  induction lines generalizing before with
  | nil => rfl
  | cons line lines ih =>
      obtain ⟨hbody, hbodies⟩ := List.forall_mem_cons.mp hbody
      obtain ⟨himport, himports⟩ := List.forall_mem_cons.mp himport
      rw [List.cons_append, importPlaceFrom_cons_of_not_begins hbody,
        if_neg (mt Text.includes_iff_infix.mp himport), ih hbodies himports, List.length_cons,
        Nat.add_right_comm, Nat.add_assoc]

/-- Behind the last import its number is the place, whatever was found before. -/
theorem importPlaceFrom_last {last : Text} (hbody : ∀ line ∈ above ++ [last], ¬ bodyMarker <:+: line)
    (himports : importCommand <:+: last) (found before : Nat) (rest : Document) :
    importPlaceFrom found before (above ++ [last] ++ rest) =
      importPlaceFrom (before + above.length + 1) (before + above.length + 1) rest := by
  induction above generalizing found before with
  | nil =>
      have hlast := hbody last (List.mem_singleton.mpr rfl)
      rw [List.nil_append, List.singleton_append, importPlaceFrom_cons_of_not_begins hlast,
        if_pos (Text.includes_iff_infix.mpr himports)]
      rfl
  | cons line above ih =>
      rw [List.cons_append, List.forall_mem_cons] at hbody
      rw [List.cons_append, List.cons_append, importPlaceFrom_cons_of_not_begins hbody.1, ih hbody.2,
        List.length_cons, Nat.add_right_comm before 1, Nat.add_assoc before]

/-- The place of an import is below the lines above which it does not belong. -/
theorem importPlace_eq_length (h : BodyBegins (above ++ below) body) (hbelongs : ImportBelongs above below)
    (rest : Document) : importPlace (above ++ (below ++ body :: rest)) = above.length := by
  unfold importPlace
  cases hbelongs with
  | @belowLast above _ last imports none_below =>
      obtain ⟨habove, hbelow⟩ := List.forall_mem_append.mp h.none_before
      rw [importPlaceFrom_last habove imports, importPlaceFrom_append hbelow none_below, importPlaceFrom_body h,
        List.length_append, List.length_singleton, if_neg (by omega)]
      omega
  | atEnd none_above =>
      have hbodies := h.none_before
      have hpos := List.length_pos_iff.mpr h.preamble_ne_nil
      rw [List.append_nil] at hbodies hpos
      rw [importPlaceFrom_append hbodies none_above, List.nil_append, importPlaceFrom_body h, if_pos rfl]
      omega

end Place

section Recognition

variable {package : Text} {lines : Document}

theorem importLine_eq (package : Text) : importLine package = importCommand ++ '{' :: (package ++ ['}']) := by
  have hlead : ("\\usepackage\x7b" : Text) = importCommand ++ ['{'] := by decide
  calc importLine package
    _ = importCommand ++ ['{'] ++ package ++ ['}'] := congrArg (· ++ package ++ ['}']) hlead
    _ = importCommand ++ '{' :: (package ++ ['}']) := by simp only [List.append_assoc, List.cons_append, List.nil_append]

/-- A package is found where its name stands, whatever characters it has. -/
theorem namesPackage_append (package : Text) : namesPackage package (package ++ ['}']) = true := by
  obtain ⟨c, cs, hcons⟩ := List.exists_cons_of_ne_nil (List.concat_ne_nil '}' package)
  have hbegins : package.isPrefixOf (c :: cs) = true := by
    rw [← hcons]
    exact List.isPrefixOf_iff_prefix.mpr (List.prefix_append package ['}'])
  have hcloses : closesOnLine ((c :: cs).drop package.length) = true := by
    rw [← hcons, List.drop_left]
    decide
  rw [hcons, namesPackage, hbegins, hcloses]
  rfl

theorem lineImports_importLine (package : Text) : lineImports package (importLine package) = true := by
  have hat : importsAt package (importLine package) = true := by
    rw [importLine_eq, importsAt, Text.after?_append]
    exact namesPackage_append package
  rw [lineImports, Text.firstAt?_isSome_iff]
  exact ⟨importLine package, List.suffix_rfl, by rw [if_pos hat]; rfl⟩

/-- A document with the line that imports a package imports it. -/
theorem isImported_of_mem (h : importLine package ∈ lines) : isImported package lines = true :=
  List.any_eq_true.mpr ⟨_, h, lineImports_importLine package⟩

end Recognition

section Import

variable {r : Record} {s : Suggestion} {package body : Text} {preamble rest : Document}

/-- An import that is proposed for a document with a preamble is added there, right below the last import or else
right above the body, and nothing else changes. The document then imports the package, and no undefined command asks
for it again. (A document has no more lines than there are positions.) -/
theorem import_added_above_body (hbody : BodyBegins preamble body) (hfix : fix? r (preamble ++ body :: rest) = some s)
    (hadds : s.edit.inserted? = some (importLine package)) :
    ((r.category = .missingPackage ∧ token? r = some package) ∨
      (missesPackage package r = true ∧ isImported package (preamble ++ body :: rest) = false)) ∧
    ((preamble ++ body :: rest).length ≤ positionLimit → ∃ next, s.edit.apply (preamble ++ body :: rest) = .ok next) ∧
    ∀ next, s.edit.apply (preamble ++ body :: rest) = .ok next →
      (∃ above below, preamble = above ++ below ∧ ImportBelongs above below ∧
        next = above ++ importLine package :: (below ++ body :: rest)) ∧
      isImported package next = true ∧
      ∀ r' s', r'.category = .undefinedControlSequence → fix? r' next = some s' →
        s'.edit.inserted? ≠ some (importLine package) := by
  obtain ⟨above, below, rfl, hbelongs⟩ := exists_importBelongs preamble
  have hplace := importPlace_eq_length hbody hbelongs rest
  have hone : 1 ≤ above.length := by
    rw [← hplace]
    exact Nat.le_max_left ..
  have hedit : s.edit.apply (above ++ (below ++ body :: rest)) =
      insertAt above.length (importLine package) (above ++ (below ++ body :: rest)) := by
    rw [List.append_assoc] at hfix
    rw [edit_eq_of_adds_import hfix hadds, hplace]
    change insertAt (max 1 above.length) _ _ = _
    rw [Nat.max_eq_right hone]
  rw [List.append_assoc] at hfix ⊢
  refine ⟨?_, ?_, ?_⟩
  · rw [← addsImport_iff, addedLine?, hfix]
    exact hadds
  · intro hfits
    have hposition : above.length ≤ positionLimit := by
      rw [List.length_append] at hfits
      omega
    exact ⟨_, hedit.trans (insertAt_length_append hposition)⟩
  · intro next happly
    have hnext : above ++ importLine package :: (below ++ body :: rest) = next := by
      rw [hedit, insertAt] at happly
      split at happly
      · rw [← Except.ok.inj happly, List.take_left, List.drop_left]
      · cases happly
    have himported : isImported package next = true := by
      apply isImported_of_mem
      rw [← hnext]
      exact List.mem_append_right above List.mem_cons_self
    refine ⟨⟨above, below, rfl, hbelongs, hnext.symm⟩, himported, ?_⟩
    intro r' s' hcategory hfix' hadds'
    have hagain : addedLine? r' next = some (importLine package) := by
      rw [addedLine?, hfix']
      exact hadds'
    have hnone := ((addedLine?_eq_importLine_iff (by simp [hcategory])).mp hagain).2
    rw [himported] at hnone
    cases hnone

/-- A record of a command that a package defines. -/
def alphabetRecord : Record where
  id := "err_1"
  severity := .error
  category := .undefinedControlSequence
  message := "Undefined control sequence: \\mathbb"
  rawLog := "! Undefined control sequence."
  file := none
  line := some (5 : Nat)
  offendingText := some "\\mathbb".toList

/-- A preamble with an import between other lines. -/
def shortPreamble : Document := ["\\documentclass\x7barticle\x7d", "\\usepackage\x7burl\x7d", "% text"]

theorem bodyBegins_shortPreamble : BodyBegins shortPreamble bodyMarker where
  preamble_ne_nil := List.cons_ne_nil _ _
  none_before := by
    have hnone : ∀ line ∈ shortPreamble, Text.includes bodyMarker line = false := by decide
    intro line hline
    rw [← Text.includes_iff_infix, hnone line hline]
    exact Bool.false_ne_true
  begins := List.infix_rfl
  imports_nothing := by
    have hnone : Text.includes importCommand bodyMarker = false := by decide
    rw [← Text.includes_iff_infix, hnone]
    exact Bool.false_ne_true

/-- The import goes between the one that is there and the rest of the preamble. -/
theorem import_added_above_body_behind_import :
    BodyBegins shortPreamble bodyMarker ∧
      ∃ s, fix? alphabetRecord (shortPreamble ++ bodyMarker :: ["$\\mathbb\x7bR\x7d$"]) = some s ∧
        s.edit.inserted? = some (importLine "amssymb") ∧
        (shortPreamble ++ bodyMarker :: ["$\\mathbb\x7bR\x7d$"]).length ≤ positionLimit ∧
        ∃ next, s.edit.apply (shortPreamble ++ bodyMarker :: ["$\\mathbb\x7bR\x7d$"]) = .ok next ∧
          isImported "amssymb" next = true ∧ ∀ s', fix? alphabetRecord next = some s' →
            s'.edit.inserted? ≠ some (importLine "amssymb") := by
  have hfix : fix? alphabetRecord (shortPreamble ++ bodyMarker :: ["$\\mathbb\x7bR\x7d$"]) =
      some (suggest alphabetRecord "Add \\usepackage\x7bamssymb\x7d (provides \\mathbb)" 95
        (addAfter 2 (importLine "amssymb"))) := rfl
  have hfits : (shortPreamble ++ bodyMarker :: ["$\\mathbb\x7bR\x7d$"]).length ≤ positionLimit := by decide
  obtain ⟨-, happlies, hadded⟩ := import_added_above_body bodyBegins_shortPreamble hfix rfl
  obtain ⟨next, happly⟩ := happlies hfits
  obtain ⟨-, himported, hnever⟩ := hadded next happly
  exact ⟨bodyBegins_shortPreamble, _, hfix, rfl, hfits, next, happly, himported, fun s' => hnever _ s' rfl⟩

end Import

end TexMend.Repair
