import Mathlib.Data.List.Forall2
import TexMend.Proofs.Log.LineForm
import TexMend.Proofs.Log.OpenFile

/-!
# The records of a log, by the grammar of its lines

The lines that start a record are those of which a form decides, whatever the reader looks at after them.
Each gives one record, in the order of the lines, and the form of the line says what the record is.
-/

namespace TexMend.Log

/-! ## The places of the sites -/

/-- The site at a position, read off the lines without a scan. -/
def siteAt? (lines : List Text) (index : Nat) : Option Site :=
  lines[index]?.bind fun line => (Trigger.ofLine? line).map fun trigger =>
    ⟨index, line, trigger, lastOpened (lines.take (index + 1)), lines.drop (index + 1)⟩

theorem siteAt?_cons_succ (line : Text) (rest : List Text) (index : Nat) :
    siteAt? (line :: rest) (index + 1) =
      (siteAt? rest index).map (Site.precededBy 1 (openedFile? line)) := by
  unfold siteAt?
  rw [List.getElem?_cons_succ]
  cases rest[index]? with
  | none => rfl
  | some later =>
      cases h : Trigger.ofLine? later with
      | none => simp [h]
      | some trigger => simp [h, Site.precededBy, lastOpened_cons, Nat.add_comm 1]

/-- The sites of a log are those at its positions, in order. -/
theorem sites_eq_filterMap (lines : List Text) :
    sites lines = (List.range lines.length).filterMap (siteAt? lines) := by
  induction lines with
  | nil => rfl
  | cons line rest ih =>
      have hopened : lastOpened [line] = openedFile? line := by simp [lastOpened]
      have hsites := sites_append [line] rest
      rw [List.singleton_append, hopened, ih, List.map_filterMap] at hsites
      have hrange : List.range (line :: rest).length = 0 :: (List.range rest.length).map Nat.succ :=
        List.range_succ_eq_map
      rw [hsites, hrange, List.filterMap_cons, List.filterMap_map]
      simp only [Function.comp_def, Nat.succ_eq_add_one, siteAt?_cons_succ, List.length_singleton]
      cases h : Trigger.ofLine? line with
      | none => simp [sites, sitesFrom, siteAt?, h]
      | some trigger => simp [sites, sitesFrom, siteAt?, h, Site.followedBy, hopened]

theorem siteAt?_eq_some_iff {lines : List Text} {index : Nat} {s : Site} :
    siteAt? lines index = some s ↔ lines[index]? = some s.line ∧
      Trigger.ofLine? s.line = some s.trigger ∧ s.index = index ∧
      s.file = lastOpened (lines.take (index + 1)) ∧ s.following = lines.drop (index + 1) := by
  simp only [siteAt?, Option.bind_eq_some_iff, Option.map_eq_some_iff]
  constructor
  · rintro ⟨line, hline, trigger, htrigger, rfl⟩
    exact ⟨hline, htrigger, rfl, rfl, rfl⟩
  · rintro ⟨hline, htrigger, rfl, hfile, hfollowing⟩
    exact ⟨s.line, hline, s.trigger, htrigger, by rw [← hfile, ← hfollowing]⟩

/-- A site is at its place in the log. -/
theorem siteAt?_index_of_mem_sites {lines : List Text} {s : Site} (h : s ∈ sites lines) :
    siteAt? lines s.index = some s := by
  rw [sites_eq_filterMap] at h
  obtain ⟨index, -, hsite⟩ := List.mem_filterMap.mp h
  rwa [(siteAt?_eq_some_iff.mp hsite).2.2.1]

/-- The positions, in order, are those of the lines of which a form decides. -/
structure StartPlaces (lines : List Text) (places : List Nat) : Prop where
  increasing : places.Pairwise (· < ·)
  mem_iff : ∀ index, index ∈ places ↔
    ∃ line, lines[index]? = some line ∧ ∃ form : LineForm, form.Decides line

theorem startPlaces_sites (lines : List Text) : StartPlaces lines ((sites lines).map Site.index) where
  increasing := by
    rw [List.pairwise_map, sites_eq_filterMap, List.pairwise_filterMap]
    apply List.pairwise_lt_range.imp
    intro i j hij s hs t ht
    rw [(siteAt?_eq_some_iff.mp hs).2.2.1, (siteAt?_eq_some_iff.mp ht).2.2.1]
    exact hij
  mem_iff := by
    intro index
    rw [List.mem_map]
    constructor
    · rintro ⟨s, hs, rfl⟩
      obtain ⟨hline, htrigger, -⟩ := siteAt?_eq_some_iff.mp (siteAt?_index_of_mem_sites hs)
      exact ⟨s.line, hline, exists_decides_of_ofLine? htrigger⟩
    · rintro ⟨line, hline, form, hform⟩
      obtain ⟨hindex, -⟩ := List.getElem?_eq_some_iff.mp hline
      refine ⟨⟨index, line, form.trigger, lastOpened (lines.take (index + 1)), lines.drop (index + 1)⟩,
        ?_, rfl⟩
      rw [sites_eq_filterMap, List.mem_filterMap]
      exact ⟨index, List.mem_range.mpr hindex,
        siteAt?_eq_some_iff.mpr ⟨hline, ofLine?_of_decides hform, rfl, rfl, rfl⟩⟩

/-- What holds of the record of every site holds of the records of a log, place by place. -/
theorem forall₂_places_records {options : Options} {log : Text} {p : Nat → Record → Prop}
    (h : ∀ s ∈ sites (logicalLines log), ∀ id,
      p s.index (s.record options (logicalLines log).length id)) :
    List.Forall₂ p ((sites (logicalLines log)).map Site.index) (records options log) := by
  rw [records_eq_mapIdx, List.forall₂_iff_get]
  refine ⟨by simp, ?_⟩
  intro k hk hk'
  simp only [List.get_eq_getElem, List.getElem_map, List.getElem_mapIdx]
  exact h _ (List.getElem_mem _) _

/-! ## What the form says of the record -/

/-- The blanks that are left out before the message are stripped from it anyway. -/
theorem strip_bareRest (rest : Text) : Text.strip (LineForm.bareRest rest) = Text.strip rest := by
  unfold LineForm.bareRest
  split
  · next hblank =>
      have hrest : ∀ c ∈ rest, Text.isBlank c = true :=
        fun c hc => Text.isBlank_of_isAsciiBlank (List.dropWhile_eq_nil_iff.mp hblank c hc)
      rw [Text.strip_eq_nil hrest, Text.strip_eq_nil fun c hc => hrest c (List.mem_of_mem_drop hc)]
  · rw [Text.strip, Text.dropWhile_dropWhile_of_imp (fun _ => Text.isBlank_of_isAsciiBlank), ← Text.strip]

/-- What a form says of the record of its line, of which `lines` are all up to and including it. -/
def LineForm.Yields (lines : List Text) (r : Record) : LineForm → Prop
  | block => r.severity = .error ∧ LeavesOpen lines r.file
  | located file digits rest =>
    r.severity = .error ∧ r.file = some file ∧
      r.line = (if digits.length ≤ 4300 then some (Text.digitsValue digits : Int) else none) ∧
      r.message = Text.strip rest
  | warning | box => r.severity = .warning ∧ LeavesOpen lines r.file

theorem Site.yields {lines : List Text} {s : Site} {form : LineForm} (hform : form.trigger = s.trigger)
    (hfile : LeavesOpen lines s.file) (options : Options) (total : Nat) (id : Text) :
    form.Yields lines (s.record options total id) := by
  unfold record
  rw [← hform]
  cases form with
  | block => exact ⟨rfl, hfile⟩
  | warning => exact ⟨rfl, hfile⟩
  | box => exact ⟨rfl, hfile⟩
  | located file digits rest =>
      refine ⟨rfl, rfl, ?_, strip_bareRest rest⟩
      change sourceLine? digits = _
      by_cases hlength : digits.length ≤ 4300
      · have hread : Text.readDigits? digits = some (Text.digitsValue digits) := if_pos hlength
        rw [if_pos hlength, sourceLine?, hread]
        rfl
      · have hread : Text.readDigits? digits = none := if_neg hlength
        rw [if_neg hlength, sourceLine?, hread]
        rfl

/-- The records of a log are those of the lines of which a form decides, one for each and in their order,
with what the form says. -/
theorem records_follow_grammar (options : Options) (log : Text) :
    ∃ (places : List Nat) (all : List Record),
      StartPlaces (logicalLines log) places ∧ ListsById (parse options log) all ∧
      (parse options log).errors = all.filter (fun r => r.severity = .error) ∧
      (parse options log).warnings = all.filter (fun r => r.severity = .warning) ∧
      List.Forall₂ (fun index r => ∃ line form, (logicalLines log)[index]? = some line ∧
        form.Decides line ∧ (∀ other : LineForm, other.Decides line → other = form) ∧
        form.Yields ((logicalLines log).take (index + 1)) r) places all := by
  refine ⟨_, records options log, startPlaces_sites _, parse_listsById options log, rfl, rfl,
    forall₂_places_records ?_⟩
  intro s hs id
  obtain ⟨hline, htrigger, -, hfile, -⟩ := siteAt?_eq_some_iff.mp (siteAt?_index_of_mem_sites hs)
  obtain ⟨form, hform, hsays⟩ := ofLine?_eq_some_iff.mp htrigger
  have hopen : LeavesOpen ((logicalLines log).take (s.index + 1)) s.file := by
    rw [hfile]
    exact leavesOpen_lastOpened _
  exact ⟨s.line, form, hline, hform, fun _ hother => hother.unique hform,
    Site.yields hsays hopen options _ id⟩

end TexMend.Log
