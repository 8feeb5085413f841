import TexMend.Proofs.Log.Identity

/-!
# Numbers of the records

One counter runs through the errors and the warnings of a log. The numbers go up within each of the two, a
search by number finds the record that stands at that number, and a category is either one of errors or one
of warnings, so the records of a category come in the order of the log. Nothing of this depends on how far a
reader looks ahead.
-/

namespace TexMend

/-- Which record it is, how bad, and in which file. -/
def Record.signature (r : Record) : Text × Severity × Option Text :=
  (r.id, r.severity, r.file)

namespace Log

/-- The numbers in the ids of the records go up. -/
def NumberedUp (rs : List Record) : Prop :=
  ∃ numbers : List Nat, numbers.Pairwise (· < ·) ∧ rs.map Record.id = numbers.map Record.idOf

theorem NumberedUp.sublist {rs all : List Record} (h : NumberedUp all) (hsub : rs.Sublist all) :
    NumberedUp rs := by
  obtain ⟨numbers, hup, hids⟩ := h
  have hsublist : (rs.map Record.id).Sublist (numbers.map Record.idOf) := hids ▸ hsub.map Record.id
  obtain ⟨some, hsome, hrs⟩ := List.sublist_map_iff.mp hsublist
  exact ⟨some, hup.sublist hsome, hrs⟩

namespace ListsById

variable {parsed : ParsedLog} {all : List Record}

theorem numberedUp (h : ListsById parsed all) : NumberedUp all := by
  refine ⟨(List.range all.length).map (· + 1), ?_, ?_⟩
  · rw [List.pairwise_map]
    exact List.pairwise_lt_range.imp fun hlt => Nat.succ_lt_succ hlt
  · rw [h.map_id, List.map_map]
    rfl

/-- A search for the id with a number finds what is listed at this number. -/
theorem find?_idOf (h : ListsById parsed all) (n : Nat) : parsed.find? (Record.idOf (n + 1)) = all[n]? := by
  have hfound : ∀ r, parsed.find? (Record.idOf (n + 1)) = some r ↔ all[n]? = some r := by
    intro r
    rw [ParsedLog.find?, find?_key_eq_some_iff h.nodup, ← h.perm.mem_iff, List.getElem?_eq_some_iff]
    constructor
    · rintro ⟨hr, hid⟩
      obtain ⟨k, hk, rfl⟩ := List.mem_iff_getElem.mp hr
      obtain rfl : k = n := Nat.succ.inj (Record.idOf_inj.mp ((h.id k hk).symm.trans hid))
      exact ⟨hk, rfl⟩
    · rintro ⟨hn, rfl⟩
      exact ⟨List.getElem_mem hn, h.id n hn⟩
  exact Option.ext hfound

end ListsById

/-! ## Categories of errors and of warnings -/

variable {options : Options} {log : Text} {r : Record}

/-- No message of an error is about what a warning can be about. -/
theorem ofMessage_not_mem_warningCategories (message : Text) :
    Category.ofMessage message ∉ warningCategories := by
  unfold Category.ofMessage
  dsimp only
  repeat' split
  all_goals decide

theorem Site.category_not_mem_of_error {s : Site} {total : Nat} {id : Text}
    (h : (s.record options total id).severity = .error) :
    (s.record options total id).category ∉ warningCategories := by
  unfold record at h ⊢
  cases htrigger : s.trigger with
  | block => exact ofMessage_not_mem_warningCategories _
  | located file line message => exact ofMessage_not_mem_warningCategories _
  | warning => rw [htrigger] at h; cases h
  | box => rw [htrigger] at h; cases h

theorem category_not_mem_warningCategories (h : r ∈ (parse options log).errors) :
    r.category ∉ warningCategories := by
  obtain ⟨hr, hseverity⟩ := List.mem_filter.mp h
  obtain ⟨s, id, rfl⟩ := exists_site_of_mem_records hr
  exact s.category_not_mem_of_error (by simpa using hseverity)

/-- Errors and warnings have no category in common. -/
theorem disjoint_categories (options : Options) (log : Text) :
    ((parse options log).errors.map Record.category).Disjoint
      ((parse options log).warnings.map Record.category) := by
  intro c herror hwarning
  obtain ⟨e, he, rfl⟩ := List.mem_map.mp herror
  obtain ⟨w, hw, hcategory⟩ := List.mem_map.mp hwarning
  exact category_not_mem_warningCategories he (hcategory ▸ category_mem_warningCategories hw)

/-- The category of a record tells how bad it is. -/
theorem severity_of_mem_records (h : r ∈ records options log) :
    (r.category ∈ warningCategories → r.severity = .warning) ∧
      (r.category ∉ warningCategories → r.severity = .error) := by
  obtain ⟨s, id, rfl⟩ := exists_site_of_mem_records h
  rcases s.record_severity options (logicalLines log).length id with hseverity | hseverity
  · exact ⟨fun hmem => absurd hmem (s.category_not_mem_of_error hseverity), fun _ => hseverity⟩
  · exact ⟨fun _ => hseverity, fun hmem => absurd (s.category_mem_of_warning hseverity) hmem⟩

section Severity

variable {rs : List Record} {c : Category} {severity other : Severity}

/-- If all records of a category are equally bad, those that are as bad hold all of them. -/
theorem filter_filter_of_severity (h : ∀ r ∈ rs, r.category = c → r.severity = severity) :
    (rs.filter fun r => r.severity = severity).filter (fun r => r.category = c) =
      rs.filter fun r => r.category = c := by
  rw [List.filter_filter]
  apply List.filter_congr
  intro r hr
  by_cases hc : r.category = c
  · simp [h r hr hc]
  · simp [hc]

/-- The others hold none. -/
theorem filter_filter_eq_nil (h : ∀ r ∈ rs, r.category = c → r.severity = severity)
    (hother : other ≠ severity) :
    (rs.filter fun r => r.severity = other).filter (fun r => r.category = c) = [] := by
  rw [List.filter_filter, List.filter_eq_nil_iff]
  intro r hr hboth
  rw [Bool.and_eq_true, decide_eq_true_iff, decide_eq_true_iff] at hboth
  exact hother (hboth.2.symm.trans (h r hr hboth.1))

end Severity

/-- The records of a category come in the order of the log, though the errors are looked through first. -/
theorem ofCategory_parse (options : Options) (log : Text) (c : Category) :
    (parse options log).ofCategory c = (records options log).filter fun r => r.category = c := by
  have hsplit : (parse options log).ofCategory c =
      ((records options log).filter fun r => r.severity = .error).filter (fun r => r.category = c) ++
        ((records options log).filter fun r => r.severity = .warning).filter (fun r => r.category = c) :=
    List.filter_append _ _
  have hne : Severity.error ≠ .warning := by decide
  rw [hsplit]
  by_cases hc : c ∈ warningCategories
  · have hwarnings : ∀ r ∈ records options log, r.category = c → r.severity = .warning :=
      fun r hr hcategory => (severity_of_mem_records hr).1 (hcategory ▸ hc)
    rw [filter_filter_eq_nil hwarnings hne, filter_filter_of_severity hwarnings, List.nil_append]
  · have herrors : ∀ r ∈ records options log, r.category = c → r.severity = .error :=
      fun r hr hcategory => (severity_of_mem_records hr).2 (hcategory ▸ hc)
    rw [filter_filter_eq_nil herrors hne.symm, filter_filter_of_severity herrors, List.append_nil]

/-! ## What does not depend on the options -/

theorem Site.signature_record (options other : Options) (total total' : Nat) (id : Text) (s : Site) :
    (s.record options total id).signature = (s.record other total' id).signature := by
  unfold record
  cases s.trigger <;> rfl

/-- However far a reader looks ahead, the same lines start records. -/
theorem map_signature_records (options other : Options) (log : Text) :
    (records options log).map Record.signature = (records other log).map Record.signature := by
  apply List.ext_getElem?
  intro k
  simp only [records_eq_mapIdx, List.getElem?_map, List.getElem?_mapIdx, Option.map_map]
  congr 1
  funext s
  exact s.signature_record options other _ _ _

/-- The errors and warnings of a log are numbered from one on in the order of the log, whatever the
options are. -/
theorem records_numbered (options other : Options) (log : Text) :
    let parsed := parse options log
    let all := records options log
    (all.Perm parsed.records ∧ parsed.errors.Sublist all ∧ parsed.warnings.Sublist all) ∧
      all.map Record.id = (List.range all.length).map (fun n => Record.idOf (n + 1)) ∧
      (parsed.records.map Record.id).Nodup ∧
      (NumberedUp parsed.errors ∧ NumberedUp parsed.warnings) ∧
      (∀ n, parsed.find? (Record.idOf (n + 1)) = all[n]?) ∧
      (parsed.errors.map Record.category).Disjoint (parsed.warnings.map Record.category) ∧
      (∀ c, parsed.ofCategory c = all.filter fun r => r.category = c) ∧
      all.map Record.signature = (records other log).map Record.signature := by
  intro parsed all
  have hlists : ListsById parsed all := parse_listsById options log
  exact ⟨⟨hlists.perm, List.filter_sublist, List.filter_sublist⟩, hlists.map_id, hlists.nodup,
    ⟨hlists.numberedUp.sublist List.filter_sublist, hlists.numberedUp.sublist List.filter_sublist⟩,
    hlists.find?_idOf, disjoint_categories options log, ofCategory_parse options log,
    map_signature_records options other log⟩

end Log

end TexMend
