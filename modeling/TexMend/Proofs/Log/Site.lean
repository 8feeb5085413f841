import TexMend.Log.Parse

/-!
# The places where records start

A scan carries a counter and the open file along. Both can be read off the lines alone, so the records of
a log are the records of its sites, numbered from one. Whatever relates two logs is then shown of single
sites.
-/

namespace TexMend.Log

/-- A line that starts a record, with all of the log that the record can depend on but its number and the
number of lines. -/
structure Site where
  /-- How many lines stand before. -/
  index : Nat
  line : Text
  trigger : Trigger
  /-- The file that is open at the line. -/
  file : Option Text
  following : List Text

/-- The sites of the lines from position `index` on, where `file` is open. -/
def sitesFrom : Nat → Option Text → List Text → List Site
  | _, _, [] => []
  | index, file, line :: rest =>
    let file := (openedFile? line).or file
    match Trigger.ofLine? line with
    | some trigger => ⟨index, line, trigger, file, rest⟩ :: sitesFrom (index + 1) file rest
    | none => sitesFrom (index + 1) file rest

/-- The sites of all lines of a log. -/
def sites (lines : List Text) : List Site :=
  sitesFrom 0 none lines

/-- The file that the last of the announcing lines opens. -/
def lastOpened (lines : List Text) : Option Text :=
  (lines.filterMap openedFile?).getLast?

namespace Site

/-- The record of a site in a log of `total` lines. -/
def record (options : Options) (total : Nat) (id : Text) (s : Site) : Record :=
  s.trigger.record options total s.index s.file id s.line s.following

/-- The site with more lines after the last one. -/
def followedBy (lines : List Text) (s : Site) : Site :=
  { s with following := s.following ++ lines }

/-- The site with more lines before the first one, and `file` open at their end. -/
def precededBy (count : Nat) (file : Option Text) (s : Site) : Site :=
  { s with index := count + s.index, file := s.file.or file }

end Site

theorem lastOpened_cons (line : Text) (rest : List Text) :
    lastOpened (line :: rest) = (lastOpened rest).or (openedFile? line) := by
  unfold lastOpened
  cases h : openedFile? line with
  | none => simp [h]
  | some path => cases hr : (rest.filterMap openedFile?).getLast? <;> simp [h, hr, List.getLast?_cons]

/-- The records of a scan are those of the sites, numbered on from what was found before. -/
theorem scan_eq_mapIdx (options : Options) (total index : Nat) (file : Option Text) (found : Nat)
    (lines : List Text) :
    scan options total index file found lines =
      (sitesFrom index file lines).mapIdx fun k s =>
        s.record options total (Record.idOf (found + k + 1)) := by
  induction lines generalizing index file found with
  | nil => rfl
  | cons line rest ih =>
      cases h : Trigger.ofLine? line with
      | none => simp only [scan, sitesFrom, recordAt?, h, Option.map_none, ih]
      | some trigger =>
          have hnext : ∀ k, found + 1 + k + 1 = found + (k + 1) + 1 := by omega
          simp only [scan, sitesFrom, recordAt?, h, Option.map_some, List.mapIdx_cons, ih, hnext]
          rfl

/-- The records of a log are those of its sites, numbered from one. -/
theorem records_eq_mapIdx (options : Options) (log : Text) :
    records options log = (sites (logicalLines log)).mapIdx fun k s =>
      s.record options (logicalLines log).length (Record.idOf (k + 1)) := by
  simp only [records, scan_eq_mapIdx, Nat.zero_add, sites]

/-- Every site of a log gives one record. -/
theorem length_records (options : Options) (log : Text) :
    (records options log).length = (sites (logicalLines log)).length := by
  simp [records_eq_mapIdx]

/-- The lines before a log move its sites and supply the file that none of its own lines opened. -/
theorem sitesFrom_eq_map (index count : Nat) (file file' : Option Text) (lines : List Text) :
    sitesFrom (count + index) (file'.or file) lines =
      (sitesFrom index file' lines).map (Site.precededBy count file) := by
  induction lines generalizing index file' with
  | nil => rfl
  | cons line rest ih =>
      have ih := ih (index + 1) ((openedFile? line).or file')
      rw [Option.or_assoc, ← Nat.add_assoc] at ih
      cases h : Trigger.ofLine? line with
      | none => simp only [sitesFrom, h, ih]
      | some trigger => simp [sitesFrom, h, ih, Site.precededBy, Option.or_assoc]

theorem sitesFrom_append (index : Nat) (file : Option Text) (before after : List Text) :
    sitesFrom index file (before ++ after) =
      (sitesFrom index file before).map (Site.followedBy after) ++
        sitesFrom (index + before.length) ((lastOpened before).or file) after := by
  induction before generalizing index file with
  | nil => rfl
  | cons line rest ih =>
      have hlen : index + 1 + rest.length = index + (line :: rest).length := by
        rw [List.length_cons]
        omega
      have ih := ih (index + 1) ((openedFile? line).or file)
      rw [← Option.or_assoc, ← lastOpened_cons, hlen] at ih
      cases h : Trigger.ofLine? line with
      | none => simp only [List.cons_append, sitesFrom, h, ih]
      | some trigger => simp only [List.cons_append, sitesFrom, h, ih, List.map_cons]; rfl

/-- The sites of lines put one after the other: those of the first lines see more lines after them, those
of the second ones more lines before them. -/
theorem sites_append (before after : List Text) :
    sites (before ++ after) = (sites before).map (Site.followedBy after) ++
      (sites after).map (Site.precededBy before.length (lastOpened before)) := by
  have h := sitesFrom_eq_map 0 before.length (lastOpened before) none after
  simp only [Option.none_or, Nat.add_zero] at h
  rw [sites, sitesFrom_append, Nat.zero_add, Option.or_none, h]
  rfl

namespace Site

theorem record_id (options : Options) (total : Nat) (id : Text) (s : Site) :
    (s.record options total id).id = id := by
  unfold record
  cases s.trigger <;> rfl

/-- A record is an error or a warning. -/
theorem record_severity (options : Options) (total : Nat) (id : Text) (s : Site) :
    (s.record options total id).severity = .error ∨ (s.record options total id).severity = .warning := by
  unfold record
  cases s.trigger with
  | block => exact Or.inl rfl
  | located file line message => exact Or.inl rfl
  | warning => exact Or.inr rfl
  | box => exact Or.inr rfl

/-- No record says that a package is missing. -/
theorem record_category_ne_missingPackage (options : Options) (total : Nat) (id : Text) (s : Site) :
    (s.record options total id).category ≠ .missingPackage := by
  unfold record
  cases s.trigger with
  | block => exact Category.ofMessage_ne_missingPackage _
  | located file line message => exact Category.ofMessage_ne_missingPackage _
  | warning =>
      change warningCategory _ ≠ _
      unfold warningCategory
      dsimp only
      split
      · decide
      · split
        · decide
        · split <;> decide
  | box =>
      change (if _ then Category.overfullBox else Category.underfullBox) ≠ _
      split <;> decide

end Site

/-- Every record of a log comes from one of its sites. -/
theorem exists_site_of_mem_records {options : Options} {log : Text} {r : Record}
    (h : r ∈ records options log) : ∃ (s : Site) (id : Text),
      r = s.record options (logicalLines log).length id := by
  rw [records_eq_mapIdx] at h
  obtain ⟨k, hk, rfl⟩ := List.mem_mapIdx.mp h
  exact ⟨_, _, rfl⟩

theorem category_ne_missingPackage {options : Options} {log : Text} {r : Record}
    (h : r ∈ (parse options log).errors) : r.category ≠ .missingPackage := by
  obtain ⟨s, id, rfl⟩ := exists_site_of_mem_records (List.mem_filter.mp h).1
  exact s.record_category_ne_missingPackage options _ id

/-- The second list holds all records of a log that was read, the `n`-th of them with the `n`-th id. -/
structure ListsById (parsed : ParsedLog) (all : List Record) : Prop where
  perm : all.Perm parsed.records
  id : ∀ k (h : k < all.length), all[k].id = Record.idOf (k + 1)

/-- The records in the order of the log are the errors and warnings in the order of their ids. -/
theorem parse_listsById (options : Options) (log : Text) :
    ListsById (parse options log) (records options log) where
  perm := by
    have hother : (records options log).filter (fun r => r.severity = .warning) =
        (records options log).filter fun r => !decide (r.severity = .error) := by
      apply List.filter_congr
      intro r hr
      rw [records_eq_mapIdx] at hr
      obtain ⟨k, hk, rfl⟩ := List.mem_mapIdx.mp hr
      rcases Site.record_severity options (logicalLines log).length (Record.idOf (k + 1))
        (sites (logicalLines log))[k] with h | h <;> simp [h]
    have hsplit : (parse options log).records =
        (records options log).filter (fun r => r.severity = .error) ++
          (records options log).filter (fun r => !decide (r.severity = .error)) := by
      rw [← hother]
      rfl
    rw [hsplit]
    exact (List.filter_append_perm _ _).symm
  id := by
    intro k hk
    simp only [records_eq_mapIdx, List.getElem_mapIdx, Site.record_id]

end TexMend.Log
