import TexMend.Proofs.Log.Site
import TexMend.Proofs.Log.Unwrapping

/-!
# Logs put one after the other

Two runs of a compiler may write to one log. A record looks ahead over a bounded number of lines and back
only for the open file, so the joined log has the records of both, and few of them change.
-/

namespace TexMend

/-- What a record keeps whatever lines come after its log. -/
structure Record.KeepsHead (before after : Record) : Prop where
  id : after.id = before.id
  severity : after.severity = before.severity
  file : after.file = before.file
  category : before.severity = .error → after.category = before.category

/-- The `k`-th record, counted from zero, of a log that stands behind `count` records, where `file` is
open. -/
def Record.behind (count : Nat) (file : Option Text) (k : Nat) (r : Record) : Record :=
  { r with id := Record.idOf (count + k + 1), file := r.file.or file }

namespace Log

/-- How many lines after its own a record can depend on. -/
def Options.reach (options : Options) : Nat :=
  max options.contextLines.toNat options.warningContinuationLines.toNat

/-- A log that goes on in another one after a newline. -/
def joinLogs (first second : Text) : Text :=
  first ++ '\n' :: second

/-- A joined log has the lines of the first log and then those of the second. -/
theorem logicalLines_joinLogs {first second : Text} (hreturn : first.getLast? ≠ some '\r')
    (hwidth : ∀ raw, (Text.splitLines (unifyNewlines first)).getLast? = some raw →
      raw.length ≠ wrapWidth) :
    logicalLines (joinLogs first second) = logicalLines first ++ logicalLines second := by
  have hnewline : unifyNewlines ('\n' :: second) = '\n' :: unifyNewlines second := by
    simp [unifyNewlines]
  unfold logicalLines joinLogs
  rw [unifyNewlines_append hreturn, hnewline, Text.splitLines_append_newline, rejoin_append hwidth]

/-- The mark of a written document stands on one line, so it is in one of the two logs. -/
theorem pdfProduced_joinLogs (options : Options) (first second : Text) :
    (parse options (joinLogs first second)).pdfProduced =
      ((parse options first).pdfProduced || (parse options second).pdfProduced) := by
  rw [Bool.eq_iff_iff, Bool.or_eq_true]
  simp only [parse, Text.includes_iff_infix]
  exact Text.infix_append_cons_iff newline_not_mem_producedMark

namespace Site

variable {options : Options}

/-- More lines after the log reach the record only through its window. -/
theorem record_followedBy_keepsHead (options : Options) (total total' : Nat) (id : Text) (s : Site)
    (lines : List Text) :
    (s.record options total id).KeepsHead ((s.followedBy lines).record options total' id) := by
  unfold record followedBy
  cases s.trigger with
  | block => exact ⟨rfl, rfl, rfl, fun _ => rfl⟩
  | located file line message => exact ⟨rfl, rfl, rfl, fun _ => rfl⟩
  | warning => exact ⟨rfl, rfl, rfl, fun h => by cases h⟩
  | box => exact ⟨rfl, rfl, rfl, fun _ => rfl⟩

/-- A window that is full before the end of the log is not changed by what comes after it. -/
theorem record_followedBy (hcontext : 0 ≤ options.contextLines)
    (hcontinuation : 0 ≤ options.warningContinuationLines) {s : Site}
    (h : options.reach ≤ s.following.length) (total total' : Nat) (id : Text) (lines : List Text) :
    (s.followedBy lines).record options total' id = s.record options total id := by
  unfold Options.reach at h
  have hc : options.contextLines.toNat ≤ s.following.length := by omega
  have hw : options.warningContinuationLines.toNat ≤ s.following.length := by omega
  unfold record followedBy
  cases s.trigger with
  | block =>
      simp only [Trigger.record, Text.window_eq_take hcontext, List.take_append_of_le_length hc]
  | located file line message => rfl
  | warning =>
      simp only [Trigger.record, Text.window_eq_take hcontinuation, List.take_append_of_le_length hw]
  | box => rfl

/-- Lines before the log change the number of a record and supply a missing file. -/
theorem record_precededBy (hcontext : 0 ≤ options.contextLines)
    (hcontinuation : 0 ≤ options.warningContinuationLines) (total total' count found k : Nat)
    (id : Text) (file : Option Text) (s : Site) :
    (s.precededBy count file).record options total' (Record.idOf (found + k + 1)) =
      (s.record options total id).behind found file k := by
  unfold record precededBy
  cases s.trigger with
  | block =>
      simp only [Trigger.record, Text.window_eq_take hcontext]
      rfl
  | located path line message => rfl
  | warning =>
      simp only [Trigger.record, Text.window_eq_take hcontinuation]
      rfl
  | box => rfl

end Site

/-- The records of a joined log: those of the first log with the second one to look at, then those of the
second, numbered on. -/
theorem records_joinLogs_eq {options : Options} {first second : Text}
    (hcontext : 0 ≤ options.contextLines) (hcontinuation : 0 ≤ options.warningContinuationLines)
    (hlines : logicalLines (joinLogs first second) = logicalLines first ++ logicalLines second) :
    records options (joinLogs first second) =
      ((sites (logicalLines first)).mapIdx fun k s =>
        (s.followedBy (logicalLines second)).record options
          (logicalLines (joinLogs first second)).length (Record.idOf (k + 1))) ++
        (records options second).mapIdx
          (Record.behind (records options first).length (lastOpened (logicalLines first))) := by
  rw [records_eq_mapIdx options (joinLogs first second), hlines, sites_append, List.mapIdx_append]
  congr 1
  · simp only [List.mapIdx_eq_iff, List.getElem?_mapIdx, List.getElem?_map, Option.map_map]
    intro k
    rfl
  · rw [length_records, records_eq_mapIdx options second]
    simp only [List.mapIdx_eq_iff, List.getElem?_mapIdx, List.getElem?_map, List.length_map,
      Option.map_map]
    intro k
    congr 1
    funext s
    have hnumber : ∀ n : Nat, k + n + 1 = n + k + 1 := by omega
    simp only [Function.comp_apply, hnumber]
    exact (Site.record_precededBy hcontext hcontinuation ..).symm

/-- The records of a joined log are first one for each record of the first log and then one for each of
the second. Of the first ones, those with enough lines after them stay as they are and the others keep
their id, severity, file and, if they are errors, category; the second ones are numbered on and get the
file that the first log left open where they have none. -/
theorem records_joinLogs (options : Options) (first second : Text)
    (hcontext : 0 ≤ options.contextLines) (hcontinuation : 0 ≤ options.warningContinuationLines)
    (hreturn : first.getLast? ≠ some '\r')
    (hwidth : ∀ raw, (Text.splitLines (unifyNewlines first)).getLast? = some raw →
      raw.length ≠ wrapWidth) :
    (∀ log, ListsById (parse options log) (records options log)) ∧
    (∃ kept, records options (joinLogs first second) =
        kept ++ (records options second).mapIdx
          (Record.behind (records options first).length (lastOpened (logicalLines first))) ∧
      kept.length = (records options first).length ∧
      (sites (logicalLines first)).length = (records options first).length ∧
      ∀ (k : Nat) (site : Site) (before after : Record),
        (sites (logicalLines first))[k]? = some site →
        (records options first)[k]? = some before → kept[k]? = some after →
          before.KeepsHead after ∧ (options.reach ≤ site.following.length → after = before)) ∧
    (parse options (joinLogs first second)).pdfProduced =
      ((parse options first).pdfProduced || (parse options second).pdfProduced) := by
  refine ⟨parse_listsById options, ?_, pdfProduced_joinLogs options first second⟩
  have hlines : logicalLines (joinLogs first second) = _ := logicalLines_joinLogs hreturn hwidth
  refine ⟨_, records_joinLogs_eq hcontext hcontinuation hlines, ?_, ?_, ?_⟩
  · rw [List.length_mapIdx, length_records]
  · rw [length_records]
  · intro k site before after hsite hbefore hafter
    rw [records_eq_mapIdx, List.getElem?_mapIdx, hsite] at hbefore
    rw [List.getElem?_mapIdx, hsite] at hafter
    obtain rfl := Option.some.inj hbefore
    obtain rfl := Option.some.inj hafter
    refine ⟨Site.record_followedBy_keepsHead .., ?_⟩
    intro hreach
    exact Site.record_followedBy hcontext hcontinuation hreach ..

/-- A run that ends inside an error block. -/
def interruptedRun : Text := "(./a.tex\n! Undefined control sequence."

/-- A run that opens no file of its own. -/
def laterRun : Text := "l.3 \\foo\n! Too many \x7d's."

/-- The block of the first run finds its line in the second one, whose error gets the open file. -/
theorem records_joinLogs_laterRun :
    interruptedRun.getLast? ≠ some '\r' ∧
    (Text.splitLines (unifyNewlines interruptedRun)).getLast? =
      some "! Undefined control sequence.".toList ∧
    (records {} (joinLogs interruptedRun laterRun)).map (fun r => (r.id, r.line)) =
      [("err_1".toList, some 3), ("err_2".toList, none)] ∧
    ∃ kept, records {} (joinLogs interruptedRun laterRun) =
      kept ++ (records {} laterRun).mapIdx (Record.behind 1 (some "./a.tex".toList)) := by
  have hlast : (Text.splitLines (unifyNewlines interruptedRun)).getLast? =
      some "! Undefined control sequence.".toList := by decide
  have hwidth : ∀ raw, (Text.splitLines (unifyNewlines interruptedRun)).getLast? = some raw →
      raw.length ≠ wrapWidth := by
    intro raw h
    obtain rfl := Option.some.inj (hlast.symm.trans h)
    decide
  have hcount : (records {} interruptedRun).length = 1 := by decide
  have hfile : lastOpened (logicalLines interruptedRun) = some "./a.tex".toList := by decide
  refine ⟨by decide, hlast, by decide, ?_⟩
  obtain ⟨kept, hrecords, _⟩ := (records_joinLogs {} interruptedRun laterRun (by decide) (by decide)
    (by decide) hwidth).2.1
  rw [hcount, hfile] at hrecords
  exact ⟨kept, hrecords⟩

end Log

end TexMend
