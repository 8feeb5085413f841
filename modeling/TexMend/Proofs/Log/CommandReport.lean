import TexMend.Proofs.Log.Wrapping
import TexMend.Proofs.Text.Numeral
import TexMend.Proofs.Text.Stretch

/-!
# Reports of unknown commands

A compiler reports an unknown command in two lines, of which the second shows how far it has read the
source line. A log of such reports is read back record by record, however long the lines are and whatever
else stands on them.
-/

namespace TexMend.Log

/-- A report of a command that is not known. -/
structure CommandReport where
  /-- The source line. -/
  number : Nat
  /-- What was read of the source line before the command. -/
  lead : Text
  /-- The command without its backslash. -/
  name : Text
  number_length : (Text.ofNat number).length ≤ Text.digitLimit
  lead_plain : IsPlainLine lead
  lead_quiet : Text.includes "Warning:" lead = false
  name_ne_nil : name ≠ []
  name_chars : ∀ c ∈ name, isCommandChar c = true

namespace CommandReport

/-- The first line, which all reports have in common. -/
def headline : Text := "! Undefined control sequence."

def command (report : CommandReport) : Text :=
  '\\' :: report.name

/-- What the second line shows before the command. -/
def placeLead (report : CommandReport) : Text :=
  'l' :: '.' :: (Text.ofNat report.number ++ ' ' :: report.lead)

/-- The second line. -/
def place (report : CommandReport) : Text :=
  report.placeLead ++ report.command

def lines (report : CommandReport) : List Text :=
  [headline, report.place]

/-- The log of several reports, broken as the compiler breaks its lines. -/
def write (reports : List CommandReport) : Text :=
  Text.joinLines ((reports.flatMap lines).flatMap wrap)

/-- What a reader should make of a report. -/
def record (id : Text) (report : CommandReport) : Record where
  id
  severity := .error
  category := .undefinedControlSequence
  message := "Undefined control sequence: " ++ report.command
  rawLog := Text.joinLines report.lines
  file := none
  line := some report.number
  offendingText := some report.command

end CommandReport

section Tokens

/-- Nothing but a backslash begins a control word. -/
theorem controlWord?_cons_of_ne {c : Char} (h : c ≠ '\\') (rest : Text) :
    controlWord? (c :: rest) = none := by
  unfold controlWord?
  split
  · next heq => exact absurd (List.cons.inj heq).1 h
  · rfl

/-- What follows the control word at a backslash is what follows the stretch of its characters. -/
theorem snd_eq_of_controlWord?_eq_some {rest word after : Text}
    (h : controlWord? ('\\' :: rest) = some (word, after)) : after = rest.dropWhile isCommandChar := by
  simp only [controlWord?, Text.drop_length_takeWhile] at h
  split at h
  · cases h
  · exact (Prod.mk.inj (Option.some.inj h)).2.symm

/-- A line does not end before a later command on it. -/
theorem endsLine_append_backslash {before : Text} (h : '\n' ∉ before) (rest : Text) :
    endsLine (before ++ '\\' :: rest) = false := by
  unfold endsLine
  rw [Text.dropWhile_append_cons (by decide)]
  cases hdrop : before.dropWhile fun c => Text.isBlank c && c != '\n' with
  | nil => rfl
  | cons c cs =>
      have hc : c ∈ before := (List.dropWhile_suffix _).subset (hdrop ▸ List.mem_cons_self)
      have hne : c ≠ '\n' := fun heq => h (heq ▸ hc)
      simpa using hne

/-- The control word with which a line ends is the last one on it. -/
theorem lineEndCommand?_append {before lead name : Text} (hbefore : '\\' ∉ before) (hlead : '\n' ∉ lead)
    (hne : name ≠ []) (hname : ∀ c ∈ name, isCommandChar c = true) :
    lineEndCommand? (before ++ (lead ++ '\\' :: name)) = some ('\\' :: name) := by
  unfold lineEndCommand?
  rw [Text.firstAt?_append, Text.firstAt?_append]
  · apply Text.firstAt?_of_eq_some
    have hword : name.takeWhile isCommandChar = name := List.takeWhile_eq_self_iff.mpr hname
    simp [controlWord?, hword, hne, endsLine]
  · -- an earlier command of the line does not end it
    intro rest hrest hrne
    obtain ⟨c, cs, rfl⟩ := List.exists_cons_of_ne_nil hrne
    by_cases hc : c = '\\'
    · subst hc
      have hcs : '\n' ∉ cs := fun hm => hlead (hrest.subset (List.mem_cons_of_mem _ hm))
      rw [List.cons_append]
      cases hword : controlWord? ('\\' :: (cs ++ '\\' :: name)) with
      | none => rfl
      | some found =>
          obtain ⟨word, after⟩ := found
          obtain rfl := snd_eq_of_controlWord?_eq_some hword
          have hdrop : '\n' ∉ cs.dropWhile isCommandChar :=
            fun hm => hcs ((List.dropWhile_suffix _).subset hm)
          have hopen : endsLine (cs.dropWhile isCommandChar ++ '\\' :: name) = false :=
            endsLine_append_backslash hdrop name
          simp [Text.dropWhile_append_cons (show isCommandChar '\\' = false by decide), hopen]
    · rw [List.cons_append, controlWord?_cons_of_ne hc]
  · intro rest hrest hrne
    obtain ⟨c, cs, rfl⟩ := List.exists_cons_of_ne_nil hrne
    have hc : c ≠ '\\' := fun heq => hbefore (hrest.subset (heq ▸ List.mem_cons_self))
    rw [List.cons_append, controlWord?_cons_of_ne hc]

end Tokens

namespace CommandReport

theorem headline_opens : openedFile? headline = none := by decide

theorem headline_trigger : Trigger.ofLine? headline = some .block := by decide

theorem headline_category : Category.ofMessage headline = .undefinedControlSequence := by decide

variable (report : CommandReport)

/-- The numeral in the second line ends at the blank behind it. -/
theorem takeWhile_number {p : Char → Bool} (hdigit : ∀ c, Text.isAsciiDigit c = true → p c = true)
    (hblank : p ' ' = false) (rest : Text) :
    (Text.ofNat report.number ++ ' ' :: rest).takeWhile p = Text.ofNat report.number :=
  Text.takeWhile_append_cons (fun _ hc => hdigit _ (Text.isAsciiDigit_of_mem_ofNat hc)) hblank

theorem place_eq : report.place =
    'l' :: '.' :: (Text.ofNat report.number ++ ' ' :: (report.lead ++ report.command)) := by
  simp [place, placeLead]

theorem lineMarker?_place : lineMarker? report.place = some (Text.ofNat report.number) := by
  have hnumber := report.takeWhile_number (p := Text.isAsciiDigit) (fun _ h => h) (by decide)
    (report.lead ++ report.command)
  have hmark : Text.after? "l." report.place =
      some (Text.ofNat report.number ++ ' ' :: (report.lead ++ report.command)) := by
    rw [place_eq]
    rfl
  have hfull : (Text.ofNat report.number).isEmpty = false :=
    List.isEmpty_eq_false_iff.mpr (Text.ofNat_ne_nil _)
  have hblank : Text.isAsciiBlank ' ' = true := by decide
  simp only [lineMarker?, hmark, hnumber, hfull, List.drop_left, hblank, if_true, Bool.false_eq_true,
    if_false]

/-- The second line is no `file:line: message`, for no colon follows its first word. -/
theorem located?_place : located? report.place = none := by
  have hdigit : ∀ c, Text.isAsciiDigit c = true → (!Text.isAsciiBlank c && c != ':') = true := by
    intro c hc
    have hcolon : c ≠ ':' := by
      rintro rfl
      exact absurd hc (by decide)
    simp [Text.isAsciiBlank_of_isAsciiDigit hc, hcolon]
  have hnumber := report.takeWhile_number hdigit (by decide) (report.lead ++ report.command)
  have hfile : report.place.takeWhile (fun c => !Text.isAsciiBlank c && c != ':') =
      'l' :: '.' :: Text.ofNat report.number := by
    rw [place_eq, List.takeWhile_cons_of_pos (by decide), List.takeWhile_cons_of_pos (by decide), hnumber]
  have hrest : report.place.drop ('l' :: '.' :: Text.ofNat report.number).length =
      ' ' :: (report.lead ++ report.command) := by
    rw [place_eq]
    exact List.drop_left
  simp only [located?, hfile, hrest]
  rfl

/-- A warning in the second line would be one before the command. -/
theorem includes_warning_place : Text.includes "Warning:" report.place = false := by
  have hlead : ¬ ("Warning:" : Text) <:+: report.lead := by
    rw [← Text.includes_iff_infix, report.lead_quiet]
    decide
  have hname : ¬ ("Warning:" : Text) <:+: report.name := by
    intro h
    have hcolon := report.name_chars ':' (h.subset (by decide))
    exact absurd hcolon (by decide)
  have hnumber : ¬ ("Warning:" : Text) <:+: 'l' :: '.' :: Text.ofNat report.number := by
    intro h
    have hcolon : ':' ∈ 'l' :: '.' :: Text.ofNat report.number := h.subset (by decide)
    simp only [List.mem_cons] at hcolon
    rcases hcolon with hc | hc | hc
    · exact absurd hc (by decide)
    · exact absurd hc (by decide)
    · exact absurd (Text.isAsciiDigit_of_mem_ofNat hc) (by decide)
  have hplaceLead : report.placeLead = ('l' :: '.' :: Text.ofNat report.number) ++ ' ' :: report.lead := rfl
  rw [Bool.eq_false_iff, Ne, Text.includes_iff_infix, place, command,
    Text.infix_append_cons_iff (by decide), hplaceLead, Text.infix_append_cons_iff (by decide)]
  rintro ((h | h) | h)
  · exact hnumber h
  · exact hlead h
  · exact hname h

theorem place_opens : openedFile? report.place = none := by
  rw [place_eq]
  rfl

theorem place_trigger : Trigger.ofLine? report.place = none := by
  have hquiet : Text.includes "LaTeX Warning:" report.place = false := by
    rw [Bool.eq_false_iff, Ne, Text.includes_iff_infix]
    intro h
    have hpart : ("Warning:" : Text) <:+: "LaTeX Warning:".toList :=
      Text.includes_iff_infix.mp (by decide)
    have hwarning := Text.includes_iff_infix.mpr (hpart.trans h)
    rw [includes_warning_place] at hwarning
    cases hwarning
  have hmark : ∀ rest, ("!" : Text).isPrefixOf ('l' :: rest) = false := fun _ => rfl
  have hover : ∀ rest, ("Overfull" : Text).isPrefixOf ('l' :: rest) = false := fun _ => rfl
  have hunder : ∀ rest, ("Underfull" : Text).isPrefixOf ('l' :: rest) = false := fun _ => rfl
  have hlocated := report.located?_place
  have hwarning := report.includes_warning_place
  rw [place_eq] at hlocated hwarning hquiet ⊢
  simp only [Trigger.ofLine?, hmark, hlocated, hquiet, hwarning, hover, hunder, Bool.and_false,
    Bool.or_false, Bool.false_eq_true, if_false]

theorem isPlainLine_of_mem_lines {line : Text} (h : line ∈ report.lines) : IsPlainLine line := by
  have hchars : ∀ c, c = '\n' ∨ c = '\r' → c ∉ report.place := by
    intro c hc hm
    have hnot : Text.isAsciiDigit c = false ∧ isCommandChar c = false ∧ c ∉ ['l', '.', ' ', '\\'] := by
      rcases hc with rfl | rfl <;> decide
    have hlead : c ∉ report.lead := by
      rcases hc with rfl | rfl
      · exact report.lead_plain.1
      · exact report.lead_plain.2
    simp only [place_eq, command, List.mem_cons, List.mem_append] at hm
    rcases hm with hm | hm | hm | hm | hm | hm | hm
    · simp [hm] at hnot
    · simp [hm] at hnot
    · simp [Text.isAsciiDigit_of_mem_ofNat hm] at hnot
    · simp [hm] at hnot
    · exact hlead hm
    · simp [hm] at hnot
    · simp [report.name_chars c hm] at hnot
  simp only [lines, List.mem_cons, List.not_mem_nil, or_false] at h
  rcases h with rfl | rfl
  · decide
  · exact ⟨hchars _ (Or.inl rfl), hchars _ (Or.inr rfl)⟩

/-- A reader that looks at one more line makes the right record of a report. -/
theorem blockRecord_place (id : Text) (following : List Text) :
    blockRecord id none headline (report.place :: following) = report.record id := by
  have hcontext : blockContext (report.place :: following) =
      ([report.place], some (Text.ofNat report.number)) := by
    simp only [blockContext, lineMarker?_place]
  have hline : sourceLine? (Text.ofNat report.number) = some (report.number : Int) := by
    rw [sourceLine?, Text.readDigits?_ofNat report.number_length]
    rfl
  have hbefore : '\\' ∉ headline ++ '\n' :: 'l' :: '.' :: (Text.ofNat report.number ++ [' ']) := by
    simp only [List.mem_append, List.mem_cons]
    rintro (h | h | h | h | h | h)
    · exact absurd h (by decide)
    · exact absurd h (by decide)
    · exact absurd h (by decide)
    · exact absurd h (by decide)
    · exact absurd (Text.isAsciiDigit_of_mem_ofNat h) (by decide)
    · exact absurd h (by decide)
  have htoken : lineEndCommand? (Text.joinLines report.lines) = some report.command := by
    have hcommand := lineEndCommand?_append hbefore report.lead_plain.1 report.name_ne_nil
      report.name_chars
    simpa [lines, Text.joinLines, place_eq, command] using hcommand
  have hlines : Text.joinLines [headline, report.place] = Text.joinLines report.lines := rfl
  simp only [blockRecord, hcontext, hlines, headline_category, blockToken?, htoken, record,
    Option.bind_some, hline]
  rfl

end CommandReport

section Run

variable {options : Options}

open CommandReport

/-- One report gives one record. -/
theorem scan_report (h : 1 ≤ options.contextLines) (report : CommandReport) (total index found : Nat)
    (rest : List Text) :
    scan options total index none found (report.lines ++ rest) =
      report.record (Record.idOf (found + 1)) :: scan options total (index + 2) none (found + 1) rest := by
  obtain ⟨n, hn⟩ : ∃ n : Nat, options.contextLines = n + 1 := ⟨(options.contextLines - 1).toNat, by omega⟩
  have hwindow : Text.window index total options.contextLines (report.place :: rest) =
      report.place :: rest.take n := by
    rw [hn]
    exact Text.window_of_nonneg index total (n + 1) _
  simp only [lines, List.cons_append, List.nil_append, scan, headline_opens, recordAt?, headline_trigger,
    Option.map_some, Option.none_or, Trigger.record, hwindow, blockRecord_place, place_opens,
    place_trigger, Option.map_none]

theorem scan_reports (h : 1 ≤ options.contextLines) (reports : List CommandReport)
    (total index found : Nat) :
    scan options total index none found (reports.flatMap lines) =
      reports.mapIdx fun k report => report.record (Record.idOf (found + k + 1)) := by
  induction reports generalizing index found with
  | nil => rfl
  | cons report rest ih =>
      have hnext : ∀ k, found + 1 + k + 1 = found + (k + 1) + 1 := by omega
      simp only [List.flatMap_cons, scan_report h, ih, List.mapIdx_cons, hnext, Nat.add_zero]

/-- The wrapping of the log does not show in its lines. -/
theorem logicalLines_write {reports : List CommandReport} (h : reports ≠ []) :
    logicalLines (write reports) = reports.flatMap lines := by
  apply logicalLines_wrapped
  · obtain ⟨report, rest, rfl⟩ := List.exists_cons_of_ne_nil h
    simp [lines]
  · intro line hline
    obtain ⟨report, _, hmem⟩ := List.mem_flatMap.mp hline
    exact report.isPlainLine_of_mem_lines hmem

theorem records_write (h : 1 ≤ options.contextLines) (reports : List CommandReport) :
    records options (write reports) =
      reports.mapIdx fun k report => report.record (Record.idOf (k + 1)) := by
  by_cases hne : reports = []
  · subst hne
    rfl
  · simp only [records, logicalLines_write hne, scan_reports h, Nat.zero_add]

/-- A log of reports is read as these reports, in order and without anything else. -/
theorem parse_write (reports : List CommandReport) :
    (parse {} (write reports)).warnings = [] ∧
    (parse {} (write reports)).errors =
      reports.mapIdx fun k report => report.record (Record.idOf (k + 1)) := by
  have hrecords : records {} (write reports) = _ := records_write (by decide) reports
  have herror : ∀ r ∈ records {} (write reports), r.severity = .error := by
    intro r hr
    rw [hrecords] at hr
    obtain ⟨k, hk, rfl⟩ := List.mem_mapIdx.mp hr
    rfl
  constructor
  · refine List.filter_eq_nil_iff.mpr ?_
    intro r hr
    simp [herror r hr]
  · rw [← hrecords]
    exact List.filter_eq_self.mpr fun r hr => by simp [herror r hr]

/-- A report whose second line has commands, colons and an error mark before the command, and is broken
once. -/
def crowdedReport : CommandReport where
  number := 40
  lead := "\\foo (a.tex:3: ! Package x \\begin\x7b" ++ List.replicate 60 'y'
  name := "m@thbb"
  number_length := by decide
  lead_plain := by decide
  lead_quiet := by decide
  name_ne_nil := by decide
  name_chars := List.all_eq_true.mp (by decide)

/-- A report of a command at the beginning of a line. -/
def bareReport : CommandReport where
  number := 7
  lead := []
  name := "alhpa"
  number_length := by decide
  lead_plain := by decide
  lead_quiet := by decide
  name_ne_nil := by decide
  name_chars := List.all_eq_true.mp (by decide)

/-- The broken line is read whole, and neither its first command nor its error mark is taken up. -/
theorem parse_write_crowded :
    wrapWidth < crowdedReport.place.length ∧
    (parse {} (write [crowdedReport, bareReport])).warnings = [] ∧
    (parse {} (write [crowdedReport, bareReport])).errors =
      [crowdedReport.record "err_1", bareReport.record "err_2"] ∧
    crowdedReport.command = "\\m@thbb" := by
  obtain ⟨hwarnings, herrors⟩ := parse_write [crowdedReport, bareReport]
  refine ⟨by decide, hwarnings, ?_, by decide⟩
  rw [herrors]
  rfl

end Run

end TexMend.Log
