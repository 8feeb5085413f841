import Mathlib.Data.List.TakeDrop
import TexMend.Proofs.Log.Grammar
import TexMend.Proofs.Log.Unwrapping
import TexMend.Proofs.Text.Ink

/-!
# What records quote of the log

A record keeps the piece of the log that it was made from. Error blocks and box reports keep whole lines as
they stand. A located error is put together again from its parts with one space before the message, and a
warning takes the lines that continue it onto its own, so these two may lose blanks, but nothing else.
-/

namespace TexMend.Log

/-- The `count` lines from a position on, with newlines between them. -/
def runOf (lines : List Text) (index count : Nat) : Text :=
  Text.joinLines ((lines.drop index).take count)

/-- The text is a run of lines from the position on, as they stand in the log. -/
def Verbatim (lines : List Text) (index : Nat) (text : Text) : Prop :=
  ∃ count, 0 < count ∧ index + count ≤ lines.length ∧ text = runOf lines index count

/-- The text is a run of lines from the position on, but for blanks. -/
def VerbatimInk (lines : List Text) (index : Nat) (text : Text) : Prop :=
  ∃ count, 0 < count ∧ index + count ≤ lines.length ∧ Text.ink text = Text.ink (runOf lines index count)

theorem Verbatim.ink {lines : List Text} {index : Nat} {text : Text} (h : Verbatim lines index text) :
    VerbatimInk lines index text := by
  obtain ⟨count, hpos, hcount, rfl⟩ := h
  exact ⟨count, hpos, hcount, rfl⟩

/-- A line that continues a warning. -/
def Continues (line : Text) : Prop :=
  line = [] ∨ (" " : Text) <+: line

/-- The record of a line of the form keeps the text of its line and of those after it that it takes up. A
located line must have just one blank before its message, and a warning must not be continued. -/
def LineForm.KeepsText (options : Options) (following : List Text) : LineForm → Prop
  | block | box => True
  | located _ _ rest =>
    ∃ c message, rest = ' ' :: c :: message ∧ (Text.isAsciiBlank c = false ∨ message = [])
  | warning =>
    options.warningContinuationLines = 0 ∨
      ∀ next, following.head? = some next → ¬ Continues next

/-! ## Runs of lines -/

section Runs

variable {lines context : List Text} {index : Nat} {line text : Text}

/-- A line and some lines right after it are a run. -/
theorem runOf_eq_joinLines (hline : lines[index]? = some line) (hcontext : context <+: lines.drop (index + 1)) :
    index + (context.length + 1) ≤ lines.length ∧
      runOf lines index (context.length + 1) = Text.joinLines (line :: context) := by
  obtain ⟨hindex, rfl⟩ := List.getElem?_eq_some_iff.mp hline
  constructor
  · have hlength := hcontext.length_le
    rw [List.length_drop] at hlength
    omega
  · rw [runOf, List.drop_eq_getElem_cons hindex, List.take_succ_cons, ← List.prefix_iff_eq_take.mp hcontext]

theorem verbatim_joinLines (hline : lines[index]? = some line) (hcontext : context <+: lines.drop (index + 1)) :
    Verbatim lines index (Text.joinLines (line :: context)) := by
  obtain ⟨hlength, hrun⟩ := runOf_eq_joinLines hline hcontext
  exact ⟨context.length + 1, Nat.succ_pos _, hlength, hrun.symm⟩

/-- What has the ink of a line and of some lines right after it has the ink of a run. -/
theorem verbatimInk_of_ink_eq (hline : lines[index]? = some line)
    (hcontext : context <+: lines.drop (index + 1))
    (hink : Text.ink text = Text.ink (Text.joinLines (line :: context))) : VerbatimInk lines index text := by
  obtain ⟨hlength, hrun⟩ := runOf_eq_joinLines hline hcontext
  exact ⟨context.length + 1, Nat.succ_pos _, hlength, by rw [hrun, hink]⟩

/-- A run without newlines is a single line. -/
theorem verbatim_iff_eq (hline : lines[index]? = some line) (h : '\n' ∉ text) :
    Verbatim lines index text ↔ text = line := by
  constructor
  · rintro ⟨count, hpos, hcount, rfl⟩
    obtain ⟨k, rfl⟩ : ∃ k, count = k + 1 := ⟨count - 1, by omega⟩
    obtain ⟨hindex, rfl⟩ := List.getElem?_eq_some_iff.mp hline
    rw [runOf, List.drop_eq_getElem_cons hindex, List.take_succ_cons] at h ⊢
    cases hmore : (lines.drop (index + 1)).take k with
    | nil => rfl
    | cons next more =>
        rw [hmore, Text.joinLines_cons (List.cons_ne_nil next more)] at h
        simp at h
  · rintro rfl
    exact verbatim_joinLines hline (List.nil_prefix)

theorem mem_of_verbatim (hverbatim : Verbatim lines index text) (h : '\n' ∉ text) : text ∈ lines := by
  have hindex : index < lines.length := by
    obtain ⟨count, hpos, hcount, -⟩ := hverbatim
    omega
  rw [(verbatim_iff_eq (List.getElem?_eq_getElem hindex) h).mp hverbatim]
  exact List.getElem_mem hindex

end Runs

/-! ## The four kinds of record -/

theorem window_isPrefix (index total : Nat) (count : Int) (rest : List Text) :
    Text.window index total count rest <+: rest := by
  unfold Text.window
  split
  · exact List.take_prefix _ _
  · exact List.take_prefix _ _

theorem blockContext_isPrefix (following : List Text) : (blockContext following).1 <+: following := by
  induction following with
  | nil => exact List.prefix_rfl
  | cons line rest ih =>
      unfold blockContext
      split
      · exact List.cons_prefix_cons.mpr ⟨rfl, List.nil_prefix⟩
      · exact List.cons_prefix_cons.mpr ⟨rfl, ih⟩

/-- The message of a located line is the end of the line. -/
theorem bareRest_suffix (rest : Text) : LineForm.bareRest rest <:+ rest := by
  unfold LineForm.bareRest
  split
  · exact List.drop_suffix _ _
  · exact List.dropWhile_suffix _

theorem ink_bareRest (rest : Text) : Text.ink (LineForm.bareRest rest) = Text.ink rest := by
  unfold LineForm.bareRest
  split
  · next hblank =>
      have hall : ∀ c ∈ rest, Text.isBlank c = true :=
        fun c hc => Text.isBlank_of_isAsciiBlank (List.dropWhile_eq_nil_iff.mp hblank c hc)
      rw [Text.ink_eq_nil hall, Text.ink_eq_nil fun c hc => hall c (List.mem_of_mem_drop hc)]
  · exact Text.ink_dropWhile (fun _ => Text.isBlank_of_isAsciiBlank) rest

/-- A located error has its own text exactly if one blank stands before its message. -/
theorem bareRest_eq_iff {rest : Text} (h : rest ≠ []) : ' ' :: LineForm.bareRest rest = rest ↔
    ∃ c message, rest = ' ' :: c :: message ∧ (Text.isAsciiBlank c = false ∨ message = []) := by
  have hspace : Text.isAsciiBlank ' ' = true := by decide
  unfold LineForm.bareRest
  split
  · next hblank =>
      have hall := List.dropWhile_eq_nil_iff.mp hblank
      constructor
      · intro heq
        rw [List.drop_length_sub_one h] at heq
        exact ⟨rest.getLast h, [], heq.symm, Or.inr rfl⟩
      · rintro ⟨c, message, rfl, hc | rfl⟩
        · simp [hall c (by simp)] at hc
        · rfl
  · next hmessage =>
      constructor
      · intro heq
        obtain ⟨c, message, hcons⟩ := List.exists_cons_of_ne_nil hmessage
        rw [hcons] at heq
        exact ⟨c, message, heq.symm, Or.inl (Text.eq_false_of_dropWhile_eq_cons hcons)⟩
      · rintro ⟨c, message, rfl, hc⟩
        rw [List.dropWhile_cons_of_pos hspace] at hmessage ⊢
        have hink : Text.isAsciiBlank c = false := by
          rcases hc with hc | rfl
          · exact hc
          · by_contra hblank
            exact hmessage (List.dropWhile_eq_nil_iff.mpr (by simpa using hblank))
        rw [List.dropWhile_cons_of_neg (by simp [hink])]

/-- A warning with its continuation on one line. -/
theorem joinContinuation_eq (first : Text) (following : List Text) :
    joinContinuation first following =
      first ++ (continuation following).flatMap fun line => ' ' :: Text.strip line := by
  rw [joinContinuation, List.foldl_append_eq_append, List.flatMap_def]

theorem continues_iff {line : Text} :
    (line.isEmpty || (" " : Text).isPrefixOf line) = true ↔ Continues line := by
  rw [Bool.or_eq_true, List.isEmpty_iff, List.isPrefixOf_iff_prefix, Continues]

/-- A warning is not continued exactly if it may not be or the line after it does not continue it. -/
theorem continuation_take_eq_nil_iff {n : Nat} {following : List Text} :
    continuation (following.take n) = [] ↔
      n = 0 ∨ ∀ next, following.head? = some next → ¬ Continues next := by
  cases n with
  | zero => simp [continuation]
  | succ n =>
      cases following with
      | nil => simp [continuation]
      | cons next rest =>
          rw [List.take_succ_cons, continuation, List.takeWhile_cons]
          simp [← continues_iff]

/-! ## Records of a log -/

section Records

variable {options : Options} {lines : List Text} {s : Site} {total : Nat} {id : Text}

/-- An error block quotes its lines up to the first that names a source line. -/
theorem verbatim_of_block (hline : lines[s.index]? = some s.line)
    (hfollowing : s.following = lines.drop (s.index + 1)) (htrigger : s.trigger = .block) :
    Verbatim lines s.index (s.record options total id).rawLog := by
  unfold Site.record
  rw [htrigger]
  apply verbatim_joinLines hline
  rw [← hfollowing]
  exact (blockContext_isPrefix _).trans (window_isPrefix _ _ _ _)

theorem verbatim_of_box (hline : lines[s.index]? = some s.line) (htrigger : s.trigger = .box) :
    Verbatim lines s.index (s.record options total id).rawLog := by
  unfold Site.record
  rw [htrigger]
  exact verbatim_joinLines hline List.nil_prefix

/-- A located error has the ink of its line, and its text under the condition on the blanks. -/
theorem verbatim_of_located {file digits rest : Text} (hline : lines[s.index]? = some s.line)
    (hnewline : '\n' ∉ s.line) (hparts : IsLocated s.line file digits rest)
    (htrigger : s.trigger = .located file digits (LineForm.bareRest rest)) :
    VerbatimInk lines s.index (s.record options total id).rawLog ∧
      (Verbatim lines s.index (s.record options total id).rawLog ↔
        ∃ c message, rest = ' ' :: c :: message ∧ (Text.isAsciiBlank c = false ∨ message = [])) := by
  have hraw : (s.record options total id).rawLog =
      file ++ ':' :: (digits ++ ':' :: ' ' :: LineForm.bareRest rest) := by
    unfold Site.record
    rw [htrigger]
    simp [Trigger.record, locatedRecord]
  have hink : Text.ink (s.record options total id).rawLog = Text.ink s.line := by
    calc Text.ink (s.record options total id).rawLog
        = Text.ink (file ++ [':'] ++ digits ++ [':']) ++ Text.ink (' ' :: LineForm.bareRest rest) := by
          rw [hraw, ← Text.ink_append]
          simp
      _ = Text.ink (file ++ [':'] ++ digits ++ [':']) ++ Text.ink rest := by
          rw [Text.ink_cons_of_blank (by decide), ink_bareRest]
      _ = Text.ink s.line := by
          rw [← Text.ink_append, hparts.line_eq]
          simp
  have hplain : '\n' ∉ (s.record options total id).rawLog := by
    rw [hparts.line_eq] at hnewline
    rw [hraw]
    simp only [List.mem_append, List.mem_cons, not_or] at hnewline ⊢
    refine ⟨hnewline.1, by decide, hnewline.2.2.1, by decide, by decide, ?_⟩
    exact fun h => hnewline.2.2.2.2 ((bareRest_suffix rest).subset h)
  refine ⟨verbatimInk_of_ink_eq hline List.nil_prefix hink, ?_⟩
  rw [verbatim_iff_eq hline hplain, ← bareRest_eq_iff hparts.rest_ne_nil, hraw, hparts.line_eq]
  simp only [List.append_cancel_left_eq, List.cons.injEq, true_and]

/-- A warning has the ink of the lines that it takes up, and its text if it is only one. -/
theorem verbatim_of_warning (hcontinuation : 0 ≤ options.warningContinuationLines)
    (hline : lines[s.index]? = some s.line) (hnewline : ∀ line ∈ lines, '\n' ∉ line)
    (hfollowing : s.following = lines.drop (s.index + 1)) (htrigger : s.trigger = .warning) :
    VerbatimInk lines s.index (s.record options total id).rawLog ∧
      (Verbatim lines s.index (s.record options total id).rawLog ↔
        options.warningContinuationLines = 0 ∨
          ∀ next, s.following.head? = some next → ¬ Continues next) := by
  obtain ⟨n, hn⟩ := Int.eq_ofNat_of_zero_le hcontinuation
  have hraw : (s.record options total id).rawLog =
      s.line ++ (continuation (s.following.take n)).flatMap fun line => ' ' :: Text.strip line := by
    unfold Site.record
    rw [htrigger, ← joinContinuation_eq, ← Text.window_of_nonneg s.index total n, ← hn]
    rfl
  have hcontext : continuation (s.following.take n) <+: lines.drop (s.index + 1) := by
    rw [← hfollowing]
    exact (List.takeWhile_prefix _).trans (List.take_prefix _ _)
  have hplain : '\n' ∉ (s.record options total id).rawLog := by
    rw [hraw, List.mem_append, List.mem_flatMap]
    rintro (h | ⟨line, hmem, h⟩)
    · exact hnewline _ (List.mem_of_getElem? hline) h
    · rcases List.mem_cons.mp h with h | h
      · exact absurd h (by decide)
      · exact hnewline line (List.mem_of_mem_drop (hcontext.subset hmem)) (Text.mem_of_mem_strip h)
  constructor
  · apply verbatimInk_of_ink_eq hline hcontext
    rw [hraw, Text.ink_append, Text.ink_flatMap_strip, Text.ink_joinLines, List.flatMap_cons]
  · have hzero : options.warningContinuationLines = 0 ↔ n = 0 := by omega
    rw [verbatim_iff_eq hline hplain, hzero, ← continuation_take_eq_nil_iff, hraw, List.append_right_eq_self]
    cases continuation (s.following.take n) with
    | nil => simp
    | cons next more => simp [List.flatMap_cons]

/-- What the record of a site quotes, by the form of its line. -/
theorem Site.quotes {form : LineForm} (hcontinuation : 0 ≤ options.warningContinuationLines)
    (hline : lines[s.index]? = some s.line) (hnewline : ∀ line ∈ lines, '\n' ∉ line)
    (hfollowing : s.following = lines.drop (s.index + 1)) (hform : form.Fits s.line)
    (htrigger : s.trigger = form.trigger) :
    VerbatimInk lines s.index (s.record options total id).rawLog ∧
      (Verbatim lines s.index (s.record options total id).rawLog ↔ form.KeepsText options s.following) := by
  cases form with
  | block =>
      have hverbatim : Verbatim lines s.index (s.record options total id).rawLog :=
        verbatim_of_block hline hfollowing htrigger
      exact ⟨hverbatim.ink, iff_of_true hverbatim trivial⟩
  | box =>
      have hverbatim : Verbatim lines s.index (s.record options total id).rawLog :=
        verbatim_of_box hline htrigger
      exact ⟨hverbatim.ink, iff_of_true hverbatim trivial⟩
  | located file digits rest =>
      exact verbatim_of_located hline (hnewline _ (List.mem_of_getElem? hline)) hform htrigger
  | warning => exact verbatim_of_warning hcontinuation hline hnewline hfollowing htrigger

end Records

/-- Every record quotes its line and maybe some lines right after it, but for blanks, and as they stand
exactly if the form of the line keeps them. -/
theorem rawLog_verbatim_iff (options : Options) (log : Text)
    (hcontinuation : 0 ≤ options.warningContinuationLines) :
    ListsById (parse options log) (records options log) ∧ ∃ places : List Nat,
      StartPlaces (logicalLines log) places ∧
      List.Forall₂ (fun index r => ∃ line, ∃ form : LineForm, (logicalLines log)[index]? = some line ∧
        form.Decides line ∧ VerbatimInk (logicalLines log) index r.rawLog ∧
        (Verbatim (logicalLines log) index r.rawLog ↔
          form.KeepsText options ((logicalLines log).drop (index + 1)))) places (records options log) := by
  refine ⟨parse_listsById options log, _, startPlaces_sites _, forall₂_places_records ?_⟩
  intro s hs id
  obtain ⟨hline, htrigger, -, -, hfollowing⟩ := siteAt?_eq_some_iff.mp (siteAt?_index_of_mem_sites hs)
  obtain ⟨form, hform, hsays⟩ := ofLine?_eq_some_iff.mp htrigger
  refine ⟨s.line, form, hline, hform, ?_⟩
  rw [← hfollowing]
  exact Site.quotes hcontinuation hline (fun _ => newline_not_mem_of_mem_logicalLines) hfollowing hform.1
    hsays.symm

/-- A log with one located error. -/
def locatedLog : Text := "main.tex:3: Undefined control sequence \\foo"

/-- A located error with one blank before its message is quoted as it stands. -/
theorem rawLog_verbatim_located :
    0 ≤ ({} : Options).warningContinuationLines ∧ (records {} locatedLog).length = 1 ∧
      ∀ r ∈ records {} locatedLog, Verbatim (logicalLines locatedLog) 0 r.rawLog := by
  have hlines : logicalLines locatedLog = [locatedLog] := by decide +kernel
  have hfile : ∀ c ∈ ("main.tex" : Text), Text.isAsciiBlank c = false ∧ c ≠ ':' := by
    intro c hc
    have hall : (("main.tex" : Text).all fun c => !Text.isAsciiBlank c && c != ':') = true := by decide
    simpa using List.all_eq_true.mp hall c hc
  have hdigits : ∀ c ∈ ("3" : Text), Text.isAsciiDigit c = true := List.all_eq_true.mp (by decide)
  have hform : (LineForm.located "main.tex" "3" " Undefined control sequence \\foo").Decides locatedLog :=
    decides_iff.mpr ⟨⟨rfl, by decide, hfile, by decide, hdigits, by decide⟩,
      fun _ => by rw [fits_block_iff]; decide, by simp [LineForm.rank], by simp [LineForm.rank]⟩
  refine ⟨by decide, by decide +kernel, ?_⟩
  obtain ⟨-, places, -, hrecords⟩ := rawLog_verbatim_iff {} locatedLog (by decide)
  rw [hlines, List.forall₂_iff_get] at hrecords
  intro r hr
  obtain ⟨k, hk, rfl⟩ := List.getElem_of_mem hr
  obtain ⟨line, form, hline, hdecides, -, hverbatim⟩ := hrecords.2 k (hrecords.1 ▸ hk) hk
  rw [List.getElem?_singleton] at hline
  split at hline
  · next hzero =>
      obtain rfl := Option.some.inj hline
      rw [hdecides.unique hform, hzero] at hverbatim
      rw [hlines]
      exact hverbatim.mpr ⟨'U', "ndefined control sequence \\foo", rfl, Or.inl (by decide)⟩
  · cases hline

/-- The same log without the blank before the message. -/
def tightLog : Text := "main.tex:3:Undefined control sequence \\foo"

/-- A log with one warning and an empty line after it. -/
def warningLog : Text := "LaTeX Warning: Label(s) may have changed.\n"

/-- A located error with no blank before its message gets one, and a warning that an empty line continues
gets one at its end. -/
theorem rawLog_not_verbatim :
    (∃ r ∈ records {} tightLog, ∀ index, ¬ Verbatim (logicalLines tightLog) index r.rawLog) ∧
      ∃ r ∈ records {} warningLog, ∀ index, ¬ Verbatim (logicalLines warningLog) index r.rawLog := by
  have htight : ∃ r ∈ records {} tightLog, '\n' ∉ r.rawLog ∧ r.rawLog ∉ logicalLines tightLog := by
    decide +kernel
  have hwarning : ∃ r ∈ records {} warningLog, '\n' ∉ r.rawLog ∧ r.rawLog ∉ logicalLines warningLog := by
    decide +kernel
  obtain ⟨r, hr, hplain, hmem⟩ := htight
  obtain ⟨s, hs, hplain', hmem'⟩ := hwarning
  exact ⟨⟨r, hr, fun _ hverbatim => hmem (mem_of_verbatim hverbatim hplain)⟩,
    s, hs, fun _ hverbatim => hmem' (mem_of_verbatim hverbatim hplain')⟩

end TexMend.Log
