import Mathlib.Data.List.Infix
import TexMend.Proofs.Journal.Entry
import TexMend.Proofs.Secret.Clear
import TexMend.Proofs.Text.Lines
import TexMend.Proofs.Text.Stretch

/-!
# Lines for the console without a secret

Between the columns of a console line stands a space, and between a key and its value an equals sign. A secret can
hold both, so a line is clear only if its keys are plain: no key announces a credential, and none is long enough to
be one behind a word that announces it.
-/

namespace TexMend.Journal

open Secret

variable {before text key value : Text} {entry : Fields}

/-- Does the key end with a word that announces a credential? -/
def announces (key : Text) : Bool :=
  key.tails.any fun tail => announcements.any fun word => word.after? tail == some []

theorem announces_of_suffix {announced : Text} (h : ∃ word ∈ announcements, word.Spells announced)
    (hsuffix : announced <:+ key) : announces key = true := by
  obtain ⟨word, hword, hspells⟩ := h
  have hafter : word.after? announced = some [] :=
    Word.after?_eq_some_iff.mpr ⟨announced, hspells, (List.append_nil announced).symm⟩
  rw [announces, List.any_eq_true]
  refine ⟨announced, (List.mem_tails announced key).mpr hsuffix, ?_⟩
  rw [List.any_eq_true]
  exact ⟨word, hword, beq_iff_eq.mpr hafter⟩

/-- A word that announces nothing and is too short to be a credential. -/
structure PlainKey (key : Text) : Prop where
  ne_nil : key ≠ []
  word : key.all Text.isWord = true
  short : key.length < 16
  silent : announces key = false

instance (key : Text) : Decidable (PlainKey key) :=
  decidable_of_iff (key ≠ [] ∧ key.all Text.isWord = true ∧ key.length < 16 ∧ announces key = false)
    ⟨fun ⟨hne, hword, hshort, hsilent⟩ => ⟨hne, hword, hshort, hsilent⟩,
      fun ⟨hne, hword, hshort, hsilent⟩ => ⟨hne, hword, hshort, hsilent⟩⟩

theorem PlainKey.isWord_of_mem (h : PlainKey key) {c : Char} (hc : c ∈ key) : Text.isWord c = true :=
  List.all_eq_true.mp h.word c hc

/-- A plain key with an equals sign and a value. -/
theorem clear_named (hkey : PlainKey key) (hvalue : Clear value) : Clear (key ++ '=' :: value) := by
  intro secret hs hi
  rcases Text.infix_append_cons_cases hi with hi | hi | ⟨left, right, hsecret, hleft, -⟩
  · exact absurd (Nat.le_trans hs.sixteen_le_length hi.length_le) (Nat.not_le_of_lt hkey.short)
  · exact hvalue secret hs hi
  · have hassignment := hs.isAssignment (c := '=') (by simp [hsecret]) (by decide)
    obtain ⟨announced, gap, rfl, hannounced, hgap⟩ := hassignment.before_equals hsecret
    have hnone : gap = [] := by
      apply List.eq_nil_iff_forall_not_mem.mpr
      intro c hc
      have hword := hkey.isWord_of_mem (hleft.subset (List.mem_append_right announced hc))
      have hblank := hgap c hc
      rw [isBlank_eq_false_of_isWord hword] at hblank
      cases hblank
    rw [hnone, List.append_nil] at hleft
    have hannounces := announces_of_suffix hannounced hleft
    rw [hkey.silent] at hannounces
    cases hannounces

/-- No secret reaches from what stands in front of the text into it. -/
def Fenced (text : Text) : Prop :=
  ∀ secret, IsSecret standardKinds secret → ∀ left right, secret = left ++ right → right ≠ [] → ¬ right <+: text

theorem clear_append (hbefore : Clear before) (htext : Clear text) (hfenced : Fenced text) :
    Clear (before ++ text) := by
  intro secret hs hi
  rcases List.infix_append_iff.mp hi with hi | hi | ⟨left, right, hsecret, hleft, hright⟩
  · exact hbefore secret hs hi
  · exact htext secret hs hi
  · by_cases hne : right = []
    · rw [hne, List.append_nil] at hsecret
      exact hbefore secret hs (hsecret ▸ hleft.isInfix)
    · exact hfenced secret hs left right hsecret hne hright

/-- A secret that reaches over a space goes on behind it. -/
theorem exists_behind_space {secret left right : Text} (hs : IsSecret standardKinds secret)
    (hsecret : secret = left ++ right) (hne : right ≠ []) (hright : right <+: ' ' :: text) :
    ∃ c more, right = ' ' :: c :: more ∧ c :: more <+: text := by
  cases right with
  | nil => exact absurd rfl hne
  | cons d right =>
      obtain ⟨rfl, hbehind⟩ := List.cons_prefix_cons.mp hright
      cases right with
      | nil =>
          refine absurd ?_ (hs.getLast?_ne (c := ' ') (by decide))
          rw [hsecret, List.getLast?_concat]
      | cons c more => exact ⟨c, more, rfl, hbehind⟩

theorem fenced_bracket : Fenced (' ' :: '[' :: text) := by
  intro secret hs left right hsecret hne hright
  obtain ⟨c, more, rfl, hbehind⟩ := exists_behind_space hs hsecret hne hright
  obtain ⟨rfl, -⟩ := List.cons_prefix_cons.mp hbehind
  exact hs.not_mem (c := '[') (by decide) (by simp [hsecret])

theorem fenced_named (hkey : PlainKey key) : Fenced (' ' :: (key ++ '=' :: value)) := by
  intro secret hs left right hsecret hne hright
  obtain ⟨c, more, rfl, hbehind⟩ := exists_behind_space hs hsecret hne hright
  have hc : Text.isWord c = true := by
    obtain ⟨d, rest, rfl⟩ := List.exists_cons_of_ne_nil hkey.ne_nil
    obtain ⟨rfl, -⟩ := List.cons_prefix_cons.mp hbehind
    exact hkey.isWord_of_mem List.mem_cons_self
  have hmem {d : Char} (hd : d ∈ c :: more) : d ∈ secret := by
    rw [hsecret]
    exact List.mem_append_right left (List.mem_cons_of_mem ' ' hd)
  have hspace : ' ' ∈ secret := by simp [hsecret]
  rcases hs.isAssignment_or_privateKey hspace with hassignment | hprivate
  · obtain ⟨hrun, hlength⟩ := hassignment.behind_space hsecret hc
    have hinKey := Text.prefix_of_prefix_append_cons (not_mem_of_all hrun (by decide)) hbehind
    exact absurd (Nat.le_trans hlength hinKey.length_le) (Nat.not_le_of_lt hkey.short)
  · have hequals : '=' ∉ c :: more := by
      intro hd
      have hadmits := hprivate.admits_of_mem (hmem hd)
      exact absurd hadmits (by decide)
    have hinKey := Text.prefix_of_prefix_append_cons hequals hbehind
    have hend := List.getLast?_eq_some_getLast (List.cons_ne_nil c more)
    have hlast : secret.getLast? = some ((c :: more).getLast (List.cons_ne_nil c more)) := by
      have hsplit : secret = (left ++ [' ']) ++ c :: more := by simp [hsecret]
      rw [hsplit, List.getLast?_append, hend, Option.some_or]
    have hword := hkey.isWord_of_mem (hinKey.subset (List.mem_of_getLast? hend))
    rw [eq_hyphen_of_privateKey hprivate hlast] at hword
    exact absurd hword (by decide)

/-- No secret stands in a line of the text. -/
def LinesClear (text : Text) : Prop :=
  ∀ line ∈ Text.splitLines text, Clear line

theorem linesClear_of_clear (h : Clear text) : LinesClear text := by
  intro line hline
  have hnewline := Text.newline_not_mem_of_mem_splitLines hline
  have hwithin := (Text.infix_joinLines_iff hnewline (Text.splitLines_ne_nil text)).mpr ⟨line, hline, List.infix_rfl⟩
  rw [Text.joinLines_splitLines] at hwithin
  exact h.within hwithin

/-- What stands on one line of the text has no secret either. -/
theorem LinesClear.clear_within {part : Text} (h : LinesClear text) (hpart : part <:+: text) (hnewline : '\n' ∉ part) :
    Clear part := by
  rw [← Text.joinLines_splitLines text] at hpart
  obtain ⟨line, hline, hpart⟩ := (Text.infix_joinLines_iff hnewline (Text.splitLines_ne_nil text)).mp hpart
  exact (h line hline).within hpart

theorem LinesClear.append_newline {below : Text} (h : LinesClear text) (hbelow : LinesClear below) :
    LinesClear (text ++ '\n' :: below) := by
  intro line hline
  rw [Text.splitLines_append_newline] at hline
  rcases List.mem_append.mp hline with hline | hline
  · exact h line hline
  · exact hbelow line hline

section Columns

/-- Columns that are clear and fenced may follow a clear text, each behind a space. -/
theorem clear_append_columns {columns : List Text} (hbefore : Clear before)
    (h : ∀ column ∈ columns, Clear column ∧ Fenced (' ' :: column)) :
    Clear (before ++ columns.flatMap fun column => ' ' :: column) := by
  induction columns generalizing before with
  | nil =>
      rw [List.flatMap_nil, List.append_nil]
      exact hbefore
  | cons column columns ih =>
      rw [List.forall_mem_cons] at h
      obtain ⟨⟨hclear, hfenced⟩, hrest⟩ := h
      rw [List.flatMap_cons, ← List.append_assoc]
      exact ih (clear_append hbefore ((clear_cons_iff (by decide)).mpr hclear) hfenced) hrest

theorem joinWith_space (column : Text) (columns : List Text) :
    Text.joinWith " " (column :: columns) = column ++ columns.flatMap fun column => ' ' :: column := by
  induction columns generalizing column with
  | nil => simp [Text.joinWith]
  | cons next rest ih =>
      rw [Text.joinWith, ih, List.flatMap_cons, List.append_assoc]
      rfl

theorem clear_pad (width : Nat) (h : Clear text) : Clear (pad width text) := by
  unfold pad
  induction width - text.length with
  | zero =>
      rw [List.replicate_zero, List.append_nil]
      exact h
  | succ n ih =>
      rw [List.replicate_succ', ← List.append_assoc, clear_concat_iff (by decide)]
      exact ih

/-- The columns behind the three that every line has: who tells, and the named fields. -/
def laterColumns (entry : Fields) : List Text :=
  (consoleColumns entry).drop 3

/-- Fields that come sorted by key are shown in their order. -/
theorem consoleColumns_of_sorted
    (h : (entry.filter fun (k, _) => !placedKeys.elem k).Pairwise fun a b => Text.atMost a.1 b.1 = true) :
    consoleColumns entry = bareField "timestamp" entry :: ("[" ++ pad 9 (bareField "level" entry) ++ "]") ::
      pad 30 (bareField "event" entry) ::
        (loggerKeys.filterMap (fun key => (Fields.get? key entry).map fun v => ("[" : Text) ++ v.bare ++ "]") ++
          (entry.filter fun (k, _) => !placedKeys.elem k).map fun (k, v) => k ++ '=' :: v.bare) := by
  rw [consoleColumns, List.mergeSort_of_pairwise h]

theorem joinWith_consoleColumns (entry : Fields) :
    Text.joinWith " " (consoleColumns entry) =
      (bareField "timestamp" entry ++ [' ']) ++ '[' :: (pad 9 (bareField "level" entry) ++ ']' :: ' ' ::
        (pad 30 (bareField "event" entry) ++ (laterColumns entry).flatMap fun column => ' ' :: column)) := by
  have hcolumns : consoleColumns entry = bareField "timestamp" entry ::
      ("[" ++ pad 9 (bareField "level" entry) ++ "]") :: pad 30 (bareField "event" entry) ::
        laterColumns entry := rfl
  rw [hcolumns, joinWith_space]
  simp

end Columns

/-- A field with a clear text and a plain key. -/
def PlainField (field : Text × Value) : Prop :=
  PlainKey field.1 ∧ ∃ t, field.2 = .text t ∧ Clear t

/-- A plain field, or the trace of a failure, which is shown below the line, with clear lines. -/
def FitField (field : Text × Value) : Prop :=
  PlainField field ∨ field.1 = "exception" ∧ ∃ t, field.2 = .text t ∧ LinesClear t

section Line

variable (h : ∀ field ∈ entry, FitField field)

include h

theorem plainField_of_mem {value : Value} (hmem : (key, value) ∈ entry) (hkey : key ≠ "exception") : PlainField (key, value) :=
  (h _ hmem).resolve_right fun hfailure => hkey hfailure.1

theorem clear_bareField (hkey : key ≠ "exception") : Clear (bareField key entry) := by
  rw [bareField]
  cases hget : Fields.get? key entry with
  | none => exact clear_nil
  | some value =>
      obtain ⟨-, t, htext, hclear⟩ := plainField_of_mem h (Fields.mem_of_get? hget) hkey
      obtain rfl : value = .text t := htext
      exact hclear

/-- A later column is a name in brackets, or a plain key with its value. -/
theorem clear_laterColumns : ∀ column ∈ laterColumns entry, Clear column ∧ Fenced (' ' :: column) := by
  intro column hcolumn
  rcases List.mem_append.mp (hcolumn : column ∈ _ ++ _) with hlogger | hnamed
  · obtain ⟨key, hkey, hget⟩ := List.mem_filterMap.mp hlogger
    obtain ⟨value, hvalue, rfl⟩ := Option.map_eq_some_iff.mp hget
    have hother : key ≠ "exception" := ne_of_mem_of_not_mem hkey (by decide)
    obtain ⟨-, t, htext, hclear⟩ := plainField_of_mem h (Fields.mem_of_get? hvalue) hother
    obtain rfl : value = .text t := htext
    have hopened : Clear ('[' :: t) := (clear_cons_iff (by decide)).mpr hclear
    exact ⟨(clear_concat_iff (by decide)).mpr hopened, fenced_bracket⟩
  · obtain ⟨⟨key, value⟩, hmem, rfl⟩ := List.mem_map.mp hnamed
    obtain ⟨hentry, hunplaced⟩ := List.mem_filter.mp (List.mem_mergeSort.mp hmem)
    have hother : key ≠ "exception" := by
      rintro rfl
      exact absurd (show (!placedKeys.elem ("exception" : Text)) = true from hunplaced) (by decide)
    obtain ⟨hkey, t, htext, hclear⟩ := plainField_of_mem h hentry hother
    obtain rfl : value = .text t := htext
    exact ⟨clear_named hkey hclear, fenced_named hkey⟩

theorem clear_columns : Clear (Text.joinWith " " (consoleColumns entry)) := by
  rw [joinWith_consoleColumns]
  refine (clear_append_cons_iff (c := '[') (by decide)).mpr ⟨?_, ?_⟩
  · exact (clear_concat_iff (by decide)).mpr (clear_bareField h (by decide))
  · refine (clear_append_cons_iff (c := ']') (by decide)).mpr ⟨clear_pad 9 (clear_bareField h (by decide)), ?_⟩
    refine (clear_cons_iff (by decide)).mpr ?_
    exact clear_append_columns (clear_pad 30 (clear_bareField h (by decide))) (clear_laterColumns h)

theorem linesClear_of_traceField? {trace : Text} (htrace : traceField? key entry = some trace) :
    LinesClear trace := by
  cases hget : Fields.get? key entry with
  | none => simp [traceField?, hget] at htrace
  | some value =>
      rw [traceField?, hget] at htrace
      rcases h _ (Fields.mem_of_get? hget) with ⟨-, t, htext, hclear⟩ | ⟨-, t, htext, hclear⟩
      · obtain rfl : value = .text t := htext
        exact Option.some.inj htrace ▸ linesClear_of_clear hclear
      · obtain rfl : value = .text t := htext
        exact Option.some.inj htrace ▸ hclear

/-- Every line of a console entry whose fields are fit is clear, those of the traces below it too. -/
theorem linesClear_consoleLine : LinesClear (consoleLine entry) := by
  have hline : LinesClear (Text.dropEndWhile (· == ' ') (Text.joinWith " " (consoleColumns entry))) :=
    linesClear_of_clear ((clear_columns h).within (Text.dropEndWhile_prefix _ _).isInfix)
  have hrule : LinesClear (List.replicate 79 '=') := linesClear_of_clear (clear_iff_detect.mpr (by decide +kernel))
  have hempty : LinesClear [] := linesClear_of_clear clear_nil
  rw [consoleLine, consoleTrace]
  split
  · rw [List.append_nil]
    exact hline
  · next hcalls _ => exact hline.append_newline (linesClear_of_traceField? h hcalls)
  · next _ hfailure => exact hline.append_newline (linesClear_of_traceField? h hfailure)
  · next calls failure hcalls hfailure =>
      have hlast := hempty.append_newline (linesClear_of_traceField? h hfailure)
      have hbelow :=
        (linesClear_of_traceField? h hcalls).append_newline (hempty.append_newline (hrule.append_newline hlast))
      simpa using hline.append_newline hbelow

end Line

/-- The trace of a failure stands at the end of the entry as it is. -/
theorem consoleLine_of_exception {trace : Text} (h : Fields.get? "exception" entry = some (.text trace)) :
    ∃ before, consoleLine entry = before ++ '\n' :: trace := by
  have htrace : traceField? "exception" entry = some trace := by
    rw [traceField?, h]
    rfl
  rw [consoleLine, consoleTrace, htrace]
  cases traceField? "stack" entry with
  | none => exact ⟨_, rfl⟩
  | some calls => exact ⟨_, by simp only [← List.append_assoc]; rfl⟩

end TexMend.Journal
