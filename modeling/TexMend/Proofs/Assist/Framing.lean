import TexMend.Proofs.Assist.Unquoting
import TexMend.Proofs.Text.Phrase

/-!
# Framed replies

A reply may frame its text with a chatty line before it, a code fence around it and a comment after it, each of them
or none. A text that has none of the signs of a frame itself comes back from every frame as it is.
-/

namespace TexMend.Assist

variable {phrases : List Text} {text body rest : Text}

section Begins

/-- The text begins with one of the phrases, in any case. -/
def Begins (phrases : List Text) (text : Text) : Prop :=
  ∃ phrase ∈ phrases, ∃ lead, Text.Folds phrase lead ∧ lead <+: text

theorem beginsWithAny_eq_true_iff : beginsWithAny phrases text = true ↔ Begins phrases text := by
  rw [beginsWithAny, List.any_eq_true]
  apply exists_congr
  intro phrase
  apply and_congr_right
  intro _
  rw [Option.isSome_iff_exists]
  constructor
  · rintro ⟨rest, hrest⟩
    obtain ⟨lead, hlead, rfl⟩ := Text.afterFolded?_eq_some_iff.mp hrest
    exact ⟨lead, hlead, List.prefix_append lead rest⟩
  · rintro ⟨lead, hlead, rest, rfl⟩
    exact ⟨rest, Text.afterFolded?_eq_some_iff.mpr ⟨lead, hlead, rfl⟩⟩

instance (phrases : List Text) (text : Text) : Decidable (Begins phrases text) :=
  decidable_of_iff _ beginsWithAny_eq_true_iff

theorem Begins.append (h : Begins phrases text) (rest : Text) : Begins phrases (text ++ rest) := by
  obtain ⟨phrase, hmem, lead, hlead, hprefix⟩ := h
  exact ⟨phrase, hmem, lead, hlead, hprefix.trans (List.prefix_append text rest)⟩

/-- Each phrase begins with a character that is no blank, and holds neither newlines nor quotes. -/
structure Worded (phrases : List Text) : Prop where
  inked : ∀ phrase ∈ phrases, ∃ c rest, phrase = c :: rest ∧ Text.isBlank c = false
  newline_not_mem : ∀ phrase ∈ phrases, '\n' ∉ phrase
  no_quote : ∀ phrase ∈ phrases, phrase.any isWrappingQuote = false

theorem worded_preamblePhrases : Worded preamblePhrases where
  inked := by simp [preamblePhrases, Text.isBlank]
  newline_not_mem := by decide
  no_quote := by decide

theorem worded_commentaryPhrases : Worded commentaryPhrases where
  inked := by simp [commentaryPhrases, Text.isBlank]
  newline_not_mem := by decide
  no_quote := by decide

theorem caseless_of_isWrappingQuote {c : Char} (h : isWrappingQuote c = true) : Text.Caseless c := by
  simp only [isWrappingQuote, Bool.or_eq_true, beq_iff_eq] at h
  rcases h with (rfl | rfl) | rfl <;> exact Text.caseless_of_not_letter rfl (by decide) (by decide) (by decide) (by decide)

/-- The characters by which a phrase is recognised have neither newlines nor quotes among them. -/
theorem Begins.exists_lead (hw : Worded phrases) (h : Begins phrases text) :
    ∃ lead, Begins phrases lead ∧ lead <+: text ∧ '\n' ∉ lead ∧ ∀ c ∈ lead, isWrappingQuote c = false := by
  obtain ⟨phrase, hmem, lead, hlead, hprefix⟩ := h
  refine ⟨lead, ⟨phrase, hmem, lead, hlead, List.prefix_rfl⟩, hprefix, ?_, ?_⟩
  · have hcase : Text.Caseless '\n' := Text.caseless_of_isBlank rfl
    exact hlead.not_mem hcase (hw.newline_not_mem phrase hmem)
  · intro c hc
    rw [Bool.eq_false_iff]
    intro hquote
    have hnone := List.any_eq_false.mp (hw.no_quote phrase hmem)
    have hphrase : c ∉ phrase := fun hphrase => hnone c hphrase hquote
    exact hlead.not_mem (caseless_of_isWrappingQuote hquote) hphrase hc

/-- What follows a newline does not matter to a beginning. -/
theorem begins_append_newline_iff (hw : Worded phrases) :
    Begins phrases (text ++ '\n' :: rest) ↔ Begins phrases text := by
  constructor
  · intro h
    obtain ⟨lead, hbegins, hprefix, hline, -⟩ := h.exists_lead hw
    obtain ⟨behind, rfl⟩ := Text.prefix_of_prefix_append_cons hline hprefix
    exact hbegins.append behind
  · intro h
    exact h.append _

/-- A text begins as its first line does. -/
theorem Begins.exists_first_line (hw : Worded phrases) (h : Begins phrases text) :
    ∃ line, (Text.splitLines text).head? = some line ∧ Begins phrases line := by
  obtain ⟨line, lines, hlines⟩ := List.exists_cons_of_ne_nil (Text.splitLines_ne_nil text)
  refine ⟨line, by rw [hlines, List.head?_cons], ?_⟩
  rw [← Text.joinLines_splitLines text, hlines] at h
  cases lines with
  | nil => exact h
  | cons next others => exact (begins_append_newline_iff hw).mp h

theorem Begins.exists_cons (hw : Worded phrases) (h : Begins phrases text) :
    ∃ c cs, text = c :: cs ∧ Text.isBlank c = false := by
  obtain ⟨phrase, hmem, lead, hlead, rest, rfl⟩ := h
  obtain ⟨l, ls, rfl, hl⟩ := hw.inked phrase hmem
  cases hlead with
  | @cons _ c _ cs hc _ =>
      refine ⟨c, cs ++ rest, rfl, ?_⟩
      rw [Bool.eq_false_iff]
      intro hblank
      have heq : l = c := Text.caseless_of_isBlank hblank l hc
      rw [heq, hblank] at hl
      cases hl

theorem Begins.ne_nil (hw : Worded phrases) (h : Begins phrases text) : text ≠ [] := by
  obtain ⟨c, cs, rfl, -⟩ := h.exists_cons hw
  exact List.cons_ne_nil c cs

theorem Begins.unquoted_start {c : Char} {cs : Text} (hw : Worded phrases) (h : Begins phrases (c :: cs)) :
    isWrappingQuote c = false := by
  obtain ⟨lead, hbegins, hprefix, -, hquotes⟩ := h.exists_lead hw
  obtain ⟨d, ds, rfl, -⟩ := hbegins.exists_cons hw
  obtain ⟨rfl, -⟩ := List.cons_prefix_cons.mp hprefix
  exact hquotes d List.mem_cons_self

/-- The beginning is still there without the quotes at the end. -/
theorem Begins.dropEndWhile (hw : Worded phrases) (h : Begins phrases text) :
    Begins phrases (Text.dropEndWhile isWrappingQuote text) := by
  obtain ⟨lead, hbegins, ⟨rest, rfl⟩, -, hquotes⟩ := h.exists_lead hw
  rcases List.eq_nil_or_concat lead with rfl | ⟨before, c, rfl⟩
  · obtain ⟨c, cs, hcons, -⟩ := hbegins.exists_cons hw
    cases hcons
  · -- the last character of the lead is no quote, so nothing before it goes
    rw [List.concat_eq_append] at hbegins hquotes ⊢
    have hc : isWrappingQuote c = false := hquotes c List.mem_concat_self
    have hkept := Text.dropEndWhile_append_cons hc before rest
    rw [List.append_assoc, List.singleton_append, hkept, List.append_cons]
    exact hbegins.append _

end Begins

section Frame

/-- A line beside the text of a reply, known by its first words, with some newlines between it and the text. -/
structure Remark (phrases : List Text) where
  line : Text
  gap : Nat
  begins : Begins phrases line
  newline_not_mem : '\n' ∉ line
  fence_free : ¬ fence <:+: line

namespace Remark

/-- The remark and the newlines behind it. -/
def before (r : Remark phrases) : Text :=
  r.line ++ List.replicate (r.gap + 1) '\n'

/-- The newlines and the remark behind them. -/
def behind (r : Remark phrases) : Text :=
  List.replicate (r.gap + 1) '\n' ++ r.line

/-- The remark without the quotes at its end. -/
def unquoteEnd (hw : Worded phrases) (r : Remark phrases) : Remark phrases where
  line := Text.dropEndWhile isWrappingQuote r.line
  gap := r.gap
  begins := r.begins.dropEndWhile hw
  newline_not_mem := fun hmem => r.newline_not_mem ((Text.dropEndWhile_prefix _ _).subset hmem)
  fence_free := fun hfence => r.fence_free (hfence.trans (Text.dropEndWhile_prefix _ _).isInfix)

end Remark

/-- What may stand around the text of a reply. -/
structure Framing where
  preamble : Option (Remark preamblePhrases)
  /-- The tag of the fence, if there is a fence. -/
  tag : Option Tag
  commentary : Option (Remark commentaryPhrases)

/-- The text between the two marks of a fence, each on a line of its own. -/
def fenced : Option Tag → Text → Text
  | none, body => body
  | some tag, body => fence ++ (tag.word ++ '\n' :: (body ++ '\n' :: fence))

/-- What stands before the text. -/
def opening : Option (Remark preamblePhrases) → Text
  | none => []
  | some remark => remark.before

/-- What stands behind the text and its fence. -/
def closing : Option (Remark commentaryPhrases) → Text
  | none => []
  | some remark => remark.behind

/-- The framed text. -/
def Framing.write (f : Framing) (body : Text) : Text :=
  opening f.preamble ++ (fenced f.tag body ++ closing f.commentary)

/-- The text of a reply has none of the signs of a frame: no mark of a fence, no blank and no quote at either end, no
preamble at its start, and no comment on a line after the first. -/
structure Plain (body : Text) : Prop where
  ne_nil : body ≠ []
  trimmed : Text.Trimmed body
  unquoted : Unquoted body
  fence_free : ¬ fence <:+: body
  no_preamble : ¬ Begins preamblePhrases body
  no_commentary : ∀ line ∈ (Text.splitLines body).tail, ¬ Begins commentaryPhrases line

end Frame

section Ending

/-- What is left behind the text once the fence is off. -/
inductive Ending where
  | nothing
  | newline
  | comment (remark : Remark commentaryPhrases)

/-- The mark that closes a fence goes with the newlines behind it, the one before it stays. -/
def ending : Option Tag → Option (Remark commentaryPhrases) → Ending
  | none, none => .nothing
  | some _, none => .newline
  | none, some remark => .comment remark
  | some _, some remark => .comment { remark with gap := 0 }

namespace Ending

def write : Ending → Text
  | nothing => []
  | newline => ['\n']
  | comment remark => remark.behind

def unquoteEnd : Ending → Ending
  | nothing => nothing
  | newline => newline
  | comment remark => comment (remark.unquoteEnd worded_commentaryPhrases)

theorem write_cases (e : Ending) : e.write = [] ∨ ∃ rest, e.write = '\n' :: rest := by
  cases e with
  | nothing => exact .inl rfl
  | newline => exact .inr ⟨[], rfl⟩
  | comment remark => exact .inr ⟨List.replicate remark.gap '\n' ++ remark.line, rfl⟩

theorem begins_append_iff (hw : Worded phrases) (e : Ending) : Begins phrases (text ++ e.write) ↔ Begins phrases text := by
  rcases e.write_cases with hnil | ⟨rest, hcons⟩
  · rw [hnil, List.append_nil]
  · rw [hcons, begins_append_newline_iff hw]

end Ending

end Ending

section Stages

variable {preamble : Option (Remark preamblePhrases)} {tag : Option Tag} {commentary : Option (Remark commentaryPhrases)}
  {e : Ending}

theorem beq_newline_of_not_blank {c : Char} (h : Text.isBlank c = false) : (c == '\n') = false := by
  rw [beq_eq_false_iff_ne]
  rintro rfl
  cases h

theorem Plain.ends_line (h : Plain body) : ∀ before c, body = before ++ [c] → c ≠ '\n' := by
  intro before c heq
  exact beq_eq_false_iff_ne.mp (beq_newline_of_not_blank (h.trimmed.2 before c heq))

theorem Plain.starts_line (h : Plain body) (rest : Text) : ∀ c cs, body ++ rest = c :: cs → Text.isBlank c = false :=
  Text.start_append h.ne_nil h.trimmed.1 rest

theorem Remark.starts_line (hw : Worded phrases) (r : Remark phrases) :
    ∀ c cs, r.line = c :: cs → Text.isBlank c = false := by
  intro c cs heq
  obtain ⟨d, ds, hcons, hd⟩ := r.begins.exists_cons hw
  rw [hcons] at heq
  obtain ⟨rfl, -⟩ := List.cons.inj heq
  exact hd

/-- The mark at the end of a fence is taken off. -/
theorem dropOpenFencesFrom_closing :
    '\n' :: dropOpenFencesFrom true 0 (fence ++ closing commentary) = (ending (some .bare) commentary).write := by
  cases commentary with
  | none => rfl
  | some remark =>
      have hmark := dropOpenFencesFrom_fence .bare remark.gap (remark.starts_line worded_commentaryPhrases)
      rw [dropOpenFencesFrom_eq_self remark.fence_free] at hmark
      exact congrArg (List.cons '\n') hmark

theorem ending_write_some (tag : Tag) : (ending (some tag) commentary).write = (ending (some .bare) commentary).write := by
  cases commentary <;> rfl

theorem not_infix_append_write (h : ¬ fence <:+: text) (e : Ending) : ¬ fence <:+: text ++ e.write := by
  cases e with
  | nothing => rwa [Ending.write, List.append_nil]
  | newline =>
      have hempty : ¬ fence <:+: [] := by decide
      rw [Ending.write, Text.infix_append_cons_iff newline_not_mem_fence]
      exact not_or.mpr ⟨h, hempty⟩
  | comment remark =>
      rw [Ending.write, Remark.behind, ← List.append_assoc]
      exact not_infix_append_newlines h remark.fence_free remark.gap

/-- The fence around the text is taken off. -/
theorem dropOpenFencesFrom_fenced (h : Plain body) :
    dropOpenFencesFrom true 0 (fenced tag body ++ closing commentary) = body ++ (ending tag commentary).write := by
  cases tag with
  | none =>
      have hending : closing commentary = (ending none commentary).write := by
        cases commentary <;> rfl
      rw [fenced, hending]
      exact dropOpenFencesFrom_eq_self (not_infix_append_write h.fence_free _)
  | some tag =>
      have hstart := h.starts_line ('\n' :: (fence ++ closing commentary))
      calc dropOpenFencesFrom true 0 (fenced (some tag) body ++ closing commentary)
          = dropOpenFencesFrom true 0 (fence ++ (tag.word ++ List.replicate (0 + 1) '\n' ++
              (body ++ '\n' :: (fence ++ closing commentary)))) := by simp [fenced]
        _ = dropOpenFencesFrom true 0 (body ++ '\n' :: (fence ++ closing commentary)) :=
            dropOpenFencesFrom_fence tag 0 hstart
        _ = body ++ '\n' :: dropOpenFencesFrom true 0 (fence ++ closing commentary) :=
            dropOpenFencesFrom_line h.fence_free
        _ = body ++ (ending (some tag) commentary).write := by
            rw [dropOpenFencesFrom_closing, ending_write_some tag]

theorem dropOpenFences_write (h : Plain body) (f : Framing) :
    dropOpenFences (f.write body) = opening f.preamble ++ (body ++ (ending f.tag f.commentary).write) := by
  rw [dropOpenFences, Framing.write]
  cases f.preamble with
  | none => exact dropOpenFencesFrom_fenced h
  | some remark =>
      rw [opening, Remark.before, dropOpenFencesFrom_lines remark.fence_free, dropOpenFencesFrom_fenced h]

theorem dropCloseFences_framed (h : Plain body) (e : Ending) :
    dropCloseFences (opening preamble ++ (body ++ e.write)) = opening preamble ++ (body ++ e.write) := by
  have hrest : ¬ fence <:+: body ++ e.write := not_infix_append_write h.fence_free e
  apply dropCloseFences_eq_self
  cases preamble with
  | none => exact hrest
  | some remark => exact not_infix_append_newlines remark.fence_free hrest remark.gap

/-- Neither the remark before the text nor the text begins with a quote. -/
theorem unquoted_start (h : Plain body) (rest : Text) :
    ∀ c cs, opening preamble ++ (body ++ rest) = c :: cs → isWrappingQuote c = false := by
  cases preamble with
  | none => exact Text.start_append h.ne_nil h.unquoted.1 rest
  | some remark =>
      have hline : ∀ c cs, remark.line = c :: cs → isWrappingQuote c = false := by
        intro c cs hcons
        have hbegins := remark.begins
        rw [hcons] at hbegins
        exact hbegins.unquoted_start worded_preamblePhrases
      rw [opening, Remark.before, List.append_assoc]
      exact Text.start_append (remark.begins.ne_nil worded_preamblePhrases) hline _

/-- At most a comment loses quotes, those at its end. -/
theorem dropQuotes_framed (h : Plain body) (e : Ending) :
    dropQuotes (opening preamble ++ (body ++ e.write)) = opening preamble ++ (body ++ e.unquoteEnd.write) := by
  have hends : ∀ before c, opening preamble ++ body = before ++ [c] → c ≠ '\n' :=
    Text.end_append h.ne_nil h.ends_line _
  have hunquoted : Unquoted (opening preamble ++ body) := by
    have hstart : ∀ c cs, opening preamble ++ (body ++ []) = c :: cs → isWrappingQuote c = false := unquoted_start h []
    rw [List.append_nil] at hstart
    exact ⟨hstart, Text.end_append h.ne_nil h.unquoted.2 _⟩
  cases e with
  | nothing =>
      simp only [Ending.unquoteEnd, Ending.write, List.append_nil]
      rw [dropQuotes_eq_unquote hends, unquote_eq_self hunquoted]
  | newline =>
      have hne : opening preamble ++ body ≠ [] := List.append_ne_nil_of_right_ne_nil _ h.ne_nil
      simp only [Ending.unquoteEnd, Ending.write, ← List.append_assoc]
      exact dropQuotes_append_newline hne hunquoted hends
  | comment remark =>
      have hkept : Text.dropEndWhile isWrappingQuote remark.line ≠ [] :=
        (remark.begins.dropEndWhile worded_commentaryPhrases).ne_nil worded_commentaryPhrases
      have hline : ∀ before c, remark.line = before ++ [c] → c ≠ '\n' := by
        rintro before c heq rfl
        apply remark.newline_not_mem
        rw [heq]
        exact List.mem_concat_self
      have hstart : ∀ c cs, opening preamble ++ (body ++ remark.behind) = c :: cs → isWrappingQuote c = false :=
        unquoted_start h _
      simp only [Ending.unquoteEnd, Ending.write, Remark.behind, ← List.append_assoc] at hstart ⊢
      exact dropQuotes_append hstart hline hkept

/-- The line is taken off with all newlines behind it. -/
theorem dropPreamble_before (remark : Remark preamblePhrases)
    (hstart : ∀ c cs, rest = c :: cs → (c == '\n') = false) : dropPreamble (remark.before ++ rest) = rest := by
  have hbegins : beginsWithAny preamblePhrases (remark.before ++ rest) = true := by
    rw [beginsWithAny_eq_true_iff, Remark.before, List.append_assoc]
    exact remark.begins.append _
  have hline : (remark.before ++ rest).takeWhile (· != '\n') = remark.line := by
    rw [Remark.before, List.replicate_succ, List.append_assoc, List.cons_append]
    exact Text.takeWhile_append_cons (Text.bne_newline_of_mem remark.newline_not_mem) rfl
  have hbehind : (remark.before ++ rest).drop remark.line.length = List.replicate (remark.gap + 1) '\n' ++ rest := by
    rw [Remark.before, List.append_assoc, List.drop_left]
  rw [dropPreamble, if_pos hbegins]
  simp only [hline, hbehind]
  exact Text.dropWhile_replicate_append rfl (remark.gap + 1) hstart

/-- The line before the text is taken off, and its newlines with it. -/
theorem dropPreamble_framed (h : Plain body) (e : Ending) :
    dropPreamble (opening preamble ++ (body ++ e.write)) = body ++ e.write := by
  cases preamble with
  | none =>
      have hbegins : ¬ beginsWithAny preamblePhrases (body ++ e.write) = true := by
        rw [beginsWithAny_eq_true_iff, e.begins_append_iff worded_preamblePhrases]
        exact h.no_preamble
      rw [opening, List.nil_append, dropPreamble, if_neg hbegins]
  | some remark =>
      exact dropPreamble_before remark fun _ _ heq => beq_newline_of_not_blank (h.starts_line e.write _ _ heq)

/-- No comment begins behind a newline of the text. -/
theorem Plain.not_begins_behind (h : Plain body) {before behind : Text} (heq : body = before ++ '\n' :: behind) :
    ¬ Begins commentaryPhrases behind := by
  intro hbegins
  obtain ⟨line, hline, hfirst⟩ := hbegins.exists_first_line worded_commentaryPhrases
  obtain ⟨first, others, hlines⟩ := List.exists_cons_of_ne_nil (Text.splitLines_ne_nil before)
  have hmem : line ∈ (Text.splitLines body).tail := by
    rw [heq, Text.splitLines_append_newline, hlines]
    exact List.mem_append_right others (List.mem_of_mem_head? hline)
  exact h.no_commentary line hmem hfirst

/-- The characters before a run of newlines and those behind it. -/
theorem exists_behind_newlines (text : Text) :
    ∃ before, '\n' :: text = before ++ '\n' :: text.dropWhile (· == '\n') := by
  rcases List.eq_nil_or_concat ('\n' :: text.takeWhile (· == '\n')) with hnil | ⟨before, c, hrun⟩
  · cases hnil
  · rw [List.concat_eq_append] at hrun
    have hc : c = '\n' := by
      have hmem : c ∈ '\n' :: text.takeWhile (· == '\n') := hrun ▸ List.mem_concat_self
      rcases List.mem_cons.mp hmem with hc | hc
      · exact hc
      · have hnewline := List.mem_takeWhile_imp hc
        exact beq_iff_eq.mp hnewline
    refine ⟨before, ?_⟩
    calc '\n' :: text
        = '\n' :: text.takeWhile (· == '\n') ++ text.dropWhile (· == '\n') := by
          rw [List.cons_append, List.takeWhile_append_dropWhile]
      _ = before ++ '\n' :: text.dropWhile (· == '\n') := by
          rw [hrun, hc, List.append_assoc, List.singleton_append]

theorem dropCommentary_cons_of_not_begins {c : Char} {cs : Text}
    (h : c = '\n' → ¬ Begins commentaryPhrases (cs.dropWhile (· == '\n'))) :
    dropCommentary (c :: cs) = c :: dropCommentary cs := by
  rw [dropCommentary]
  apply if_neg
  rw [Bool.and_eq_true, decide_eq_true_eq, beginsWithAny_eq_true_iff]
  rintro ⟨rfl, hbegins⟩
  exact h rfl hbegins

/-- A text stays in which no comment begins behind a newline. -/
theorem dropCommentary_append (hbehind : ∀ before behind, body = before ++ '\n' :: behind → ¬ Begins commentaryPhrases behind)
    (hends : ∀ before c, body = before ++ [c] → c ≠ '\n') (e : Ending) :
    dropCommentary (body ++ e.write) = body ++ dropCommentary e.write := by
  induction body with
  | nil => rfl
  | cons c cs ih =>
      have hrest : dropCommentary (cs ++ e.write) = cs ++ dropCommentary e.write := by
        apply ih
        · rintro before behind rfl
          exact hbehind (c :: before) behind rfl
        · rintro before d rfl
          exact hends (c :: before) d rfl
      have hkept : c = '\n' → ¬ Begins commentaryPhrases ((cs ++ e.write).dropWhile (· == '\n')) := by
        rintro rfl
        obtain ⟨before, hbefore⟩ := exists_behind_newlines cs
        -- the run of newlines ends within the text
        have hinside : ¬ (cs.dropWhile (· == '\n')).isEmpty = true := by
          intro hempty
          rw [List.isEmpty_iff.mp hempty] at hbefore
          exact hends before '\n' hbefore rfl
        rw [List.dropWhile_append, if_neg hinside, e.begins_append_iff worded_commentaryPhrases]
        exact hbehind before _ hbefore
      rw [List.cons_append, dropCommentary_cons_of_not_begins hkept, hrest]
      rfl

/-- Of a comment nothing is left, and a newline stays. -/
theorem dropCommentary_ending (e : Ending) : dropCommentary e.write = [] ∨ dropCommentary e.write = ['\n'] := by
  cases e with
  | nothing => exact .inl rfl
  | newline => exact .inr rfl
  | comment remark =>
      left
      have hstart : ∀ c cs, remark.line = c :: cs → (c == '\n') = false :=
        fun _ _ heq => beq_newline_of_not_blank (remark.starts_line worded_commentaryPhrases _ _ heq)
      have hbehind : ('\n' :: (List.replicate remark.gap '\n' ++ remark.line)).dropWhile (· == '\n') = remark.line :=
        Text.dropWhile_replicate_append rfl (remark.gap + 1) hstart
      have hsingle : singleLineEnd? remark.line = some [] := by
        have hline : remark.line.dropWhile (· != '\n') = [] :=
          List.dropWhile_eq_nil_iff.mpr (Text.bne_newline_of_mem remark.newline_not_mem)
        rw [singleLineEnd?, hline]
      have hbegins := beginsWithAny_eq_true_iff.mpr remark.begins
      rw [Ending.write, Remark.behind, List.replicate_succ, List.cons_append, dropCommentary]
      simp only [hbehind, hbegins, hsingle]
      rfl

theorem Plain.strip_append_newline (h : Plain body) : Text.strip (body ++ ['\n']) = body := by
  have hblank : ∀ c ∈ ['\n'], Text.isBlank c = true := by simp [Text.isBlank]
  rw [Text.strip, Text.dropWhile_eq_self (h.starts_line ['\n'])]
  exact Text.dropEndWhile_append_stretch h.trimmed.2 hblank

/-- A text without signs of a frame comes back from every frame as it is. -/
theorem clean_write (h : Plain body) (f : Framing) : clean (f.write body) = body := by
  have hcommentary := dropCommentary_append (fun _ _ => h.not_begins_behind) h.ends_line
    (ending f.tag f.commentary).unquoteEnd
  rw [clean, dropOpenFences_write h, dropCloseFences_framed h, dropQuotes_framed h, dropPreamble_framed h, hcommentary]
  rcases dropCommentary_ending (ending f.tag f.commentary).unquoteEnd with hend | hend
  · rw [hend, List.append_nil, Text.strip_eq_self h.trimmed]
  · rw [hend, h.strip_append_newline]

/-- A reply with a line before its fence and a comment behind it. -/
theorem clean_write_reply :
    Plain "x `y' z\n\nthis" ∧ ∃ f : Framing,
      f.write "x `y' z\n\nthis" = "Sure, here:\n\n```tex\nx `y' z\n\nthis\n```\nNote: it is 'done'" ∧
      clean (f.write "x `y' z\n\nthis") = "x `y' z\n\nthis" := by
  have hplain : Plain "x `y' z\n\nthis" := by
    have hstrip : Text.strip ("x `y' z\n\nthis" : Text) = ("x `y' z\n\nthis" : Text) := rfl
    have hunquote : unquote ("x `y' z\n\nthis" : Text) = ("x `y' z\n\nthis" : Text) := rfl
    exact ⟨by decide, hstrip ▸ Text.trimmed_strip _, hunquote ▸ unquoted_unquote _, not_infix_of_includes rfl, by decide,
      by decide⟩
  exact ⟨hplain, ⟨some ⟨"Sure, here:", 1, by decide, by decide, not_infix_of_includes rfl⟩, some .tex,
    some ⟨"Note: it is 'done'", 0, by decide, by decide, not_infix_of_includes rfl⟩⟩, rfl, clean_write hplain _⟩

end Stages

end TexMend.Assist
