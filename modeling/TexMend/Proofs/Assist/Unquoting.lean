import TexMend.Proofs.Assist.Fences
import TexMend.Proofs.Text.Lines

/-!
# Quotes at the ends of a reply

The quotes at the start and those at the end are taken off on their own, so a line loses a quote at one end even if
there is none at the other. A reply of one line without fences comes out as it is exactly if it has no quote at either
end.
-/

namespace TexMend.Assist

variable {text : Text}

section Unquote

/-- The text has no quote at either end. -/
def Unquoted (text : Text) : Prop :=
  (∀ c rest, text = c :: rest → isWrappingQuote c = false) ∧
    ∀ before c, text = before ++ [c] → isWrappingQuote c = false

/-- The text without the quotes at its ends. -/
def unquote (text : Text) : Text :=
  Text.dropEndWhile isWrappingQuote (text.dropWhile isWrappingQuote)

theorem unquote_eq_self (h : Unquoted text) : unquote text = text := by
  rw [unquote, Text.dropWhile_eq_self h.1, Text.dropEndWhile_eq_self h.2]

theorem unquoted_unquote (text : Text) : Unquoted (unquote text) := by
  refine ⟨?_, fun _ _ => Text.eq_false_of_dropEndWhile_eq_append⟩
  intro c rest hstart
  obtain ⟨dropped, hdropped⟩ := Text.dropEndWhile_prefix isWrappingQuote (text.dropWhile isWrappingQuote)
  have hcons : text.dropWhile isWrappingQuote = c :: (rest ++ dropped) := by
    rw [← hdropped, ← List.cons_append, ← hstart]
    rfl
  exact Text.eq_false_of_dropWhile_eq_cons hcons

/-- What is taken off is quotes. -/
theorem exists_quotes_around (text : Text) :
    ∃ left right, text = left ++ unquote text ++ right ∧ ∀ c ∈ left ++ right, isWrappingQuote c = true := by
  obtain ⟨right, hright, hquotes⟩ := Text.exists_dropEndWhile_append isWrappingQuote (text.dropWhile isWrappingQuote)
  refine ⟨text.takeWhile isWrappingQuote, right, ?_, ?_⟩
  · rw [List.append_assoc, unquote, hright, List.takeWhile_append_dropWhile]
  · intro c hc
    rcases List.mem_append.mp hc with hc | hc
    · exact List.mem_takeWhile_imp hc
    · exact hquotes c hc

theorem length_strip_le (text : Text) : (Text.strip text).length ≤ text.length :=
  Nat.le_trans (Text.dropEndWhile_prefix _ _).length_le (List.dropWhile_suffix _).length_le

/-- A text that has a quote at an end gets shorter. -/
theorem unquoted_of_length_le (h : text.length ≤ (unquote text).length) : Unquoted text := by
  obtain ⟨left, right, htext, -⟩ := exists_quotes_around text
  have hlength := congrArg List.length htext
  simp only [List.length_append] at hlength
  have hleft : left = [] := List.eq_nil_of_length_eq_zero (by omega)
  have hright : right = [] := List.eq_nil_of_length_eq_zero (by omega)
  rw [hleft, hright, List.nil_append, List.append_nil] at htext
  rw [htext]
  exact unquoted_unquote text

end Unquote

section OneLine

/-- A text that ends with a character of a line loses its quotes. -/
theorem dropQuotes_eq_unquote (h : ∀ before c, text = before ++ [c] → c ≠ '\n') : dropQuotes text = unquote text := by
  have hbody : Text.dropEndWhile (· == '\n') (text.dropWhile isWrappingQuote) = text.dropWhile isWrappingQuote := by
    apply Text.dropEndWhile_eq_self
    intro before c hend
    rw [beq_eq_false_iff_ne]
    obtain ⟨left, hleft⟩ := List.dropWhile_suffix isWrappingQuote (l := text)
    apply h (left ++ before) c
    rw [← hleft, hend, List.append_assoc]
  have hlength : ¬ (text.dropWhile isWrappingQuote).length + 1 = (text.dropWhile isWrappingQuote).length := by omega
  simp only [dropQuotes, hbody, if_neg hlength]
  rfl

/-- If a text does not begin with a quote, it loses those at its end only. -/
theorem dropQuotes_append {before line : Text} (hstart : ∀ c rest, before ++ line = c :: rest → isWrappingQuote c = false)
    (hend : ∀ left c, line = left ++ [c] → c ≠ '\n') (hkept : Text.dropEndWhile isWrappingQuote line ≠ []) :
    dropQuotes (before ++ line) = before ++ Text.dropEndWhile isWrappingQuote line := by
  have hne : line ≠ [] := by
    rintro rfl
    exact hkept rfl
  rw [dropQuotes_eq_unquote (Text.end_append hne hend before), unquote, Text.dropWhile_eq_self hstart]
  exact Text.dropEndWhile_append hkept before

/-- A newline at the end stays, with what stands before it. -/
theorem dropQuotes_append_newline (hne : text ≠ []) (hunquoted : Unquoted text)
    (h : ∀ before c, text = before ++ [c] → c ≠ '\n') : dropQuotes (text ++ ['\n']) = text ++ ['\n'] := by
  have hstart : (text ++ ['\n']).dropWhile isWrappingQuote = text ++ ['\n'] :=
    Text.dropWhile_eq_self (Text.start_append hne hunquoted.1 ['\n'])
  have hbody : Text.dropEndWhile (· == '\n') (text ++ ['\n']) = text :=
    Text.dropEndWhile_append_stretch (fun before c heq => beq_eq_false_iff_ne.mpr (h before c heq)) (by simp)
  simp only [dropQuotes, hstart, hbody, Text.dropEndWhile_eq_self hunquoted.2]
  simp

/-- A first line is taken off only with the newlines behind it. -/
theorem dropPreamble_of_not_mem (h : '\n' ∉ text) : dropPreamble text = text := by
  have hline : text.takeWhile (· != '\n') = text := List.takeWhile_eq_self_iff.mpr (Text.bne_newline_of_mem h)
  unfold dropPreamble
  split
  · simp only [hline, List.drop_length]
  · rfl

/-- A last line is taken off only with the newlines before it. -/
theorem dropCommentary_of_not_mem (h : '\n' ∉ text) : dropCommentary text = text := by
  induction text with
  | nil => rfl
  | cons c cs ih =>
      rw [List.mem_cons, not_or] at h
      have hc : ¬ c = '\n' := Ne.symm h.1
      rw [dropCommentary, ih h.2]
      simp [hc]

theorem clean_line (hline : '\n' ∉ text) (hfence : ¬ fence <:+: text) : clean text = Text.strip (unquote text) := by
  have hend : ∀ before c, text = before ++ [c] → c ≠ '\n' := by
    rintro before c rfl rfl
    exact hline List.mem_concat_self
  obtain ⟨left, right, htext, -⟩ := exists_quotes_around text
  have hunquote : '\n' ∉ unquote text := by
    intro hmem
    rw [htext] at hline
    exact hline (List.mem_append_left _ (List.mem_append_right _ hmem))
  rw [clean, dropOpenFences, dropOpenFencesFrom_eq_self hfence, dropCloseFences_eq_self hfence,
    dropQuotes_eq_unquote hend, dropPreamble_of_not_mem hunquote, dropCommentary_of_not_mem hunquote]

/-- A reply of one line without fences and without blanks around it loses the quotes at its ends, at each end on its
own, and blanks next to them. So it comes out as it is exactly if there is no quote at either end. -/
theorem clean_line_eq_self_iff (hline : '\n' ∉ text) (htrimmed : Text.Trimmed text) (hfence : ¬ fence <:+: text) :
    (∃ left kept right, text = left ++ kept ++ right ∧ (∀ c ∈ left ++ right, isWrappingQuote c = true) ∧
      Unquoted kept ∧ clean text = Text.strip kept) ∧
    (clean text = text ↔ Unquoted text) := by
  have hclean := clean_line hline hfence
  obtain ⟨left, right, htext, hquotes⟩ := exists_quotes_around text
  refine ⟨⟨left, unquote text, right, htext, hquotes, unquoted_unquote text, hclean⟩, ?_⟩
  constructor
  · intro hsame
    have hle := length_strip_le (unquote text)
    rw [← hclean, hsame] at hle
    exact unquoted_of_length_le hle
  · intro hunquoted
    rw [hclean, unquote_eq_self hunquoted, Text.strip_eq_self htrimmed]

/-- Quotes inside a line stay. -/
theorem clean_line_eq_self_iff_inner :
    '\n' ∉ ("a `b' c" : Text) ∧ Text.Trimmed ("a `b' c" : Text) ∧ ¬ fence <:+: ("a `b' c" : Text) ∧
      Unquoted ("a `b' c" : Text) ∧ clean "a `b' c" = "a `b' c" := by
  have hline : '\n' ∉ ("a `b' c" : Text) := by decide
  have hstrip : Text.strip ("a `b' c" : Text) = ("a `b' c" : Text) := rfl
  have htrimmed : Text.Trimmed ("a `b' c" : Text) := hstrip ▸ Text.trimmed_strip _
  have hfence : ¬ fence <:+: ("a `b' c" : Text) := not_infix_of_includes rfl
  have hunquote : unquote ("a `b' c" : Text) = ("a `b' c" : Text) := rfl
  have hunquoted : Unquoted ("a `b' c" : Text) := hunquote ▸ unquoted_unquote _
  exact ⟨hline, htrimmed, hfence, hunquoted, (clean_line_eq_self_iff hline htrimmed hfence).2.mpr hunquoted⟩

/-- A line that ends in a quotation loses its closing marks, though it does not begin with any. -/
theorem closing_quotation_lost :
    '\n' ∉ ("He said ``yes''" : Text) ∧ Text.Trimmed ("He said ``yes''" : Text) ∧
      ¬ fence <:+: ("He said ``yes''" : Text) ∧ beginsWithAny preamblePhrases "He said ``yes''" = false ∧
      ("He said ``yes''" : Text).head?.any isWrappingQuote = false ∧
      clean "He said ``yes''" = "He said ``yes" := by
  have hstrip : Text.strip ("He said ``yes''" : Text) = ("He said ``yes''" : Text) := rfl
  exact ⟨by decide, hstrip ▸ Text.trimmed_strip _, not_infix_of_includes rfl, rfl, rfl, rfl⟩

end OneLine

end TexMend.Assist
