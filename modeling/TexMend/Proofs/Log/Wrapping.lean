import TexMend.Log.Parse
import TexMend.Proofs.Log.Unwrapping

/-!
# Reading wrapped logs

What a log says does not depend on how its writer breaks lines: neither on the column, as long as no line
ends exactly there, nor on carriage returns. Only the mark of a written document is looked for in the raw
text, where a break may hide it.
-/

namespace TexMend.Log

/-- Neither character of a line end. -/
def IsPlainLine (line : Text) : Prop :=
  '\n' ∉ line ∧ '\r' ∉ line

instance (line : Text) : Decidable (IsPlainLine line) :=
  inferInstanceAs (Decidable (_ ∧ _))

theorem IsPlainLine.of_mem_wrap {line piece : Text} (h : IsPlainLine line) (hp : piece ∈ wrap line) :
    IsPlainLine piece := by
  have hsub := (infix_of_mem_wrap hp).subset
  exact ⟨fun hm => h.1 (hsub hm), fun hm => h.2 (hsub hm)⟩

/-- Plain lines that are joined and cut again are rejoined as they stand. -/
theorem logicalLines_joinLines {lines : List Text} (hne : lines ≠ [])
    (hplain : ∀ line ∈ lines, IsPlainLine line) :
    logicalLines (Text.joinLines lines) = rejoin lines := by
  have hreturn : '\r' ∉ Text.joinLines lines := by
    intro hm
    rcases Text.mem_joinLines hm with h | ⟨line, hl, hc⟩
    · exact absurd h (by decide)
    · exact (hplain line hl).2 hc
  rw [logicalLines, unifyNewlines_of_not_mem hreturn,
    Text.splitLines_joinLines hne fun line hl => (hplain line hl).1]

theorem flatMap_wrap_ne_nil {lines : List Text} (hne : lines ≠ []) : lines.flatMap wrap ≠ [] := by
  obtain ⟨line, rest, rfl⟩ := List.exists_cons_of_ne_nil hne
  simp [wrap_ne_nil]

/-- Wrapped lines are read as they were before. -/
theorem logicalLines_wrapped {lines : List Text} (hne : lines ≠ [])
    (hplain : ∀ line ∈ lines, IsPlainLine line) :
    logicalLines (Text.joinLines (lines.flatMap wrap)) = lines := by
  rw [logicalLines_joinLines (flatMap_wrap_ne_nil hne), rejoin_flatMap_wrap]
  intro piece hp
  obtain ⟨line, hl, hw⟩ := List.mem_flatMap.mp hp
  exact (hplain line hl).of_mem_wrap hw

/-- A text that a wrapping writer could have produced is what wrapping its lines gives. -/
theorem wrapped_logicalLines {text : Text} (hreturn : '\r' ∉ text)
    (hwidth : ∀ raw ∈ Text.splitLines text, raw.length ≤ wrapWidth)
    (hlast : ∀ raw, (Text.splitLines text).getLast? = some raw → raw.length < wrapWidth) :
    Text.joinLines ((logicalLines text).flatMap wrap) = text := by
  rw [logicalLines, unifyNewlines_of_not_mem hreturn, flatMap_wrap_rejoin hwidth hlast,
    Text.joinLines_splitLines]

/-- The records depend on the logical lines only. -/
theorem records_congr {options : Options} {log log' : Text} (h : logicalLines log = logicalLines log') :
    records options log = records options log' := by
  simp only [records, h]

/-- A mark that no break has cut stands in a whole line. -/
theorem includes_producedMark_of_wrapped {lines : List Text} (hne : lines ≠ [])
    (h : Text.includes producedMark (Text.joinLines (lines.flatMap wrap)) = true) :
    Text.includes producedMark (Text.joinLines lines) = true := by
  rw [Text.includes_iff_infix] at h ⊢
  rw [Text.infix_joinLines_iff newline_not_mem_producedMark (flatMap_wrap_ne_nil hne)] at h
  rw [Text.infix_joinLines_iff newline_not_mem_producedMark hne]
  obtain ⟨piece, hp, hm⟩ := h
  obtain ⟨line, hl, hw⟩ := List.mem_flatMap.mp hp
  exact ⟨line, hl, hm.trans (infix_of_mem_wrap hw)⟩

theorem logicalLines_withCarriageReturns {text : Text} (hreturn : '\r' ∉ text) :
    logicalLines (withCarriageReturns text) = logicalLines text := by
  rw [logicalLines, logicalLines, unifyNewlines_withCarriageReturns hreturn,
    unifyNewlines_of_not_mem hreturn]

/-- Carriage returns before the newlines change nothing in what a log says. -/
theorem parse_withCarriageReturns_eq (options : Options) {text : Text} (hreturn : '\r' ∉ text) :
    parse options (withCarriageReturns text) = parse options text := by
  have hmark : Text.includes producedMark (withCarriageReturns text) =
      Text.includes producedMark text := by
    rw [Bool.eq_iff_iff, Text.includes_iff_infix, Text.includes_iff_infix]
    exact infix_withCarriageReturns_iff newline_not_mem_producedMark return_not_mem_producedMark
  simp only [parse, records_congr (logicalLines_withCarriageReturns hreturn), hmark]

/-- Wrapping and rejoining undo each other: on plain lines in one direction, on texts that a wrapping
writer could have produced in the other. So wrapped lines give the records of the lines themselves, unless
one of these has exactly the full width, and carriage returns before the newlines change nothing. -/
theorem wrapping_undone (options : Options) :
    (∀ line, ∃ full last, wrap line = full ++ [last] ∧ (∀ piece ∈ full, piece.length = wrapWidth) ∧
      last.length < wrapWidth ∧ full.flatten ++ last = line) ∧
    (∀ lines : List Text, lines ≠ [] → (∀ line ∈ lines, IsPlainLine line) →
      logicalLines (Text.joinLines (lines.flatMap wrap)) = lines) ∧
    (∀ text : Text, '\r' ∉ text → (∀ raw ∈ Text.splitLines text, raw.length ≤ wrapWidth) →
      (∀ raw, (Text.splitLines text).getLast? = some raw → raw.length < wrapWidth) →
      Text.joinLines ((logicalLines text).flatMap wrap) = text) ∧
    (∀ lines : List Text, lines ≠ [] → (∀ line ∈ lines, IsPlainLine line) →
      (∀ line ∈ lines, line.length ≠ wrapWidth) →
      (parse options (Text.joinLines (lines.flatMap wrap))).errors =
        (parse options (Text.joinLines lines)).errors ∧
      (parse options (Text.joinLines (lines.flatMap wrap))).warnings =
        (parse options (Text.joinLines lines)).warnings ∧
      ((parse options (Text.joinLines (lines.flatMap wrap))).pdfProduced = true →
        (parse options (Text.joinLines lines)).pdfProduced = true)) ∧
    (∀ text : Text, '\r' ∉ text →
      parse options (withCarriageReturns text) = parse options text) := by
  refine ⟨wrap_spec, fun _ => logicalLines_wrapped, fun _ => wrapped_logicalLines, ?_,
    fun _ => parse_withCarriageReturns_eq options⟩
  intro lines hne hplain hfull
  have hlines : logicalLines (Text.joinLines (lines.flatMap wrap)) =
      logicalLines (Text.joinLines lines) := by
    rw [logicalLines_wrapped hne hplain, logicalLines_joinLines hne hplain, rejoin_of_forall_ne hfull]
  have hrecords : records options _ = records options _ := records_congr hlines
  refine ⟨?_, ?_, includes_producedMark_of_wrapped hne⟩
  · simp only [parse, hrecords]
  · simp only [parse, hrecords]

/-- A line that needs a break, an empty one, and one that starts a record. -/
theorem wrapping_undone_long_line :
    (∀ line ∈ [List.replicate 100 'x', [], "! Extra alignment tab"], IsPlainLine line) ∧
    (∀ line ∈ [List.replicate 100 'x', [], "! Extra alignment tab"], line.length ≠ wrapWidth) ∧
    logicalLines (Text.joinLines ([List.replicate 100 'x', [], "! Extra alignment tab"].flatMap wrap)) =
      [List.replicate 100 'x', [], "! Extra alignment tab"] ∧
    (parse {} (Text.joinLines
      ([List.replicate 100 'x', [], "! Extra alignment tab"].flatMap wrap))).errors.length = 1 ∧
    Text.joinLines ((logicalLines "! Extra\n\nl.3 ".toList).flatMap wrap) = "! Extra\n\nl.3 ".toList ∧
    parse {} (withCarriageReturns "! Extra\n\nl.3 ") = parse {} "! Extra\n\nl.3 " := by
  have hplain : ∀ line ∈ [List.replicate 100 'x', [], "! Extra alignment tab"], IsPlainLine line := by
    decide
  have hwidth : ∀ line ∈ [List.replicate 100 'x', [], "! Extra alignment tab"],
      line.length ≠ wrapWidth := by decide
  have hshort : ∀ raw, (Text.splitLines "! Extra\n\nl.3 ".toList).getLast? = some raw →
      raw.length < wrapWidth := by
    intro raw h
    obtain rfl := Option.some.inj ((by decide : some "l.3 ".toList = _).trans h)
    decide
  obtain ⟨_, hlines, htext, hparse, hreturns⟩ := wrapping_undone {}
  refine ⟨hplain, hwidth, hlines _ (by decide) hplain, ?_, htext _ (by decide) (by decide) hshort,
    hreturns _ (by decide)⟩
  rw [(hparse _ (by decide) hplain hwidth).1]
  decide

end TexMend.Log
