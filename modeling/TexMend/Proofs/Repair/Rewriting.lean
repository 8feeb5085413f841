import TexMend.Repair.Math
import TexMend.Repair.Brace
import TexMend.Repair.Typo
import TexMend.Proofs.Text.Occurrence

/-!
# What rewriting does to a line

A gap in math mode is a piece of the line that holds it, so the wrapped line is the old one with two
dollar signs. Corrections come from closed tables. So no repair of a line brings in a newline.
-/

namespace TexMend.Repair

section MathGap

/-- A part and one that begins the rest begin the text together. -/
theorem begins_append {first second text : Text} (h : first <+: text)
    (h' : second <+: text.drop first.length) : first ++ second <+: text := by
  obtain ⟨rest, rfl⟩ := h
  rw [List.drop_left] at h'
  exact (List.prefix_append_right_inj first).mpr h'

theorem group_begins (text : Text) : group text <+: text := by
  unfold group
  split
  · next rest =>
      split
      · next inner after hcut =>
          obtain ⟨rfl, _⟩ := Text.eq_append_of_cutAt?_eq_some hcut
          exact ⟨after, by simp⟩
      · exact List.nil_prefix
  · exact List.nil_prefix

theorem scriptMark_begins (text : Text) : scriptMark text <+: text := by
  unfold scriptMark
  split
  · next c rest =>
      split
      · exact ⟨rest, rfl⟩
      · exact List.nil_prefix
  · exact List.nil_prefix

/-- An expression begins the text in which it is looked for. -/
theorem prefix_of_expressionAt?_eq_some {text expression : Text}
    (h : expressionAt? text = some expression) : expression <+: text := by
  unfold expressionAt? at h
  extract_lets slash word head argument mark script at h
  have hslash : slash <+: text := by
    simp only [slash]
    split
    · next rest => exact ⟨rest, rfl⟩
    · exact List.nil_prefix
  have hhead : head <+: text := begins_append hslash (List.takeWhile_prefix _)
  have hargument : head ++ argument <+: text := begins_append hhead (group_begins _)
  have hmark : head ++ argument ++ mark <+: text := begins_append hargument (scriptMark_begins _)
  have hscript : head ++ argument ++ mark ++ script <+: text := begins_append hmark (group_begins _)
  split at h
  · cases h
  · rw [← Option.some.inj h]
    exact hscript

/-- The parts of a gap make up the line. -/
theorem eq_append_of_mathGapOf?_eq_some {line token : Text} {gap : MathGap}
    (h : mathGapOf? line token = some gap) : line = gap.before ++ gap.expression ++ gap.rest := by
  unfold mathGapOf? at h
  split at h
  · cases h
  · next position hposition =>
      have hexpression : (expressionAt? (line.drop position)).getD token <+: line.drop position := by
        cases he : expressionAt? (line.drop position) with
        | none => exact Text.prefix_drop_of_positionOf?_eq_some hposition
        | some expression => exact prefix_of_expressionAt?_eq_some he
      dsimp only at h
      generalize (expressionAt? (line.drop position)).getD token = expression at h hexpression
      obtain ⟨rest, hrest⟩ := hexpression
      split at h
      · cases h
      · obtain rfl := Option.some.inj h
        calc line
          _ = line.take position ++ line.drop position := (List.take_append_drop position line).symm
          _ = line.take position ++ (expression ++ rest) := by rw [hrest]
          _ = line.take position ++ expression ++ line.drop (position + expression.length) := by
            rw [← List.drop_drop, ← hrest, List.drop_left, List.append_assoc]

/-- The parts of the first gap make up the line. -/
theorem eq_append_of_mathGap?_eq_some {line : Text} {gap : MathGap} (h : mathGap? line = some gap) :
    line = gap.before ++ gap.expression ++ gap.rest := by
  obtain ⟨token, _, htoken⟩ := List.exists_of_findSome?_eq_some h
  exact eq_append_of_mathGapOf?_eq_some htoken

end MathGap

section Newline

theorem newline_not_mem_wrapped {line : Text} {gap : MathGap} (h : mathGap? line = some gap)
    (hline : '\n' ∉ line) : '\n' ∉ gap.wrapped := by
  rw [eq_append_of_mathGap?_eq_some h] at hline
  unfold MathGap.wrapped
  simp at hline ⊢
  exact hline

theorem newline_not_mem_removeAt {line : Text} (position : Nat) (hline : '\n' ∉ line) :
    '\n' ∉ removeAt position line := by
  unfold removeAt
  rw [List.mem_append]
  rintro (h | h)
  · exact hline (List.mem_of_mem_take h)
  · exact hline (List.mem_of_mem_drop h)

theorem mem_of_lookUp_eq_some {key value : Text} {table : List (Text × Text)}
    (h : lookUp key table = some value) : (key, value) ∈ table := by
  obtain ⟨⟨found, value⟩, hfind, rfl⟩ := Option.map_eq_some_iff.mp h
  have hkey : found = key := by simpa using List.find?_some hfind
  exact hkey ▸ List.mem_of_find?_eq_some hfind

theorem newline_not_mem_commonTypos : ∀ entry ∈ commonTypos, '\n' ∉ entry.2 := by decide

theorem newline_not_mem_commonCommands : ∀ command ∈ commonCommands, '\n' ∉ command := by decide

theorem newline_not_mem_packageOfCommand : ∀ entry ∈ packageOfCommand, '\n' ∉ entry.2 := by decide

theorem newline_not_mem_typoFix? {command correction : Text} (h : typoFix? command = some correction) :
    '\n' ∉ correction := by
  unfold typoFix? at h
  split at h
  · next value hfound =>
      obtain rfl := Option.some.inj h
      exact newline_not_mem_commonTypos _ (mem_of_lookUp_eq_some hfound)
  · exact newline_not_mem_commonCommands _ (List.mem_of_find?_eq_some h)

end Newline

end TexMend.Repair
