import TexMend.Text.Basic

/-!
# Lines

A document is the list of its lines. Cutting a text at its newlines gives one more line than there
are newlines, so the empty text is one empty line, and joining gives the text back.
-/

namespace TexMend

/-- The lines of a source, numbered from one wherever a number is given. -/
abbrev Document := List Text

namespace Text

/-- Cut at every newline. -/
def splitLines : Text → Document
  | [] => [[]]
  | c :: cs =>
    if c = '\n' then [] :: splitLines cs
    else
      match splitLines cs with
      | [] => [[c]]
      | line :: rest => (c :: line) :: rest

/-- Put a newline between neighbouring lines. -/
def joinLines : Document → Text
  | [] => []
  | [line] => line
  | line :: next :: rest => line ++ '\n' :: joinLines (next :: rest)

theorem splitLines_ne_nil (t : Text) : splitLines t ≠ [] := by
  cases t with
  | nil => simp [splitLines]
  | cons c cs =>
    unfold splitLines
    split
    · simp
    · split <;> simp

/-- Cutting loses nothing. -/
theorem joinLines_splitLines (t : Text) : joinLines (splitLines t) = t := by
  induction t with
  | nil => rfl
  | cons c cs ih =>
    have hne := splitLines_ne_nil cs
    unfold splitLines
    split
    · next h =>
      subst h
      cases hs : splitLines cs with
      | nil => exact absurd hs hne
      | cons line rest => rw [hs] at ih; simp [joinLines, ih]
    · cases hs : splitLines cs with
      | nil => exact absurd hs hne
      | cons line rest =>
        rw [hs] at ih
        cases rest with
        | nil => simpa [joinLines] using ih
        | cons next more => simpa [joinLines] using ih

end Text

end TexMend
