import TexMend.Text.Lines

/-!
# Hard-wrapped log lines

The compiler breaks its log at 79 columns. A raw line of exactly that length goes on in the next one;
a raw line of any other length ends the line that the compiler meant.
-/

namespace TexMend.Log

/-- The column at which the compiler breaks lines. -/
def wrapWidth : Nat := 79

/-- Write every pair of carriage return and newline as a newline. -/
def unifyNewlines : Text → Text
  | [] => []
  | '\r' :: '\n' :: rest => '\n' :: unifyNewlines rest
  | c :: rest => c :: unifyNewlines rest

/-- Join every raw line of full width with the one after it. -/
def rejoin : List Text → List Text
  | [] => []
  | raw :: rest =>
    if raw.length = wrapWidth then
      match rejoin rest with
      | [] => [raw]
      | next :: more => (raw ++ next) :: more
    else raw :: rejoin rest

/-- The lines that the compiler meant. -/
def logicalLines (log : Text) : List Text :=
  rejoin (Text.splitLines (unifyNewlines log))

/-- Break one line as the compiler does: pieces of full width and a shorter last one, which is empty
if the length is a multiple of the width. -/
def wrap (line : Text) : List Text :=
  if wrapWidth ≤ line.length then
    line.take wrapWidth :: wrap (line.drop wrapWidth)
  else [line]
termination_by line.length
decreasing_by
  simp only [List.length_drop]
  have : 0 < wrapWidth := by decide
  omega

end TexMend.Log
