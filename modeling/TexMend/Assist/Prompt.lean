import TexMend.Log.Record
import TexMend.Text.Cut
import TexMend.Text.Lines

/-!
# The prompt

What a text service is asked: about the record, with a numbered window of the document around the line in
question, and that line.
-/

namespace TexMend.Assist

/-- The line with a number, if the document has it. -/
def lineAt? (lines : Document) (number : Nat) : Option Text :=
  if 1 ≤ number then lines[number - 1]? else none

/-- Lines with their numbers in front, from `number` on. -/
def numbered (number : Nat) : Document → Document
  | [] => []
  | line :: rest => (Text.ofNat number ++ ": " ++ line) :: numbered (number + 1) rest

/-- The numbered lines around `target`, as many on each side as `context` tells. -/
def contextWindow (context : Int) (target : Nat) (lines : Document) : Document :=
  let start := ((target : Int) - 1 - context).toNat
  let stop := min (lines.length : Int) (target + context)
  numbered (start + 1) (Text.slice start stop lines)

/-- The question for one record. -/
def prompt (context : Int) (r : Record) (lines : Document) : Text :=
  let target := r.targetLine
  let place : Text :=
    match r.line with
    | some n => Text.ofInt n
    | none => "?"
  "The following LaTeX code has an error:\n\n" ++
  "Error: " ++ r.message ++ "\n" ++
  "Line " ++ place ++ ": " ++ r.rawLog ++ "\n\n" ++
  "Code context:\n" ++ Text.joinLines (contextWindow context target lines) ++ "\n\n" ++
  "[Selected line to fix]\n" ++ (lineAt? lines target).getD [] ++ "\n\n" ++
  "Rewrite the selected line so the error goes away. " ++
  "Output ONLY the corrected LaTeX line."

/-- The question for one record, unless the number of its line has too many digits to be written. -/
def question? (context : Int) (r : Record) (lines : Document) : Option Text :=
  if r.line.all fun n => (Text.writeInt? n).isSome then some (prompt context r lines) else none

end TexMend.Assist
