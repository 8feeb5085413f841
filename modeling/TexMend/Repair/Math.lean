import TexMend.Repair.Tables
import TexMend.Text.Search
import TexMend.Text.Class

/-!
# Math mode on a line

A token is in math mode if an odd number of dollar signs stands before it. The repair puts dollar signs
around the first token that is not, together with its arguments.
-/

namespace TexMend.Repair

/-- The number of dollar signs. -/
def dollars (text : Text) : Nat :=
  text.count '$'

/-- The text up to and including the next closing brace, if it starts with an opening one. -/
def group (text : Text) : Text :=
  match text with
  | '{' :: rest =>
    match Text.cutAt? '}' rest with
    | some (inner, _) => '{' :: inner ++ ['}']
    | none => []
  | _ => []

/-- A raised or lowered index mark at the start of a text. -/
def scriptMark (text : Text) : Text :=
  match text with
  | c :: _ => if c = '^' || c = '_' then [c] else []
  | [] => []

/-- The math expression at the start of a text: a word with or without backslash, a group, an index mark
and another group, of which all but the word may be missing. -/
def expressionAt? (text : Text) : Option Text :=
  let slash : Text := match text with
    | '\\' :: _ => ['\\']
    | _ => []
  let word := (text.drop slash.length).takeWhile Text.isAsciiLetter
  if word.isEmpty then none
  else
    let head := slash ++ word
    let argument := group (text.drop head.length)
    let mark := scriptMark (text.drop (head ++ argument).length)
    let script := group (text.drop (head ++ argument ++ mark).length)
    some (head ++ argument ++ mark ++ script)

/-- A place where math mode is missing: what stands before the expression, the expression, and the
rest. -/
structure MathGap where
  before : Text
  expression : Text
  rest : Text

/-- The gap at the first occurrence of a token, if that is outside math mode. -/
def mathGapOf? (line token : Text) : Option MathGap :=
  match Text.positionOf? token line with
  | none => none
  | some position =>
    let before := line.take position
    if dollars before % 2 = 1 then none
    else
      let expression := (expressionAt? (line.drop position)).getD token
      some ⟨before, expression, line.drop (position + expression.length)⟩

/-- The first gap, over the tokens in their order. -/
def mathGap? (line : Text) : Option MathGap :=
  mathTokens.findSome? (mathGapOf? line)

/-- The line with dollar signs around the expression. -/
def MathGap.wrapped (gap : MathGap) : Text :=
  gap.before ++ '$' :: gap.expression ++ '$' :: gap.rest

end TexMend.Repair
