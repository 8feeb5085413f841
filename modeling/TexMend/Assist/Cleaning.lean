import TexMend.Text.Lines
import TexMend.Text.Search
import TexMend.Text.Class

/-!
# Cleaning a reply

A text service is asked for one line and may frame it: code fences, quotes, a chatty line before and a
comment after. Five steps take the frames off, in this order, and the blanks at the ends go last.
-/

namespace TexMend.Assist

/-- The mark of a code fence. -/
def fence : Text := "```"

/-- The length of an opening fence at the start of a text: the mark, a language tag and all blanks that
follow, newlines included. -/
def openFenceLength? (text : Text) : Option Nat :=
  match Text.after? fence text with
  | none => none
  | some rest =>
    let tagless := ((Text.after? "latex" rest).or (Text.after? "tex" rest)).getD rest
    some (text.length - (tagless.dropWhile Text.isBlank).length)

/-- Take off every opening fence that stands at the start of a line; the first `skip` characters belong
to one, and `lineStart` tells whether a line starts here. -/
def dropOpenFencesFrom : (lineStart : Bool) → (skip : Nat) → Text → Text
  | _, _, [] => []
  | _, skip + 1, c :: cs => dropOpenFencesFrom (c == '\n') skip cs
  | lineStart, 0, c :: cs =>
    match if lineStart then openFenceLength? (c :: cs) else none with
    | some (n + 1) => dropOpenFencesFrom (c == '\n') n cs
    | _ => c :: dropOpenFencesFrom (c == '\n') 0 cs

/-- Take off every opening fence. -/
def dropOpenFences (text : Text) : Text :=
  dropOpenFencesFrom true 0 text

/-- The blanks after a closing mark, as far as they lead to the end of a line: all of them at the end of
the text, else up to the last newline among them. -/
def closingBlanks? (rest : Text) : Option Nat :=
  let blanks := rest.takeWhile Text.isBlank
  if blanks.length = rest.length then some blanks.length
  else if blanks.contains '\n' then some (Text.dropEndWhile (· != '\n') blanks).length.pred
  else none

/-- The length of a closing fence at the start of a text: perhaps a newline, the mark, and blanks to the
end of a line. -/
def closeFenceLength? (text : Text) : Option Nat :=
  let (lead, marked) : Nat × Text :=
    match text with
    | '\n' :: rest => (1, rest)
    | rest => (0, rest)
  match Text.after? fence marked with
  | none => none
  | some rest => (closingBlanks? rest).map (lead + fence.length + ·)

/-- Take off every closing fence; the first `skip` characters belong to one. -/
def dropCloseFencesFrom : (skip : Nat) → Text → Text
  | _, [] => []
  | skip + 1, _ :: cs => dropCloseFencesFrom skip cs
  | 0, c :: cs =>
    match closeFenceLength? (c :: cs) with
    | some (n + 1) => dropCloseFencesFrom n cs
    | _ => c :: dropCloseFencesFrom 0 cs

/-- Take off every closing fence. -/
def dropCloseFences (text : Text) : Text :=
  dropCloseFencesFrom 0 text

/-- The quotes that may wrap a reply. -/
def isWrappingQuote (c : Char) : Bool :=
  c == '"' || c == '\'' || c == '`'

/-- Take off the quotes at the start and at the end; a newline after the last ones stays. -/
def dropQuotes (text : Text) : Text :=
  let body := text.dropWhile isWrappingQuote
  let trimmed := Text.dropEndWhile (· == '\n') body
  if trimmed.length + 1 = body.length then Text.dropEndWhile isWrappingQuote trimmed ++ ['\n']
  else Text.dropEndWhile isWrappingQuote body

/-- How a chatty first line begins, in lower case. -/
def preamblePhrases : List Text :=
  ["here is", "here are", "sure", "certainly", "of course"]

/-- How a comment after the reply begins, in lower case. -/
def commentaryPhrases : List Text :=
  ["this ", "note:", "i ", "the above"]

/-- Does the text begin with one of the phrases, in any case? -/
def beginsWithAny (phrases : List Text) (text : Text) : Bool :=
  phrases.any fun phrase => (Text.afterFolded? phrase text).isSome

/-- Take off a chatty first line with the newlines after it; without a newline it stays. -/
def dropPreamble (text : Text) : Text :=
  if beginsWithAny preamblePhrases text then
    let line := text.takeWhile (· != '\n')
    match text.drop line.length with
    | [] => text
    | rest => rest.dropWhile (· == '\n')
  else text

/-- Is the text one line, apart from a newline at its end? That newline is given back. -/
def singleLineEnd? (text : Text) : Option Text :=
  match text.dropWhile (· != '\n') with
  | [] => some []
  | ['\n'] => some ['\n']
  | _ => none

/-- Take off a last line that is a comment, with the newlines before it. A newline after it stays. -/
def dropCommentary : Text → Text
  | [] => []
  | c :: cs =>
    let after := (c :: cs).dropWhile (· == '\n')
    if c = '\n' && beginsWithAny commentaryPhrases after then
      match singleLineEnd? after with
      | some ending => ending
      | none => c :: dropCommentary cs
    else c :: dropCommentary cs

/-- The reply without its frames. -/
def clean (reply : Text) : Text :=
  Text.strip (dropCommentary (dropPreamble (dropQuotes (dropCloseFences (dropOpenFences reply)))))

end TexMend.Assist
