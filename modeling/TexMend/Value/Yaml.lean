import TexMend.Value.Yaml.Block
import TexMend.Text.Lines

/-!
# YAML

Reading settings files in the part of YAML that they use: block mappings and lists by indentation, plain
and quoted scalars, flow collections on one line, comments, and the marks around the one document.
Everything else is refused.
-/

namespace TexMend.Yaml

/-- Is the line the mark `mark` of a document, whatever follows on it? -/
def isMark (mark : Text) (line : Line) : Bool :=
  line.indent = 0 && mark.isPrefixOf line.body && (line.body.drop mark.length).head?.all isBlank

/-- The mark before a document. -/
def startMark : Text := "---"

/-- The mark after a document. -/
def endMark : Text := "..."

/-- The lines of a document up to its end, after which nothing may come. -/
def uptoEnd? (lines : List Line) : Option (List Line) :=
  let document := lines.takeWhile fun l => !isMark endMark l
  let after := lines.drop document.length
  if document.any (isMark startMark) then none
  else if after.all fun l => isMark endMark l && isLineEnd false (l.body.drop endMark.length) then
    some document
  else none

/-- The node that all the lines make; `fuel` bounds its depth and length. -/
def nodeOfLines? (fuel : Nat) (lines : List Line) : Option Node :=
  match lines with
  | [] => some .empty
  | first :: rest =>
    let node : Parsed Node (List Line) :=
      if isMark endMark first then none
      else if isMark startMark first then
        let after := first.body.drop startMark.length
        match uptoEnd? rest with
        | none => none
        | some rest =>
          if isLineEnd false after then block fuel 0 rest else inlineNode 0 (skipSpaces after) rest
      else
        match uptoEnd? (first :: rest) with
        | none => none
        | some lines => block fuel 0 lines
    match node with
    | some (node, []) => some node
    | _ => none

/-- Characters that a file may hold. -/
def isAllowed (c : Char) : Bool :=
  let n := c.toNat
  n == 9 || n == 10 || n == 13 || (0x20 ≤ n && n ≤ 0x7E) || n == 0x85 || (0xA0 ≤ n && n ≤ 0xD7FF) ||
    (0xE000 ≤ n && n ≤ 0xFFFD) || 0x10000 ≤ n

/-- Every newline in any convention as a newline. -/
def unifyNewlines : Text → Text
  | [] => []
  | '\r' :: '\n' :: rest => '\n' :: unifyNewlines rest
  | '\r' :: rest => '\n' :: unifyNewlines rest
  | c :: rest => c :: unifyNewlines rest

/-- A text without the mark of its encoding. -/
def dropEncodingMark (text : Text) : Text :=
  match text with
  | '\ufeff' :: rest => rest
  | _ => text

/-- Read the structure of a file. A file without content is an empty node. -/
def read? (text : Text) : Option Node :=
  if text.all isAllowed then
    nodeOfLines? (2 * text.length + 2)
      (linesFrom 0 false (Text.splitLines (dropEncodingMark (unifyNewlines text))))
  else none

end TexMend.Yaml
