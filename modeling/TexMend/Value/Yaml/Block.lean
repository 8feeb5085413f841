import TexMend.Value.Yaml.Flow

/-!
# Block structure of YAML

Lists and mappings by indentation. A plain scalar may go on in the lines after it, until a comment comes or
the indentation falls back; one line break in it is a space, and empty lines are line breaks.
-/

namespace TexMend.Yaml

/-- A line with something on it. -/
structure Line where
  /-- The spaces before what is on it. -/
  indent : Nat
  body : Text
  /-- The empty lines just before it. -/
  gap : Nat := 0
  /-- Does a comment stand between it and the line before? -/
  afterComment : Bool := false

/-- The lines with something on them; `gap` and `afterComment` tell what came just before. -/
def linesFrom (gap : Nat) (afterComment : Bool) : List Text → List Line
  | [] => []
  | raw :: rest =>
    let body := skipSpaces raw
    match body with
    | [] => linesFrom (gap + 1) afterComment rest
    | '#' :: _ => linesFrom gap true rest
    | _ => ⟨raw.length - body.length, body, gap, afterComment⟩ :: linesFrom 0 false rest

/-- Is nothing left on a line but spaces and a comment? After a plain scalar a comment needs a space before
it; `closed` tells that something else came before. -/
def isLineEnd (closed : Bool) (t : Text) : Bool :=
  match t with
  | [] => true
  | ' ' :: rest =>
    match skipSpaces rest with
    | [] => true
    | c :: _ => c == '#'
  | c :: _ => closed && c == '#'

/-- Is a plain scalar of a line over here? It is before a colon that ends a key, before a comment and
before a tab. -/
def plainEnds (t : Text) : Bool :=
  match t with
  | [] => true
  | ':' :: rest => rest.isEmpty || rest.head?.any isBlank
  | ' ' :: rest => isLineEnd false (' ' :: rest)
  | c :: _ => c == '\t'

/-- A plain scalar at the start of a line, and the rest. -/
def linePlain : Text → Text × Text
  | [] => ([], [])
  | c :: cs =>
    if plainEnds (c :: cs) then ([], c :: cs)
    else
      let (t, rest) := linePlain cs
      (c :: t, rest)

/-- The key of a line and what follows its colon. -/
def splitKey? (t : Text) : Parsed Scalar Text :=
  let key : Parsed Scalar Text :=
    match quoted? t with
    | some (s, rest) => some (.quoted s, rest)
    | none =>
      if beginsPlain t then
        let (s, rest) := linePlain t
        some (.plain (trimSpaces s), rest)
      else none
  match key with
  | none => none
  | some (key, rest) =>
    match skipSpaces rest with
    | [':'] => some (key, [])
    | ':' :: ' ' :: rest => some (key, rest)
    | _ => none

/-- Is the line an item of a list? -/
def isItem (t : Text) : Bool :=
  match t with
  | ['-'] => true
  | '-' :: ' ' :: _ => true
  | _ => false

/-- The line breaks of a scalar before a line. -/
def lineJoint (line : Line) : Text :=
  if line.gap = 0 then [' '] else List.replicate line.gap '\n'

/-- What the lines after a plain scalar add to it, if they are indented by at least `least`, and the rest. A
line with a key in it cannot add to a scalar. -/
def continuation (least : Nat) : List Line → Parsed Text (List Line)
  | [] => some ([], [])
  | line :: rest =>
    if line.indent < least || line.afterComment then some ([], line :: rest)
    else
      let (t, after) := linePlain line.body
      let added := lineJoint line ++ trimSpaces t
      if t.isEmpty || !isLineEnd false after then none
      else if !(skipSpaces after).isEmpty then some (added, rest)
      else (continuation least rest).map fun (more, rest) => (added ++ more, rest)

/-- A node that begins on a line after other things; it may go on in lines indented by at least `least`. -/
def inlineNode (least : Nat) (t : Text) (rest : List Line) : Parsed Node (List Line) :=
  match t with
  | '[' :: _ | '{' :: _ =>
    match flowCollection t with
    | some (node, after) => if isLineEnd true after then some (node, rest) else none
    | none => none
  | '\'' :: _ | '"' :: _ =>
    match quoted? t with
    | some (s, after) => if isLineEnd true after then some (.scalar (.quoted s), rest) else none
    | none => none
  | _ =>
    if beginsPlain t then
      let (s, after) := linePlain t
      let first := trimSpaces s
      if !isLineEnd false after then none
      else if !(skipSpaces after).isEmpty then some (.scalar (.plain first), rest)
      else
        (continuation least rest).map fun (more, rest) => (.scalar (.plain (first ++ more)), rest)
    else none

mutual

/-- The node that begins on the first line, which is indented by at least `least`. -/
def block : Nat → (least : Nat) → List Line → Parsed Node (List Line)
  | 0, _, _ => none
  | _, _, [] => some (.empty, [])
  | fuel + 1, least, line :: rest =>
    if isItem line.body then
      (blockItems fuel line.indent (line :: rest)).map fun (items, rest) => (.list items, rest)
    else if (splitKey? line.body).isSome then
      (blockEntries fuel line.indent (line :: rest)).map fun (entries, rest) =>
        (.mapping entries, rest)
    else inlineNode least line.body rest

/-- The items of a list whose dashes are indented by `indent`. -/
def blockItems : Nat → (indent : Nat) → List Line → Parsed (List Node) (List Line)
  | 0, _, _ => none
  | _, _, [] => some ([], [])
  | fuel + 1, indent, line :: rest =>
    if line.indent < indent then some ([], line :: rest)
    else if line.indent = indent && isItem line.body then
      let after := line.body.drop 1
      let content := skipSpaces after
      let item : Parsed Node (List Line) :=
        if isLineEnd false after then
          match rest with
          | next :: _ => if indent < next.indent then block fuel (indent + 1) rest else some (.empty, rest)
          | [] => some (.empty, [])
        else
          block fuel (indent + 1)
            ({ indent := indent + 1 + (after.length - content.length), body := content } :: rest)
      match item with
      | none => none
      | some (node, rest) => (blockItems fuel indent rest).map fun (items, rest) => (node :: items, rest)
    else if line.indent = indent then some ([], line :: rest)
    else none

/-- The entries of a mapping whose keys are indented by `indent`. -/
def blockEntries : Nat → (indent : Nat) → List Line → Parsed (List (Scalar × Node)) (List Line)
  | 0, _, _ => none
  | _, _, [] => some ([], [])
  | fuel + 1, indent, line :: rest =>
    if line.indent < indent then some ([], line :: rest)
    else if line.indent = indent then
      match splitKey? line.body with
      | none => none
      | some (key, after) =>
        let content := skipSpaces after
        let target : Parsed Node (List Line) :=
          if isLineEnd true content then
            match rest with
            | next :: _ =>
              if indent < next.indent then block fuel (indent + 1) rest
              else if next.indent = indent && isItem next.body then block fuel indent rest
              else some (.empty, rest)
            | [] => some (.empty, [])
          else inlineNode (indent + 1) content rest
        match target with
        | none => none
        | some (node, rest) =>
          (blockEntries fuel indent rest).map fun (entries, rest) => ((key, node) :: entries, rest)
    else none

end

end TexMend.Yaml
