import TexMend.Value.Yaml.Node
import TexMend.Value.Yaml.Quoted

/-!
# Flow collections of YAML

Lists in brackets and mappings in braces. Between their parts there are only spaces, and they end on their
line.
-/

namespace TexMend.Yaml

/-- Leave out spaces. -/
def skipSpaces (t : Text) : Text :=
  t.dropWhile (· == ' ')

/-- Leave out spaces at the end. -/
def trimSpaces (t : Text) : Text :=
  Text.dropEndWhile (· == ' ') t

/-- The two blanks of a line. Only a space may stand between the parts of a document. -/
def isBlank (c : Char) : Bool :=
  c == ' ' || c == '\t'

/-- Characters that no plain scalar begins with. -/
def reserved : Text := ",[]{}#&*!|>'\"%@`\t"

/-- Can a plain scalar begin here? A dash, a question mark or a colon needs something after it. -/
def beginsPlain (t : Text) : Bool :=
  match t with
  | [] => false
  | c :: rest =>
    if c == '-' || c == '?' || c == ':' then
      match rest with
      | [] => false
      | d :: _ => !isBlank d
    else !reserved.elem c

/-- Can a plain scalar begin here inside brackets? -/
def beginsFlowPlain (t : Text) : Bool :=
  beginsPlain t && !(t.head? = some '?' || t.head? = some ':')

/-- Characters that end a part of a collection. -/
def isFlowMark (c : Char) : Bool :=
  (",[]\x7b\x7d" : Text).elem c

/-- A plain scalar inside brackets, and the rest: it ends before a mark, a question mark, a tab, a colon
that ends a key, or a comment. -/
def flowPlain : Text → Text × Text
  | [] => ([], [])
  | ':' :: rest =>
    match rest with
    | [] => ([], [':'])
    | c :: _ =>
      if isBlank c || isFlowMark c then ([], ':' :: rest)
      else
        let (t, rest) := flowPlain rest
        (':' :: t, rest)
  | ' ' :: '#' :: rest => ([], ' ' :: '#' :: rest)
  | c :: rest =>
    if isFlowMark c || c == '?' || c == '\t' then ([], c :: rest)
    else
      let (t, rest) := flowPlain rest
      (c :: t, rest)

/-- A scalar inside brackets, and the rest. -/
def flowScalar (t : Text) : Parsed Scalar Text :=
  match quoted? t with
  | some (s, rest) => some (.quoted s, rest)
  | none =>
    if beginsFlowPlain t then
      let (s, rest) := flowPlain t
      some (.plain (trimSpaces s), rest)
    else none

mutual

/-- A node inside brackets, and the rest. -/
def flowNode : Nat → Text → Parsed Node Text
  | 0, _ => none
  | fuel + 1, t =>
    match t with
    | '[' :: rest => (flowItems fuel (skipSpaces rest)).map fun (items, rest) => (.list items, rest)
    | '{' :: rest =>
      (flowEntries fuel (skipSpaces rest)).map fun (entries, rest) => (.mapping entries, rest)
    | _ => (flowScalar t).map fun (s, rest) => (.scalar s, rest)

/-- What a colon after a key leads to, and the rest: nothing, if the entry ends there. -/
def flowTarget : Nat → Text → Parsed Node Text
  | 0, _ => none
  | fuel + 1, t =>
    match t with
    | [] => none
    | c :: _ =>
      if c == ',' || c == ']' || c == '}' then some (.empty, t) else flowNode fuel t

/-- An item of a list, and the rest; a scalar with a colon after it is a mapping of one entry. -/
def flowItem : Nat → Text → Parsed Node Text
  | 0, _ => none
  | fuel + 1, t =>
    match flowNode fuel t with
    | some (.scalar key, rest) =>
      match skipSpaces rest with
      | ':' :: more =>
        (flowTarget fuel (skipSpaces more)).map fun (node, rest) => (.mapping [(key, node)], rest)
      | _ => some (.scalar key, rest)
    | other => other

/-- The items up to the closing bracket. -/
def flowItems : Nat → Text → Parsed (List Node) Text
  | 0, _ => none
  | fuel + 1, t =>
    match t with
    | ']' :: rest => some ([], rest)
    | _ =>
      match flowItem fuel t with
      | none => none
      | some (item, rest) =>
        match skipSpaces rest with
        | ']' :: rest => some ([item], rest)
        | ',' :: rest =>
          (flowItems fuel (skipSpaces rest)).map fun (items, rest) => (item :: items, rest)
        | _ => none

/-- The entries up to the closing brace; a key alone leads to nothing. -/
def flowEntries : Nat → Text → Parsed (List (Scalar × Node)) Text
  | 0, _ => none
  | fuel + 1, t =>
    match t with
    | '}' :: rest => some ([], rest)
    | _ =>
      match flowScalar t with
      | none => none
      | some (key, rest) =>
        let target : Parsed Node Text :=
          match skipSpaces rest with
          | ':' :: more => flowTarget fuel (skipSpaces more)
          | other => some (.empty, other)
        match target with
        | none => none
        | some (node, rest) =>
          match skipSpaces rest with
          | '}' :: rest => some ([(key, node)], rest)
          | ',' :: rest =>
            (flowEntries fuel (skipSpaces rest)).map fun (entries, rest) =>
              ((key, node) :: entries, rest)
          | _ => none

end

/-- A collection in brackets or braces, and the rest. -/
def flowCollection (t : Text) : Parsed Node Text :=
  flowNode (4 * t.length + 4) t

end TexMend.Yaml
