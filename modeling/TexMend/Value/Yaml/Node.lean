import TexMend.Value.Yaml.Scalar

/-!
# Nodes of YAML

A document is read in two steps: its structure is a node, whose scalars are still as they are written, and
the node stands for a value. A key that is no text names nothing in a record.
-/

namespace TexMend.Yaml

/-- A node of a document. -/
inductive Node where
  | scalar (s : Scalar)
  | list (items : List Node)
  | mapping (entries : List (Scalar × Node))
  deriving Inhabited

namespace Node

/-- A place where nothing is written. -/
def empty : Node :=
  .scalar (.plain [])

mutual

/-- The value that a node stands for. -/
def value : Node → Except ScalarError Value
  | scalar s => s.value
  | list items => (valueItems items).map .list
  | mapping entries => (valueFields entries).map fun fields => .record (Fields.putAll [] fields)

/-- The values of several nodes. -/
def valueItems : List Node → Except ScalarError (List Value)
  | [] => .ok []
  | item :: rest =>
    match value item with
    | .error e => .error e
    | .ok v => (valueItems rest).map (v :: ·)

/-- The fields that the entries of a mapping make. -/
def valueFields : List (Scalar × Node) → Except ScalarError (List (Text × Value))
  | [] => .ok []
  | (key, node) :: rest =>
    match key.value, value node with
    | .error e, _ => .error e
    | _, .error e => .error e
    | .ok (.text name), .ok v => (valueFields rest).map ((name, v) :: ·)
    | .ok _, .ok _ => valueFields rest

end

/-- Are the keys of a mapping all texts? -/
def hasTextKeys : Node → Bool
  | mapping entries => entries.all fun (key, _) =>
    match key.value with
    | .ok (.text _) => true
    | _ => false
  | _ => true

end Node

end TexMend.Yaml
