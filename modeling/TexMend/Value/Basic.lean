import TexMend.Number.Basic

/-!
# Dynamic values

Replies of a text service, fields of journal entries and raw settings are values whose shape is not
known beforehand. A record keeps the order in which its fields came.
-/

namespace TexMend

/-- A value of dynamic shape. A tuple is a list of fixed make-up; only journal entries have them. -/
inductive Value where
  | null
  | bool (b : Bool)
  | int (n : Int)
  | real (x : Double)
  | text (t : Text)
  | list (items : List Value)
  | tuple (items : List Value)
  | record (fields : List (Text × Value))
  deriving Inhabited

/-- The fields of a record. -/
abbrev Fields := List (Text × Value)

namespace Fields

/-- The value of a field. -/
def get? (key : Text) : Fields → Option Value
  | [] => none
  | (k, v) :: rest => if k = key then some v else get? key rest

/-- Set a field: in place if it is there, else at the end. -/
def put (key : Text) (value : Value) : Fields → Fields
  | [] => [(key, value)]
  | (k, v) :: rest => if k = key then (k, value) :: rest else (k, v) :: put key value rest

/-- Set a field only if it is not there. -/
def putDefault (key : Text) (value : Value) (fields : Fields) : Fields :=
  if (get? key fields).isSome then fields else put key value fields

/-- Set several fields, the later ones over the earlier. -/
def putAll (fields news : Fields) : Fields :=
  news.foldl (fun acc (k, v) => put k v acc) fields

/-- Leave out a field. -/
def erase (key : Text) (fields : Fields) : Fields :=
  fields.filter fun (k, _) => !(k = key)

end Fields

namespace Value

/-- A number as a value. -/
def ofNumber : Number → Value
  | .int n => .int n
  | .real x => .real x

/-- A text that may be missing. -/
def ofText? : Option Text → Value
  | some t => .text t
  | none => .null

/-- Null, no, zero and everything empty. -/
def isVoid : Value → Bool
  | null => true
  | bool b => !b
  | int n => n == 0
  | real (.finite _ m _) => m == 0
  | real _ => false
  | text t => t.isEmpty
  | list items => items.isEmpty
  | tuple items => items.isEmpty
  | record fields => fields.isEmpty

end Value

end TexMend
