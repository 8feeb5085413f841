import TexMend.Value.Basic
import TexMend.Text.Search
import TexMend.Text.Quoted

/-!
# Literals

The text of a value as a reader of console lines sees it: texts are quoted inside containers, and a
text that stands alone is written bare.
-/

namespace TexMend

namespace Value

mutual

/-- The value with every text in quotes. -/
def literal : Value → Text
  | .null => "None"
  | .bool b => if b then "True" else "False"
  | .int n => Text.ofInt n
  | .real x => x.text
  | .text t => Text.quoted t
  | .list items => '[' :: Text.joinWith ", " (literalItems items) ++ "]"
  | .tuple items =>
    match literalItems items with
    | [one] => '(' :: one ++ ",)"
    | several => '(' :: Text.joinWith ", " several ++ ")"
  | .record fields => '{' :: Text.joinWith ", " (literalFields fields) ++ "\x7d"

/-- The items of a list, each as a literal. -/
def literalItems : List Value → List Text
  | [] => []
  | item :: rest => literal item :: literalItems rest

/-- The fields of a record, keys in quotes. -/
def literalFields : List (Text × Value) → List Text
  | [] => []
  | (key, value) :: rest => (Text.quoted key ++ ": " ++ literal value) :: literalFields rest

end

/-- The value with a text left bare. -/
def bare : Value → Text
  | .text t => t
  | value => literal value

end Value

end TexMend
