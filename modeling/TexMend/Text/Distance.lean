import TexMend.Text.Basic

/-!
# Edit distance

The distance between two texts is the least number of single-character insertions, deletions and
substitutions that turn one into the other. It is computed row by row: the row of a prefix of the
first text holds its distances to all prefixes of the second.
-/

namespace TexMend.Text

/-- The cells of the next row to the right of `left`; `diagonal` and `above` run along the row before. -/
def rowCells (c : Char) (left : Nat) : Text → List Nat → List Nat
  | b :: bs, diagonal :: above :: rest =>
    let cell := min (min (above + 1) (left + 1)) (diagonal + if c = b then 0 else 1)
    cell :: rowCells c cell bs (above :: rest)
  | _, _ => []

/-- The row after reading the character `c`. -/
def nextRow (c : Char) (b : Text) (row : List Nat) : List Nat :=
  match row with
  | [] => []
  | corner :: rest => (corner + 1) :: rowCells c (corner + 1) b (corner :: rest)

/-- The row after reading all of `a`, from the row of the empty text. -/
def distanceRow (a b : Text) : List Nat :=
  a.foldl (fun row c => nextRow c b row) (List.range (b.length + 1))

/-- The edit distance between two texts. -/
def distance (a b : Text) : Nat :=
  (distanceRow a b).getLastD 0

end TexMend.Text
