import TexMend.Number.Shortest

/-!
# Numbers

A number is an integer of any size or a floating-point number. The two kinds are compared by value,
exactly; what is not a number compares with nothing.
-/

namespace TexMend

/-- An integer or a floating-point number. -/
inductive Number where
  | int (n : Int)
  | real (x : Double)
  deriving DecidableEq, Inhabited, Repr

namespace Number

/-- Where a number lies: `significand · 2^exponent`, or beyond one of the ends. -/
inductive Position where
  | lowest
  | at (significand : Int) (exponent : Int)
  | highest

/-- The position of a number, which only the not-a-number lacks. -/
def position? : Number → Option Position
  | int n => some (.at n 0)
  | real (.finite negative m e) => some (.at (if negative then -(m : Int) else m) e)
  | real (.infinite negative) => some (if negative then .lowest else .highest)
  | real .notANumber => none

/-- The order of positions; finite ones are compared at the smaller exponent. -/
def Position.le : Position → Position → Bool
  | .lowest, _ => true
  | _, .highest => true
  | .highest, _ => false
  | _, .lowest => false
  | .at a e, .at b f =>
    let g := min e f
    a * Nat.pow 2 (e - g).toNat ≤ b * Nat.pow 2 (f - g).toNat

/-- Is `x` at most `y`? -/
def le (x y : Number) : Bool :=
  match x.position?, y.position? with
  | some p, some q => p.le q
  | _, _ => false

/-- Is `x` less than `y`? -/
def lt (x y : Number) : Bool :=
  match x.position?, y.position? with
  | some p, some q => !q.le p
  | _, _ => false

/-- The number as a floating-point number. -/
def toDouble : Number → Double
  | int n => .ofInt n
  | real x => x

/-- The text of a number in messages. -/
def text : Number → Text
  | int n => Text.ofInt n
  | real x => x.text

/-- Write a number, unless it is an integer with too many digits. -/
def write? : Number → Option Text
  | int n => Text.writeInt? n
  | real x => some x.text

/-- A decimal fraction as a number, such as `decimal 95 2` for 0.95. -/
def decimal (digits places : Nat) : Number :=
  real (.ofDecimal false digits (-places))

end Number

end TexMend
