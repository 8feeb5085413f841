import TexMend.Number.Double
import TexMend.Text.Numeral

/-!
# The shortest numeral that reads back

A finite number is written with the fewest digits that round to it again, and among those with the
digits nearest to it. The candidates of each length are the two neighbours of the number on the grid
of that many digits.
-/

namespace TexMend

namespace Double

/-- `digits · 10^place`. -/
structure Decimal where
  digits : Nat
  place : Int
  deriving DecidableEq, Repr

namespace Shortest

/-- Factors that put `d · 10^place` and `x · 2^e` on a common scale: multiply `d` by the first and `x`
by the second. -/
def factors (place e : Int) : Nat × Nat :=
  (Nat.pow 10 place.toNat * Nat.pow 2 (-e).toNat, Nat.pow 2 e.toNat * Nat.pow 10 (-place).toNat)

/-- The reals that round to `m · 2^e` in quarters of the last place: lower end, value, upper end. Below a
power of two the neighbours lie half as far apart. -/
def quarters (m : Nat) (e : Int) : Nat × Nat × Nat :=
  let low := if m = Nat.pow 2 52 ∧ leastExponent < e then 4 * m - 1 else 4 * m - 2
  (low, 4 * m, 4 * m + 2)

/-- Does `d · 10^place` round to `m · 2^e`? The ends of the interval do exactly for an even mantissa. -/
def readsBack (m : Nat) (e place : Int) (d : Nat) : Bool :=
  let (f, g) := factors place (e - 2)
  let (low, _, high) := quarters m e
  if m % 2 = 0 then low * g ≤ d * f && d * f ≤ high * g
  else low * g < d * f && d * f < high * g

/-- The nearer of the two neighbours on the grid `10^place` that read back. -/
def onGrid? (m : Nat) (e place : Int) : Option Nat :=
  let (f, g) := factors place (e - 2)
  let value := 4 * m * g
  let d := value / f
  match readsBack m e place d && d != 0, readsBack m e place (d + 1) with
  | true, true =>
    let below := value - d * f
    let above := (d + 1) * f - value
    if below < above then some d
    else if above < below then some (d + 1)
    else some (d + d % 2)
  | true, false => some d
  | false, true => some (d + 1)
  | false, false => none

/-- The place of the leading digit of `m · 2^e`. -/
def leadingPlace (m : Nat) (e : Int) : Int :=
  let guess := Int.fdiv (((m.log2 : Int) + e) * 30103) 100000
  let atLeast (p : Int) : Bool := let (f, g) := factors p e; f ≤ m * g
  if !atLeast guess then guess - 1 else if atLeast (guess + 1) then guess + 1 else guess

/-- Try grids of `count`, `count + 1`, … digits, `fuel` of them. -/
def search (m : Nat) (e lead : Int) (count : Nat) : Nat → Decimal
  | 0 => ⟨m, e⟩
  | fuel + 1 =>
    let place := lead - count + 1
    match onGrid? m e place with
    | some d => ⟨d, place⟩
    | none => search m e lead (count + 1) fuel

/-- Move trailing zeros into the place; `fuel` bounds their number. -/
def trimZeros : Nat → Decimal → Decimal
  | 0, x => x
  | fuel + 1, x => if x.digits % 10 = 0 then trimZeros fuel ⟨x.digits / 10, x.place + 1⟩ else x

end Shortest

/-- The shortest decimal that rounds to the positive number `m · 2^e`. Seventeen digits always do. -/
def shortest (m : Nat) (e : Int) : Decimal :=
  Shortest.trimZeros 20 (Shortest.search m e (Shortest.leadingPlace m e) 1 17)

/-- How a number is laid out: the greatest count of places before the point, and the least exponent,
for which it is written without an exponent. -/
structure Layout where
  mostPlaces : Int
  leastExponent : Int

/-- Positional from `0.0001` up to below `10^16`. -/
def Layout.standard : Layout := ⟨16, -4⟩

/-- A decimal in positional form, always with a point and a digit on either side of it. -/
def positional (x : Decimal) : Text :=
  let digits := Text.ofNat x.digits
  if 0 ≤ x.place then digits ++ List.replicate x.place.toNat '0' ++ ".0"
  else
    let fraction := (-x.place).toNat
    if fraction < digits.length then
      digits.take (digits.length - fraction) ++ '.' :: digits.drop (digits.length - fraction)
    else "0." ++ List.replicate (fraction - digits.length) '0' ++ digits

/-- A decimal with one digit before the point and an exponent of at least two digits with its sign. -/
def scientific (x : Decimal) : Text :=
  let digits := Text.ofNat x.digits
  let exponent : Int := x.place + digits.length - 1
  let magnitude := Text.ofNat exponent.natAbs
  let fraction : Text := if digits.length = 1 then [] else '.' :: digits.drop 1
  digits.take 1 ++ fraction ++ 'e' :: (if exponent < 0 then '-' else '+') ::
    (List.replicate (2 - magnitude.length) '0' ++ magnitude)

/-- A positive decimal in the form that the layout asks for. -/
def Layout.write (layout : Layout) (x : Decimal) : Text :=
  let exponent : Int := x.place + (Text.ofNat x.digits).length - 1
  if layout.leastExponent ≤ exponent ∧ exponent < layout.mostPlaces then positional x
  else scientific x

/-- The spellings of the numbers that have no digits. -/
structure Spelling where
  infinity : Text
  notANumber : Text

/-- The text of a number, with the given spelling of the numbers that have no digits. -/
def textWith (spelling : Spelling) : Double → Text
  | finite negative m e =>
    let magnitude : Text := if m = 0 then "0.0" else Layout.standard.write (shortest m e)
    if negative then '-' :: magnitude else magnitude
  | infinite negative => if negative then '-' :: spelling.infinity else spelling.infinity
  | notANumber => spelling.notANumber

/-- The text of a number in messages. -/
def text : Double → Text :=
  textWith ⟨"inf", "nan"⟩

end Double

end TexMend
