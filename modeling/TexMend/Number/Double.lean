/-!
# Binary floating-point numbers

Numbers of 53 significant bits, kept as exact integers so that rounding, comparison and printing are
statements about `Nat` and `Int`. A finite number is `±mantissa · 2^exponent` with a mantissa below
`2^53` and an exponent from -1074 to 971; the mantissa is at least `2^52` unless the exponent is -1074,
so every number has one form.
-/

namespace TexMend

/-- A binary floating-point number. -/
inductive Double where
  | finite (negative : Bool) (mantissa : Nat) (exponent : Int)
  | infinite (negative : Bool)
  | notANumber
  deriving DecidableEq, Inhabited, Repr

namespace Double

/-- The least exponent, that of the numbers next to zero. -/
def leastExponent : Int := -1074

/-- The greatest exponent of a finite number. -/
def greatestExponent : Int := 971

/-- The natural number nearest to a quotient; a half goes to the even neighbour. -/
def roundQuotient (num den : Nat) : Nat :=
  let q := num / den
  let r := num % den
  if 2 * r < den then q else if den < 2 * r then q + 1 else q + q % 2

/-- A quotient divided by `2^e`, as a new numerator and denominator. -/
def scaleDown (num den : Nat) (e : Int) : Nat × Nat :=
  if 0 ≤ e then (num, den * Nat.pow 2 e.toNat) else (num * Nat.pow 2 (-e).toNat, den)

/-- The exponent that gives `num / den` a mantissa of 53 bits, or the least exponent. -/
def exponentFor (num den : Nat) : Int :=
  let guess : Int := (num.log2 : Int) - (den.log2 : Int) - 52
  let (n, d) := scaleDown num den guess
  max leastExponent (if n / d < Nat.pow 2 52 then guess - 1 else guess)

/-- The number nearest to `±num / den`. -/
def ofQuotient (negative : Bool) (num den : Nat) : Double :=
  if num = 0 then finite negative 0 leastExponent
  else
    let e := exponentFor num den
    let (n, d) := scaleDown num den e
    let m := roundQuotient n d
    let (m, e) := if m = Nat.pow 2 53 then (Nat.pow 2 52, e + 1) else (m, e)
    if greatestExponent < e then infinite negative else finite negative m e

/-- The number nearest to `±digits · 10^exponent`. Exponents far outside the range are decided
without computing the power. -/
def ofDecimal (negative : Bool) (digits : Nat) (exponent : Int) : Double :=
  if digits = 0 then finite negative 0 leastExponent
  else if 400 < exponent then infinite negative
  else if exponent + digits.log2 + 1 < -400 then finite negative 0 leastExponent
  else if 0 ≤ exponent then ofQuotient negative (digits * Nat.pow 10 exponent.toNat) 1
  else ofQuotient negative digits (Nat.pow 10 (-exponent).toNat)

/-- The number nearest to an integer, which is infinite for integers out of range. -/
def ofInt (n : Int) : Double :=
  ofQuotient (decide (n < 0)) n.natAbs 1

def isFinite : Double → Bool
  | finite .. => true
  | _ => false

/-- The integer that a number is, if it is one. -/
def toInt? : Double → Option Int
  | finite negative m e =>
    let magnitude : Option Nat :=
      if 0 ≤ e then some (m * Nat.pow 2 e.toNat)
      else if m % Nat.pow 2 (-e).toNat = 0 then some (m / Nat.pow 2 (-e).toNat)
      else none
    magnitude.map fun k => if negative then -(k : Int) else (k : Int)
  | _ => none

end Double

end TexMend
