import TexMend.Text.Basic

/-!
# Texts in letters, digits and hyphens

A text is written in two pieces. The first holds its ASCII characters in their order. The second tells how the
others are put in between, in the order of their codes: for each of them the number of choices that are
passed over since the one before, as a numeral whose last digit is the first one below its threshold. The
thresholds follow the size of the numbers seen so far.
-/

namespace TexMend.Text.Punycode

/-- The number of digits. -/
def radix : Nat := 36

/-- A digit: a letter up to twenty-five, an ASCII digit after that. -/
def digit (n : Nat) : Char :=
  if n < 26 then Char.ofNat (97 + n) else Char.ofNat (22 + n)

/-- The threshold of the digit that starts at `place`, between 1 and 26. -/
def threshold (bias place : Nat) : Nat :=
  max 1 (min 26 (place - bias))

/-- A number as digits, the lowest one first. -/
def numeral (bias place n : Nat) : Text :=
  let t := threshold bias place
  if n < t then [digit n]
  else digit (t + (n - t) % (radix - t)) :: numeral bias (place + radix) ((n - t) / (radix - t))
termination_by n
decreasing_by
  have positive : 1 ≤ threshold bias place := by simp only [threshold]; omega
  exact Nat.lt_of_le_of_lt (Nat.div_le_self _ _) (by omega)

/-- How far the thresholds move for a number of the size of `gap`. -/
def spread (gap : Nat) : Nat :=
  if 455 < gap then radix + spread (gap / 35) else radix * gap / (gap + 38)
termination_by gap
decreasing_by omega

/-- The bias after a number; `size` is the length of the text that is put together so far. -/
def nextBias (gap size : Nat) (isFirst : Bool) : Nat :=
  let damped := gap / (if isFirst then 700 else 2)
  spread (damped + damped / size)

/-- What is known when a character is put in: the code of the one before and the place after it, the length
of the text that is put together so far, and the bias of the thresholds. -/
structure Progress where
  code : Nat
  place : Nat
  size : Nat
  bias : Nat

/-- The places of the characters with code `code`: only those that are put in before count. -/
def placesOf (code : Nat) : (place : Nat) → List Nat → List (Nat × Nat)
  | _, [] => []
  | place, n :: rest =>
    if n = code then (code, place) :: placesOf code (place + 1) rest
    else placesOf code (if n < code then place + 1 else place) rest

/-- The characters beyond ASCII in the order in which they are put in, with their places. -/
def insertions (codes : List Nat) : List (Nat × Nat) :=
  ((codes.filter (128 ≤ ·)).eraseDups.mergeSort (· ≤ ·)).flatMap fun code => placesOf code 0 codes

/-- The numbers that tell how characters are put in. -/
def encodeInsertions (isFirst : Bool) (p : Progress) : List (Nat × Nat) → Text
  | [] => []
  | (code, place) :: rest =>
    let size := p.size + 1
    let gap := (code - p.code) * size + place - p.place
    numeral p.bias radix gap ++
      encodeInsertions false ⟨code, place + 1, size, nextBias gap size isFirst⟩ rest

/-- A text in letters, digits and hyphens; a hyphen parts the two pieces. -/
def encode (t : Text) : Text :=
  let plain := t.filter fun c => c.toNat < 128
  (if plain.isEmpty then [] else plain ++ ['-']) ++
    encodeInsertions true ⟨128, 0, plain.length, 72⟩ (insertions (t.map Char.toNat))

end TexMend.Text.Punycode
