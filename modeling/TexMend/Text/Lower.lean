import TexMend.Text.Class
import TexMend.Text.LowerTable

/-!
# Lower case in every script

Most capitals have one letter as their lower case. The dotted capital i has two characters, and the capital
sigma one of two letters, by what stands around it.
-/

namespace TexMend.Text

/-- The lower case of a capital in one of the runs. -/
def lowerInRuns? (n : Nat) : List (Nat × Nat × Nat × Int) → Option Nat
  | [] => none
  | (first, last, step, distance) :: rest =>
    if n < first then none
    else if last < n then lowerInRuns? n rest
    else if (n - first) % step = 0 then some ((n : Int) + distance).toNat
    else none

/-- The lower case of a character wherever it stands. -/
def lowerChar (c : Char) : Text :=
  if c.toNat < 128 then [lowerAscii c]
  else if c = 'İ' then ['i', '\u0307']
  else
    match lowerInRuns? c.toNat capitalRuns with
    | some n => [Char.ofNat n]
    | none => [c]

/-- Points and accents, which do not part the letters of a word. -/
def isLetterMark (c : Char) : Bool :=
  (".':·’" : Text).elem c || (0x300 ≤ c.toNat && c.toNat ≤ 0x36F)

/-- Letters of the scripts that have capitals. -/
def hasCase (c : Char) : Bool :=
  let n := c.toNat
  isWord c && !isDigitInForm c && c != '_' &&
    (n < 0x590 || (0x10A0 ≤ n && n ≤ 0x10FF) || (0x1E00 ≤ n && n ≤ 0x1FFF))

/-- Lower case, where `inWord` says that a letter stands before. A capital sigma at the end of a word has a
form of its own. -/
def lowerFrom : (inWord : Bool) → Text → Text
  | _, [] => []
  | inWord, c :: rest =>
    let goesOn := ((rest.dropWhile isLetterMark).head?.map hasCase).getD false
    let lowered := if c = 'Σ' then (if inWord && !goesOn then ['ς'] else ['σ']) else lowerChar c
    lowered ++ lowerFrom (if isLetterMark c then inWord else hasCase c) rest

/-- A text in lower case. -/
def lower (t : Text) : Text :=
  lowerFrom false t

end TexMend.Text
