import TexMend.Text.Basic

/-!
# Searching in a text

Everything here looks at the leftmost place first. A place is the rest of the text from there, so a
test at a place is a function of what follows.
-/

namespace TexMend.Text

/-- What follows `lead`, if the text begins with it. -/
def after? (lead text : Text) : Option Text :=
  if lead.isPrefixOf text then some (text.drop lead.length) else none

/-- The answer of `test` at the leftmost place where it has one. -/
def firstAt? {α : Type} (test : Text → Option α) : Text → Option α
  | [] => test []
  | c :: cs =>
    match test (c :: cs) with
    | some a => some a
    | none => firstAt? test cs

/-- Does `part` occur in the text? -/
def includes (part : Text) : Text → Bool
  | [] => part.isEmpty
  | c :: cs => part.isPrefixOf (c :: cs) || includes part cs

/-- How many characters stand before the first occurrence of `part`. -/
def positionOf? (part : Text) : Text → Option Nat
  | [] => if part.isEmpty then some 0 else none
  | c :: cs => if part.isPrefixOf (c :: cs) then some 0 else (positionOf? part cs).map (· + 1)

/-- Occurrences of `part` counted from the left without overlap; the first `skip` characters belong
to an occurrence that is already counted. -/
def countOfFrom (part : Text) : Nat → Text → Nat
  | _, [] => 0
  | skip + 1, _ :: cs => countOfFrom part skip cs
  | 0, c :: cs =>
    if part.isPrefixOf (c :: cs) then countOfFrom part (part.length - 1) cs + 1
    else countOfFrom part 0 cs

/-- The number of occurrences of a non-empty `part`, from the left and without overlap. -/
def countOf (part text : Text) : Nat :=
  countOfFrom part 0 text

/-- Put `new` in the place of the first occurrence of `old`. -/
def replaceFirst (old new : Text) : Text → Text
  | [] => if old.isEmpty then new else []
  | c :: cs =>
    if old.isPrefixOf (c :: cs) then new ++ (c :: cs).drop old.length
    else c :: replaceFirst old new cs

/-- Cut at the first `mark`: what stands before it and what stands after it. -/
def cutAt? (mark : Char) : Text → Option (Text × Text)
  | [] => none
  | c :: cs => if c = mark then some ([], cs) else (cutAt? mark cs).map fun (a, b) => (c :: a, b)

/-- Cut at every occurrence of the non-empty `mark`, from the left and without overlap; the first
`skip` characters belong to an occurrence that has already cut. -/
def splitOnFrom (mark : Text) : Nat → Text → List Text
  | _, [] => [[]]
  | skip + 1, _ :: cs => splitOnFrom mark skip cs
  | 0, c :: cs =>
    if mark.isPrefixOf (c :: cs) then [] :: splitOnFrom mark (mark.length - 1) cs
    else
      match splitOnFrom mark 0 cs with
      | [] => [[c]]
      | piece :: rest => (c :: piece) :: rest

/-- The pieces between the occurrences of the non-empty `mark`. -/
def splitOn (mark text : Text) : List Text :=
  splitOnFrom mark 0 text

/-- Put `mark` between neighbouring pieces. -/
def joinWith (mark : Text) : List Text → Text
  | [] => []
  | [piece] => piece
  | piece :: next :: rest => piece ++ mark ++ joinWith mark (next :: rest)

end TexMend.Text
