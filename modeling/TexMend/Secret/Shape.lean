import TexMend.Text.Search
import TexMend.Text.Class

/-!
# Shapes of secrets

A shape is a sequence of pieces, each of which takes some characters. A run takes as many as it can and
gives some back only if the rest of the shape does not fit otherwise; a choice takes its first word that
lets the rest fit. The match at a place is what the shape takes there, and matches in a text are found
from the left, without overlap.
-/

namespace TexMend.Secret

/-- A class of characters. -/
abbrev CharClass := Char → Bool

/-- A word, one class for each of its characters. -/
abbrev Word := List CharClass

/-- One step of a shape. -/
inductive Piece where
  /-- Exactly one character of the class. -/
  | one (allowed : CharClass)
  /-- At least `least` characters of the class. -/
  | run (allowed : CharClass) (least : Nat)
  /-- One of several words, of which one may be empty. -/
  | choice (words : List Word)

/-- A sequence of pieces. -/
abbrev Shape := List Piece

/-- What follows a word at the start of a text. -/
def Word.after? : Word → Text → Option Text
  | [], text => some text
  | _ :: _, [] => none
  | allowed :: word, c :: cs => if allowed c then Word.after? word cs else none

/-- Take a run of at least `least` characters, as long as `next` accepts what follows. -/
def takeRun (allowed : CharClass) (next : Text → Option Text) : Nat → Text → Option Text
  | 0, [] => next []
  | _ + 1, [] => none
  | 0, c :: cs =>
    if allowed c then
      match takeRun allowed next 0 cs with
      | some rest => some rest
      | none => next (c :: cs)
    else next (c :: cs)
  | least + 1, c :: cs => if allowed c then takeRun allowed next least cs else none

/-- What follows a match of the shape at the start of a text. -/
def Shape.after? : Shape → Text → Option Text
  | [], text => some text
  | .one allowed :: shape, text =>
    match text with
    | [] => none
    | c :: cs => if allowed c then Shape.after? shape cs else none
  | .run allowed least :: shape, text => takeRun allowed (Shape.after? shape) least text
  | .choice words :: shape, text =>
    words.findSome? fun word =>
      match Word.after? word text with
      | some rest => Shape.after? shape rest
      | none => none

/-- The length of the match at the start of a text. -/
def Shape.matchLength? (shape : Shape) (text : Text) : Option Nat :=
  (shape.after? text).map fun rest => text.length - rest.length

/-- Does the shape match somewhere? -/
def Shape.occurs (shape : Shape) (text : Text) : Bool :=
  (Text.firstAt? shape.after? text).isSome

/-- Put `new` in the place of every match, given the matched text; the first `skip` characters belong to
a match that is already replaced. An empty match leaves the character after it. -/
def Shape.replaceFrom (shape : Shape) (new : Text → Text) : Nat → Text → Text
  | _, [] => if (shape.matchLength? []).isSome then new [] else []
  | skip + 1, _ :: cs => shape.replaceFrom new skip cs
  | 0, c :: cs =>
    match shape.matchLength? (c :: cs) with
    | none => c :: shape.replaceFrom new 0 cs
    | some 0 => new [] ++ c :: shape.replaceFrom new 0 cs
    | some (n + 1) => new ((c :: cs).take (n + 1)) ++ shape.replaceFrom new n cs

/-- Put `new` in the place of every match. -/
def Shape.replaceAll (shape : Shape) (new : Text → Text) (text : Text) : Text :=
  shape.replaceFrom new 0 text

/-- The pieces of a fixed text. -/
def Shape.literal (text : Text) : Shape :=
  text.map fun c => .one (· == c)

/-- The word of a fixed text. -/
def Word.literal (text : Text) : Word :=
  text.map fun c => (· == c)

/-- The word of a lower-case text in any case. -/
def Word.folded (text : Text) : Word :=
  text.map Text.matchesFolded

/-- Exactly `n` characters of a class. -/
def Shape.exactly (n : Nat) (allowed : CharClass) : Shape :=
  List.replicate n (.one allowed)

end TexMend.Secret
