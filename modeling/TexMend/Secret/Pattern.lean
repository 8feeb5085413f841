import TexMend.Secret.Shape
import TexMend.Text.Numeral

/-!
# Patterns

The written form of shapes, for kinds of secret that a user adds: characters, classes in brackets,
a point for any character but the newline, and counts after them. Groups and alternatives are not part of
it.
-/

namespace TexMend.Secret.Pattern

/-- The class that an escaped letter stands for. -/
def classOfEscape? : Char → Option CharClass
  | 'd' => some fun c => (Text.decimalValue? c).isSome
  | 'w' => some Text.isWord
  | 's' => some Text.isBlank
  | 'n' => some (· == '\n')
  | 't' => some (· == '\t')
  | 'r' => some (· == '\r')
  | c => if Text.isAsciiAlphanumeric c then none else some (· == c)

/-- The classes inside brackets up to the closing one, and the rest. -/
def bracketItems : Text → Option (List CharClass × Text)
  | [] => none
  | ']' :: rest => some ([], rest)
  | '\\' :: c :: rest =>
    match classOfEscape? c, bracketItems rest with
    | some allowed, some (items, rest) => some (allowed :: items, rest)
    | _, _ => none
  | a :: '-' :: ']' :: rest => some ([(· == a), (· == '-')], rest)
  | a :: '-' :: b :: rest =>
    match bracketItems rest with
    | some (items, rest) => if a ≤ b then some ((fun c => a ≤ c && c ≤ b) :: items, rest) else none
    | none => none
  | a :: rest =>
    match bracketItems rest with
    | some (items, rest) => some ((· == a) :: items, rest)
    | none => none

/-- A class in brackets, of which the first is already read. A closing bracket right at the start is a
member, and a caret there turns the class around. -/
def bracketClass? (text : Text) : Option (CharClass × Text) :=
  let (inverted, body) :=
    match text with
    | '^' :: rest => (true, rest)
    | rest => (false, rest)
  let (first, body) : List CharClass × Text :=
    match body with
    | ']' :: rest => ([(· == ']')], rest)
    | rest => ([], rest)
  match bracketItems body with
  | none => none
  | some (items, rest) =>
    some (fun c => ((first ++ items).any fun allowed => allowed c) != inverted, rest)

/-- The class of one unit of a pattern, and the rest. -/
def unit? : Text → Option (CharClass × Text)
  | [] => none
  | '[' :: rest => bracketClass? rest
  | '\\' :: c :: rest => (classOfEscape? c).map (·, rest)
  | '.' :: rest => some ((· != '\n'), rest)
  | c :: rest => if ("()|*+?^$\\" : Text).contains c then none else some ((· == c), rest)

/-- How often a unit may come. -/
structure Count where
  least : Nat
  most : Option Nat

/-- A count in braces, of which the first is already read. -/
def bracedCount? (text : Text) : Option (Count × Text) :=
  match Text.cutAt? '}' text with
  | none => none
  | some (inner, rest) =>
    let digits := inner.takeWhile Text.isAsciiDigit
    let number (t : Text) : Nat := Text.digitsValue t
    match inner.drop digits.length with
    | [] => if digits.isEmpty then none else some (⟨number digits, some (number digits)⟩, rest)
    | ',' :: more =>
      if !more.all Text.isAsciiDigit || (digits.isEmpty && more.isEmpty) then none
      else if more.isEmpty then some (⟨number digits, none⟩, rest)
      else some (⟨number digits, some (number more)⟩, rest)
    | _ => none

/-- The count after a unit, and the rest; without one, the unit comes once. -/
def count (text : Text) : Count × Text :=
  match text with
  | '*' :: rest => (⟨0, none⟩, rest)
  | '+' :: rest => (⟨1, none⟩, rest)
  | '?' :: rest => (⟨0, some 1⟩, rest)
  | '{' :: rest => (bracedCount? rest).getD (⟨1, some 1⟩, text)
  | _ => (⟨1, some 1⟩, text)

/-- The pieces of a counted class. -/
def pieces (allowed : CharClass) (c : Count) : Shape :=
  match c.most with
  | none => [.run allowed c.least]
  | some most =>
    Shape.exactly c.least allowed ++ List.replicate (most - c.least) (.choice [[allowed], []])

/-- Read a pattern; `fuel` bounds the number of units. -/
def readFrom : Nat → Text → Option Shape
  | _, [] => some []
  | 0, _ => none
  | fuel + 1, text =>
    match unit? text with
    | none => none
    | some (allowed, rest) =>
      let (c, rest) := count rest
      if (c.most.getD c.least) < c.least then none
      else (readFrom fuel rest).map (pieces allowed c ++ ·)

/-- The shape that a pattern describes, if it is one. -/
def read? (text : Text) : Option Shape :=
  readFrom (text.length + 1) text

end TexMend.Secret.Pattern
