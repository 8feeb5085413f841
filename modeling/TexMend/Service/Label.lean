import TexMend.Text.Class
import TexMend.Text.LabelTable
import TexMend.Text.Punycode

/-!
# Labels of host names

A label is what stands between two points of a host name. In ASCII it is written as it is; a label in other
scripts is written in letters, digits and hyphens behind a lead. The characters of a label, their neighbours
and their direction decide whether it is one.
-/

namespace TexMend.Service.Label

/-- The lead of labels that are written in letters, digits and hyphens. -/
def lead : Text := "xn--"

/-- The longest label, in characters as written. -/
def lengthLimit : Nat := 63

/-- Marks belong to the character before them. -/
def isMark (c : Char) : Bool :=
  Text.inRanges c.toNat Text.labelRanges && !Text.isWord c && c != '-'

/-- Does a mark make one character with the character before it? -/
def isComposed (before mark : Char) : Bool :=
  Text.compositions.any fun (n, bases) => n = mark.toNat && bases.elem before.toNat

/-- Does a label write in two characters what is one character? -/
def hasLoosePair (label : Text) : Bool :=
  (label.zip (label.drop 1)).any fun (a, b) => isComposed a b

/-- Hyphens stand neither at the ends nor in the third and the fourth place together. -/
def hyphensStandRight (label : Text) : Bool :=
  label.head? != some '-' && label.getLast? != some '-' && (label.drop 2).take 2 != ['-', '-']

/-- The digits of the Arabic scripts, of the west and of the east. -/
def isArabicDigit (c : Char) : Bool := 0x660 ≤ c.toNat && c.toNat ≤ 0x669

/-- The digits of the Arabic scripts of the east. -/
def isEasternDigit (c : Char) : Bool := 0x6F0 ≤ c.toNat && c.toNat ≤ 0x6F9

/-- Greek letters. -/
def isGreek (c : Char) : Bool :=
  Text.isWord c && ((0x370 ≤ c.toNat && c.toNat ≤ 0x3E1) || (0x3F0 ≤ c.toNat && c.toNat ≤ 0x3FF) ||
    (0x1F00 ≤ c.toNat && c.toNat ≤ 0x1FFF))

/-- Hebrew letters and marks. -/
def isHebrew (c : Char) : Bool := 0x591 ≤ c.toNat && c.toNat ≤ 0x5F4

/-- The letters of Japanese: kana of both kinds and ideographs. -/
def isJapanese (c : Char) : Bool :=
  let n := c.toNat
  n = 0x3005 || n = 0x3007 || (0x3041 ≤ n && n ≤ 0x3096) || (0x309D ≤ n && n ≤ 0x309F) ||
    (0x30A1 ≤ n && n ≤ 0x30FA) || (0x30FD ≤ n && n ≤ 0x30FF) || (0x31F0 ≤ n && n ≤ 0x31FF) ||
    (0x3400 ≤ n && n ≤ 0x4DBF) || (0x4E00 ≤ n && n ≤ 0x9FFF) || (0x20000 ≤ n && n ≤ 0x323AF)

/-- Arabic letters that join with a letter beside them. -/
def isJoining (c : Char) : Bool :=
  let n := c.toNat
  0x620 ≤ n && n ≤ 0x6D5 && n != 0x621 && n != 0x640 && n != 0x674 && n != 0x6D4 &&
    Text.isWord c && !Text.isDigitInForm c

/-- Arabic letters that join with the letter after them. -/
def joinsNext (c : Char) : Bool :=
  isJoining c && !Text.inRanges c.toNat Text.tailLetters

/-- Does a character that joins nothing part two letters that would join? -/
def partsLetters (before after : Text) : Bool :=
  let nextTo (p : Char → Bool) (t : Text) := ((t.dropWhile isMark).head?.map p).getD false
  nextTo joinsNext before.reverse && nextTo isJoining after

/-- May a character stand between what is before it and what is after it? -/
def standsRight (label before : Text) (c : Char) (after : Text) : Bool :=
  let previous (p : Char → Bool) := (before.getLast?.map p).getD false
  let next (p : Char → Bool) := (after.head?.map p).getD false
  let afterVirama := previous fun d => Text.viramas.elem d.toNat
  if c = '·' then previous (· = 'l') && next (· = 'l')
  else if c = '\u0375' then next isGreek
  else if c = '׳' || c = '״' then previous isHebrew
  else if c = '・' then label.any isJapanese
  else if c = '\u200c' then afterVirama || partsLetters before after
  else if c = '\u200d' then afterVirama
  else if isArabicDigit c then !label.any isEasternDigit
  else if isEasternDigit c then !label.any isArabicDigit
  else Text.inRanges c.toNat Text.labelRanges

/-- May every character stand where it stands? -/
def allStandRight (label : Text) : Bool :=
  (List.range label.length).all fun i =>
    match label.drop i with
    | [] => true
    | c :: after => standsRight label (label.take i) c after

/-- How the characters of a label run. -/
inductive Direction where
  | leftward
  | rightward
  /-- The digits of the Arabic scripts of the west, in a text that runs to the left. -/
  | arabicDigit
  | digit
  | neutral
  deriving DecidableEq, Repr

/-- The direction of a character. -/
def directionOf (c : Char) : Direction :=
  let n := c.toNat
  if isArabicDigit c then .arabicDigit
  else if Text.isAsciiDigit c || isEasternDigit c then .digit
  else if isMark c || c = '-' || c = '\u200c' || c = '\u200d' || c = '·' || c = '\u0375' || c = '・' then
    .neutral
  else if (0x590 ≤ n && n ≤ 0x8FF) || (0xFB1D ≤ n && n ≤ 0xFDFF) || (0xFE70 ≤ n && n ≤ 0xFEFF) ||
      (0x10800 ≤ n && n ≤ 0x10FFF) || (0x1E800 ≤ n && n ≤ 0x1EFFF) then .leftward
  else .rightward

/-- A label with a part that runs to the left does so from its first character to its last one. It holds
digits of one kind. -/
def runsOneWay (label : Text) : Bool :=
  let directions := label.map directionOf
  if !directions.any (fun d => d = .leftward || d = .arabicDigit) then true
  else
    directions.head? = some .leftward && !directions.elem .rightward &&
      !(directions.elem .arabicDigit && directions.elem .digit) &&
      ((label.reverse.dropWhile isMark).head?.map fun c => directionOf c != .neutral).getD false

/-- Do the characters of a text make a label? -/
def isLabel (label : Text) : Bool :=
  !label.isEmpty && !hasLoosePair label && hyphensStandRight label &&
    !(label.head?.map isMark).getD true && allStandRight label && runsOneWay label

/-- A label as it is written. What has the lead already is written, and stays. -/
def write? (label : Text) : Option Text :=
  let isAscii := label.all fun c => c.toNat < 128
  let isWritten := isAscii && lead.isPrefixOf label && lead != label && label.getLast? != some '-'
  let written := if isAscii then label else lead ++ Text.Punycode.encode label
  if (isWritten || isLabel label) && written.length ≤ lengthLimit then some written else none

end TexMend.Service.Label
