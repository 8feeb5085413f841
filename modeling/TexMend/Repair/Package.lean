import TexMend.Text.Lines
import TexMend.Text.Search

/-!
# Packages of a document

Where the import of a package belongs, and whether a document imports it already.
-/

namespace TexMend.Repair

/-- The command that imports packages. -/
def importCommand : Text := "\\usepackage"

/-- The line that ends the preamble. -/
def bodyMarker : Text := "\\begin{document}"

/-- The line that imports one package. -/
def importLine (package : Text) : Text :=
  "\\usepackage\x7b" ++ package ++ "\x7d"

/-- The line after which an import belongs, or zero: the last import so far stands on line `last`, and
`before` lines stand before the rest. A line that both imports and begins the body counts as an
import. -/
def importPlaceFrom (last before : Nat) : Document → Nat
  | [] => last
  | line :: rest =>
    let last := if Text.includes importCommand line then before + 1 else last
    if Text.includes bodyMarker line then (if last = 0 then before else last)
    else importPlaceFrom last (before + 1) rest

/-- The line after which an import belongs: the last import of the preamble, else the line before the
body begins, and never before the first line. -/
def importPlace (lines : Document) : Nat :=
  max 1 (importPlaceFrom 0 0 lines)

/-- Does a closing brace follow on the same line? -/
def closesOnLine (rest : Text) : Bool :=
  (rest.takeWhile (· != '\n')).contains '}'

/-- Does `package` stand between here and a closing brace, all on one line? -/
def namesPackage (package : Text) : Text → Bool
  | [] => false
  | c :: cs =>
    (package.isPrefixOf (c :: cs) && closesOnLine ((c :: cs).drop package.length)) ||
      (c != '\n' && namesPackage package cs)

/-- Do the options in brackets end here or later on the line, with the packages in braces next? -/
def optionsThenPackage (package : Text) : Text → Bool
  | [] => false
  | c :: cs =>
    (match Text.after? "]\x7b" (c :: cs) with
      | some body => namesPackage package body
      | none => false) ||
      (c != '\n' && optionsThenPackage package cs)

/-- Is an import command at the start of this text one that names the package? -/
def importsAt (package : Text) (text : Text) : Bool :=
  match Text.after? importCommand text with
  | some ('{' :: body) => namesPackage package body
  | some ('[' :: options) => optionsThenPackage package options
  | _ => false

/-- Does the line import the package? The name may be part of a longer one. -/
def lineImports (package line : Text) : Bool :=
  (Text.firstAt? (fun t => if importsAt package t then some () else none) line).isSome

/-- Does some line import the package? -/
def isImported (package : Text) (lines : Document) : Bool :=
  lines.any (lineImports package)

end TexMend.Repair
