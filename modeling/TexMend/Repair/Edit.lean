import TexMend.Log.Category
import TexMend.Text.Lines
import TexMend.Text.Numeral

/-!
# Edits of a document

An edit addresses lines of a document by number, from one. Several edits are applied from the highest
line to the lowest, so that none shifts the target of another, and on one line the insertions come
last, so that no replacement hits an inserted line.
-/

namespace TexMend

/-- What an edit does to the lines it addresses. -/
inductive EditAction where
  | replaceLine
  | insertBefore
  | insertAfter
  | deleteLine
  | replaceRange
  deriving DecidableEq, Inhabited, Repr

namespace EditAction

def all : List EditAction :=
  [.replaceLine, .insertBefore, .insertAfter, .deleteLine, .replaceRange]

def name : EditAction → Text
  | replaceLine => "replace_line"
  | insertBefore => "insert_before"
  | insertAfter => "insert_after"
  | deleteLine => "delete_line"
  | replaceRange => "replace_range"

def ofName (given : Text) : Except UnknownName EditAction :=
  UnknownName.resolve "EditAction" name all given

/-- Does the action add a line and leave all others? -/
def inserts : EditAction → Bool
  | insertBefore | insertAfter => true
  | _ => false

end EditAction

/-- A change of one place in a document. -/
structure Edit where
  action : EditAction
  /-- The first line that is addressed. -/
  line : Nat
  /-- The last line of a range; other actions carry it without using it. -/
  endLine : Option Int := none
  newText : Option Text := none
  /-- What stood there, for a reader to compare. -/
  originalText : Option Text := none
  line_pos : 1 ≤ line := by decide
  range_ok : action = .replaceRange → ∃ e, endLine = some e ∧ (line : Int) ≤ e := by simp

/-- Why there is no such edit. -/
inductive EditError where
  /-- Lines are numbered from one. -/
  | lineBelowOne (line : Int)
  /-- A range needs an end, and not before its start. -/
  | rangeWithoutEnd
  deriving DecidableEq, Repr

/-- The wording for the user. -/
def EditError.message : EditError → Text
  | lineBelowOne line => "Edit line must be >= 1, got " ++ Text.ofInt line
  | rangeWithoutEnd => "replace_range requires end_line >= line"

/-- The edit could not be applied: it inserts at a position that no list of lines can have. -/
inductive ApplyError where
  | positionTooLarge
  deriving DecidableEq, Repr

/-- The wording for the user. -/
def ApplyError.message : ApplyError → Text
  | positionTooLarge => "Python int too large to convert to C ssize_t"

namespace Edit

/-- The edit with the given parts, if they make one. -/
def make (action : EditAction) (line : Int) (endLine : Option Int) (newText originalText : Option Text) :
    Except EditError Edit :=
  if h : 1 ≤ line then
    if hr : action = .replaceRange then
      match endLine with
      | none => .error .rangeWithoutEnd
      | some e =>
        if he : line ≤ e then
          .ok { action, line := line.toNat, endLine := some e, newText, originalText
                line_pos := by omega
                range_ok := fun _ => ⟨e, rfl, by omega⟩ }
        else .error .rangeWithoutEnd
    else
      .ok { action, line := line.toNat, endLine, newText, originalText
            line_pos := by omega
            range_ok := fun h => absurd h hr }
  else .error (.lineBelowOne line)

/-- The greatest position at which a line can be inserted. -/
def positionLimit : Nat := Nat.pow 2 63 - 1

/-- Insert a line at a position, or at the end if the document is shorter. -/
def insertAt (position : Nat) (new : Text) (lines : Document) : Except ApplyError Document :=
  if position ≤ positionLimit then .ok (lines.take position ++ new :: lines.drop position)
  else .error .positionTooLarge

/-- Apply one edit. An edit past the end, or without the text that its action needs, changes nothing,
except that a range past the end appends its text. -/
def apply (edit : Edit) (lines : Document) : Except ApplyError Document :=
  match edit.action, edit.newText with
  | .replaceLine, some new => .ok (lines.set (edit.line - 1) new)
  | .insertBefore, some new => insertAt (edit.line - 1) new lines
  | .insertAfter, some new => insertAt edit.line new lines
  | .deleteLine, _ => .ok (lines.eraseIdx (edit.line - 1))
  | .replaceRange, some new =>
    match edit.endLine with
    | some e => .ok (lines.take (edit.line - 1) ++ new :: lines.drop e.toNat)
    | none => .ok lines
  | _, none => .ok lines

/-- May `a` be applied before `b`? Higher lines go first, and on one line insertions go last. -/
def precedes (a b : Edit) : Bool :=
  b.line < a.line || (a.line == b.line && (!a.action.inserts || b.action.inserts))

/-- The order in which edits are applied together; edits of equal rank keep their order. -/
def schedule (edits : List Edit) : List Edit :=
  edits.mergeSort precedes

/-- Apply several edits to one document. -/
def applyAll (edits : List Edit) (lines : Document) : Except ApplyError Document :=
  (schedule edits).foldlM (fun lines edit => edit.apply lines) lines

end Edit

end TexMend
