import Mathlib.Data.List.Basic
import TexMend.Proofs.Assist.Consultation

/-!
# What the prompt shows of a document

The window is cut out by positions from zero, with both ends clamped to the document, and its lines are numbered from
one afterwards. What comes out is the part of the document near the line in question, each line under its own number.
The line that is shown as the selected one is the line that the suggestion replaces.
-/

namespace TexMend.Assist

open Secret (Redactor)

/-- The lines that are shown, each with its number: all lines of the document whose number differs from `target` by at
most `context`, and no others, from the top down. -/
structure ShowsAround (context target : Nat) (lines : Document) (shown : List (Text × Nat)) : Prop where
  mem_iff : ∀ line number, (line, number) ∈ shown ↔
    (1 ≤ number ∧ lines[number - 1]? = some line) ∧ ((number : Int) - target).natAbs ≤ context
  ordered : (shown.map Prod.snd).Pairwise (· < ·)

/-- A line as the prompt shows it. -/
def numberedLine (shown : Text × Nat) : Text :=
  Text.ofNat shown.2 ++ ": " ++ shown.1

/-- The prompt for a record, with what it shows of the document. -/
def promptAround (r : Record) (around selected : Text) : Text :=
  "The following LaTeX code has an error:\n\n" ++
  "Error: " ++ r.message ++ "\n" ++
  "Line " ++ ((r.line.map Text.ofInt).getD "?") ++ ": " ++ r.rawLog ++ "\n\n" ++
  "Code context:\n" ++ around ++ "\n\n" ++
  "[Selected line to fix]\n" ++ selected ++ "\n\n" ++
  "Rewrite the selected line so the error goes away. " ++
  "Output ONLY the corrected LaTeX line."

section Window

variable {context target start stop : Nat} {lines : Document} {r : Record}

theorem numbered_eq_map_zipIdx (number : Nat) (lines : Document) :
    numbered number lines = (lines.zipIdx number).map numberedLine := by
  induction lines generalizing number with
  | nil => rfl
  | cons line lines ih => rw [numbered, ih, List.zipIdx_cons, List.map_cons, numberedLine]

/-- The lines from position `start` up to the position `stop`, each with its number. -/
def numberedSlice (start stop : Nat) (lines : Document) : List (Text × Nat) :=
  ((lines.take stop).drop start).zipIdx (start + 1)

/-- The ends of the window are positions that the document has, or its end. -/
theorem contextWindow_eq : contextWindow context target lines =
    (numberedSlice (target - 1 - context) (min lines.length (target + context)) lines).map numberedLine := by
  have hstart : ((target : Int) - 1 - context).toNat = target - 1 - context := by omega
  have hstop : min (lines.length : Int) (target + context) = (min lines.length (target + context) : Nat) := by omega
  rw [contextWindow, hstart, hstop, Text.slice, Text.limit_of_nonneg, numbered_eq_map_zipIdx, numberedSlice]

theorem mem_numberedSlice_iff {line : Text} {number : Nat} : (line, number) ∈ numberedSlice start stop lines ↔
    (1 ≤ number ∧ lines[number - 1]? = some line) ∧ start < number ∧ number ≤ stop := by
  rw [numberedSlice, List.mem_zipIdx_iff_le_and_getElem?_sub]
  constructor
  · rintro ⟨hstart, hline⟩
    have hindex : start + (number - (start + 1)) = number - 1 := by omega
    rw [List.getElem?_drop, hindex, List.getElem?_take, Option.ite_none_right_eq_some] at hline
    exact ⟨⟨by omega, hline.2⟩, by omega, by omega⟩
  · rintro ⟨⟨hpos, hline⟩, hstart, hstop⟩
    have hindex : start + (number - (start + 1)) = number - 1 := by omega
    rw [List.getElem?_drop, hindex, List.getElem?_take, Option.ite_none_right_eq_some]
    exact ⟨by omega, by omega, hline⟩

theorem showsAround_numberedSlice (hpos : 1 ≤ target) : ShowsAround context target lines
    (numberedSlice (target - 1 - context) (min lines.length (target + context)) lines) where
  mem_iff line number := by
    rw [mem_numberedSlice_iff]
    refine and_congr_right fun ⟨hnumber, hline⟩ => ?_
    -- Only here it matters that the line exists: the window ends with the document.
    obtain ⟨hlength, -⟩ := List.getElem?_eq_some_iff.mp hline
    omega
  ordered := by
    rw [numberedSlice, List.zipIdx_map_snd]
    exact List.pairwise_lt_range' 1

theorem prompt_eq_promptAround : prompt context r lines =
    promptAround r (Text.joinLines (contextWindow context r.targetLine lines))
      (lines[r.targetLine - 1]?.getD []) := by
  have hselected : lineAt? lines r.targetLine = lines[r.targetLine - 1]? := if_pos (one_le_targetLine r)
  unfold prompt promptAround
  simp only [hselected]
  cases r.line <;> simp only [Option.map_some, Option.map_none, Option.getD_some, Option.getD_none]

theorem question?_eq_some_prompt (hdigits : ∀ n, r.line = some n → (Text.ofNat n.natAbs).length ≤ 4300) :
    question? context r lines = some (prompt context r lines) := by
  have hwritten : r.line.all (fun n => (Text.writeInt? n).isSome) = true := by
    rw [Option.all_eq_true]
    intro n hline
    rw [Text.writeInt?, if_pos (show _ ≤ Text.digitLimit from hdigits n hline)]
    rfl
  rw [question?, if_pos hwritten]

end Window

/-- A suggestion that replaces a line puts its text there, and leaves a document without this line as it is. -/
theorem Replaces.apply_edit {r : Record} {lines : Document} {s : Suggestion} (h : Replaces r lines s) :
    ∃ new, s.edit.newText = some new ∧ s.edit.apply lines = .ok (lines.set (s.edit.line - 1) new) := by
  obtain ⟨c, rest, hnew, -⟩ := h.newText
  refine ⟨c :: rest, hnew, ?_⟩
  rw [Edit.apply, h.action, hnew]

/-- Whatever line a record names and however wide the window is, the prompt shows exactly the lines of the document
near the line in question, each under its own number and from the top down. The selected line that it shows, which is
empty where the document has none, is the one that the suggestion replaces and tells as the original text. -/
theorem prompt_shows_window {a : Assistant} {context : Nat} (p : Provider) (r : Record) (lines : Document)
    (hcontext : a.contextLines = context)
    (hdigits : ∀ n, r.line = some n → (Text.ofNat n.natAbs).length ≤ 4300) :
    ∃ (target : Nat) (shown : List (Text × Nat)),
      (target : Int) = (if 0 < r.line.getD 0 then r.line.getD 0 else 1) ∧
      ShowsAround context target lines shown ∧
      question? a.contextLines r lines =
        some (promptAround r (Text.joinLines (shown.map numberedLine)) (lines[target - 1]?.getD [])) ∧
      ∀ s, (a.consult p r lines).suggestion = some s →
        s.edit.action = .replaceLine ∧ s.edit.line = target ∧ s.edit.originalText = lines[target - 1]? ∧
          ∃ new, s.edit.newText = some new ∧ s.edit.apply lines = .ok (lines.set (target - 1) new) := by
  refine ⟨r.targetLine, _, targetLine_eq r, showsAround_numberedSlice (one_le_targetLine r), ?_, ?_⟩
  · rw [hcontext, question?_eq_some_prompt hdigits, prompt_eq_promptAround, contextWindow_eq]
  · intro s hs
    have hreplaces := Assistant.replaces_of_consult hs
    have hline : s.edit.line = r.targetLine := by
      have h := hreplaces.line
      rw [← targetLine_eq] at h
      exact Int.ofNat_inj.mp h
    have horiginal := hreplaces.originalText
    obtain ⟨new, hnew, happly⟩ := hreplaces.apply_edit
    rw [hline] at horiginal happly
    exact ⟨hreplaces.action, hline, horiginal, new, hnew, happly⟩

/-- The last line but one is in question: the line behind it is shown, the first one is not, and the suggestion replaces
the selected one. -/
theorem prompt_shows_window_near_end :
    let a : Assistant := { contextLines := 1 }
    let lines : Document := ["first".toList, "second".toList, "alpha".toList, "last".toList]
    let r : Record := { Assistant.leakyRecord with line := some 3 }
    (∀ n, r.line = some n → (Text.ofNat n.natAbs).length ≤ 4300) ∧
      (∃ shown, ShowsAround 1 3 lines shown ∧ ("last".toList, 4) ∈ shown ∧ ("first".toList, 1) ∉ shown ∧
        question? 1 r lines = some (promptAround r (Text.joinLines (shown.map numberedLine)) "alpha")) ∧
      ∃ s, (a.consult Assistant.framingProvider r lines).suggestion = some s ∧ s.edit.line = 3 ∧
        s.edit.originalText = some "alpha".toList := by
  intro a lines r
  have hdigits : ∀ n, r.line = some n → (Text.ofNat n.natAbs).length ≤ 4300 := by
    intro n hn
    obtain rfl : 3 = n := Option.some.inj hn
    decide
  obtain ⟨target, shown, htarget, hshown, hquestion, hsuggestion⟩ :=
    prompt_shows_window Assistant.framingProvider r lines (show a.contextLines = (1 : Nat) from rfl) hdigits
  obtain rfl : target = 3 := Int.ofNat_inj.mp htarget
  have hsent : Redactor.maskStandard (prompt 1 r lines) ∈ (a.consult Assistant.framingProvider r lines).sent :=
    Assistant.maskStandard_mem_sent rfl (by decide +kernel) rfl rfl
  have hmended : (a.consult Assistant.framingProvider r lines).suggestion = some (replacement r lines "\\alpha") :=
    Assistant.suggestion_consult_eq_some_iff.mpr
      ⟨List.ne_nil_of_mem hsent, _, rfl, by decide +kernel, rfl⟩
  obtain ⟨-, hline, horiginal, -⟩ := hsuggestion _ hmended
  exact ⟨hdigits, ⟨shown, hshown, (hshown.mem_iff _ _).mpr (by decide), fun h => absurd ((hshown.mem_iff _ _).mp h)
    (by decide), hquestion⟩, _, hmended, hline, horiginal⟩

end TexMend.Assist
