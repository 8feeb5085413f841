import TexMend.Proofs.Log.Site
import TexMend.Proofs.Text.Stretch

/-!
# Lines that announce a file

A compiler writes a parenthesis and a path when it opens a file. The path ends with the last extension that
is known before a character ends it, and the last line of this kind says which file is open.
-/

namespace TexMend.Log

/-- A name that ends with one of the extensions and has something before it. -/
def IsFileName (name : Text) : Prop :=
  ∃ stem extension, stem ≠ [] ∧ extension ∈ fileExtensions ∧ name = stem ++ extension

/-- A path ends before such a character. -/
def EndsPath (c : Char) : Prop :=
  Text.isBlank c = true ∨ c = '(' ∨ c = ')'

/-- The line announces the file: its path is the longest beginning of what follows the parenthesis, up to
the first character that ends a path, that is a file name. -/
def Announces (line path : Text) : Prop :=
  ∃ run rest, line = '(' :: (run ++ rest) ∧ (∀ c ∈ run, ¬ EndsPath c) ∧
    (∀ c, rest.head? = some c → EndsPath c) ∧
    path <+: run ∧ IsFileName path ∧ ∀ name, name <+: run → IsFileName name → name.length ≤ path.length

/-- The file that is open after the lines: the one that the last announcing line announces. -/
def LeavesOpen (lines : List Text) : Option Text → Prop
  | some path => ∃ before line after, lines = before ++ line :: after ∧ Announces line path ∧
      ∀ later ∈ after, ∀ other, ¬ Announces later other
  | none => ∀ line ∈ lines, ∀ path, ¬ Announces line path

theorem isFileName_iff {name : Text} : isFileName name = true ↔ IsFileName name := by
  simp only [isFileName, List.any_eq_true, Bool.and_eq_true, List.isSuffixOf_iff_suffix, decide_eq_true_iff]
  constructor
  · rintro ⟨extension, hextension, ⟨stem, rfl⟩, hlength⟩
    refine ⟨stem, extension, ?_, hextension, rfl⟩
    rintro rfl
    simp at hlength
  · rintro ⟨stem, extension, hstem, hextension, rfl⟩
    refine ⟨extension, hextension, List.suffix_append _ _, ?_⟩
    simpa using List.length_pos_iff.mpr hstem

/-- The search from the longest beginning down finds the longest one that is a file name. -/
theorem longestFileName?_eq_some_iff {name path : Text} {n : Nat} :
    longestFileName? name n = some path ↔ path <+: name ∧ path.length ≤ n ∧ IsFileName path ∧
      ∀ other, other <+: name → other.length ≤ n → IsFileName other → other.length ≤ path.length := by
  induction n with
  | zero =>
      refine ⟨nofun, ?_⟩
      rintro ⟨-, hlength, ⟨stem, extension, hstem, -, rfl⟩, -⟩
      have hempty : stem ++ extension = [] := List.length_eq_zero_iff.mp (Nat.le_zero.mp hlength)
      exact absurd (List.append_eq_nil_iff.mp hempty).1 hstem
  | succ n ih =>
      unfold longestFileName?
      dsimp only
      split
      · next hcandidate =>
          rw [isFileName_iff] at hcandidate
          have hlongest : ∀ other, other <+: name → other.length ≤ n + 1 →
              other.length ≤ (name.take (n + 1)).length := by
            intro other hother hlength
            rw [List.length_take]
            exact Nat.le_min.mpr ⟨hlength, hother.length_le⟩
          rw [Option.some.injEq]
          constructor
          · rintro rfl
            exact ⟨List.take_prefix _ _, List.length_take_le _ _, hcandidate,
              fun other hother hlength _ => hlongest other hother hlength⟩
          · rintro ⟨hpath, hlength, -, hmax⟩
            have hle := hmax _ (List.take_prefix _ _) (List.length_take_le _ _) hcandidate
            exact ((List.prefix_of_prefix_length_le (List.take_prefix _ _) hpath hle).eq_of_length
              (Nat.le_antisymm hle (hlongest path hpath hlength)))
      · next hcandidate =>
          rw [isFileName_iff] at hcandidate
          -- no file name has just the length that failed
          have hshorter : ∀ other, other <+: name → IsFileName other → other.length ≤ n + 1 →
              other.length ≤ n := by
            intro other hother hfile hlength
            by_contra hlong
            have heq : other.length = n + 1 := by omega
            rw [List.prefix_iff_eq_take.mp hother, heq] at hfile
            exact hcandidate hfile
          rw [ih]
          constructor
          · rintro ⟨hpath, hlength, hfile, hmax⟩
            exact ⟨hpath, Nat.le_succ_of_le hlength, hfile, fun other hother hle hother' =>
              hmax other hother (hshorter other hother hother' hle) hother'⟩
          · rintro ⟨hpath, hlength, hfile, hmax⟩
            exact ⟨hpath, hshorter path hpath hfile hlength, hfile, fun other hother hle =>
              hmax other hother (Nat.le_succ_of_le hle)⟩

/-- The characters of a path, as they are tested one by one. -/
def isPathChar (c : Char) : Bool :=
  !Text.isBlank c && c != '(' && c != ')'

theorem isPathChar_iff {c : Char} : isPathChar c = true ↔ ¬ EndsPath c := by
  simp [isPathChar, EndsPath, not_or, and_assoc]

/-- The run of a path is the stretch of its characters. -/
theorem takeWhile_isPathChar {run rest : Text} (hrun : ∀ c ∈ run, ¬ EndsPath c)
    (hrest : ∀ c, rest.head? = some c → EndsPath c) : (run ++ rest).takeWhile isPathChar = run := by
  have hchars : ∀ c ∈ run, isPathChar c = true := fun c hc => isPathChar_iff.mpr (hrun c hc)
  cases rest with
  | nil => rw [List.append_nil, List.takeWhile_eq_self_iff.mpr hchars]
  | cons c rest =>
      apply Text.takeWhile_append_cons hchars
      rw [Bool.eq_false_iff, Ne, isPathChar_iff, not_not]
      exact hrest c rfl

/-- A line opens a file exactly when it announces it. -/
theorem openedFile?_eq_some_iff {line path : Text} : openedFile? line = some path ↔ Announces line path := by
  by_cases hline : ∃ rest, line = '(' :: rest
  · obtain ⟨rest, rfl⟩ := hline
    change longestFileName? (rest.takeWhile isPathChar) (rest.takeWhile isPathChar).length = some path ↔ _
    rw [longestFileName?_eq_some_iff]
    constructor
    · rintro ⟨hpath, -, hfile, hmax⟩
      refine ⟨rest.takeWhile isPathChar, rest.dropWhile isPathChar,
        by rw [List.takeWhile_append_dropWhile], ?_, ?_, hpath, hfile, ?_⟩
      · intro c hc
        exact isPathChar_iff.mp (List.mem_takeWhile_imp hc)
      · intro c hc
        obtain ⟨after, hafter⟩ := List.head?_eq_some_iff.mp hc
        by_contra hends
        have hstop := Text.eq_false_of_dropWhile_eq_cons hafter
        rw [isPathChar_iff.mpr hends] at hstop
        cases hstop
      · intro name hname
        exact hmax name hname hname.length_le
    · rintro ⟨run, after, hrest, hrun, hafter, hpath, hfile, hmax⟩
      rw [(List.cons.inj hrest).2, takeWhile_isPathChar hrun hafter]
      exact ⟨hpath, hpath.length_le, hfile, fun name hname _ => hmax name hname⟩
  · have hnone : openedFile? line = none := by
      unfold openedFile?
      split
      · next rest => exact absurd ⟨rest, rfl⟩ hline
      · rfl
    rw [hnone]
    refine ⟨nofun, ?_⟩
    rintro ⟨run, rest, hrest, -⟩
    exact absurd ⟨_, hrest⟩ hline

theorem openedFile?_eq_none_iff {line : Text} :
    openedFile? line = none ↔ ∀ path, ¬ Announces line path := by
  simp only [Option.eq_none_iff_forall_ne_some, ne_eq, openedFile?_eq_some_iff]

/-- The last announcing line leaves its file open. -/
theorem leavesOpen_lastOpened (lines : List Text) : LeavesOpen lines (lastOpened lines) := by
  induction lines with
  | nil => exact fun _ h => by cases h
  | cons line rest ih =>
      rw [lastOpened_cons]
      cases hrest : lastOpened rest with
      | some path =>
          rw [hrest] at ih
          obtain ⟨before, opening, after, rfl, hopening, hafter⟩ := ih
          exact ⟨line :: before, opening, after, rfl, hopening, hafter⟩
      | none =>
          rw [hrest] at ih
          cases hline : openedFile? line with
          | some path => exact ⟨[], line, rest, rfl, openedFile?_eq_some_iff.mp hline, ih⟩
          | none =>
              rintro other (_ | ⟨_, hother⟩)
              · exact openedFile?_eq_none_iff.mp hline
              · exact ih other hother

end TexMend.Log
