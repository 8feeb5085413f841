import TexMend.Assist.Cleaning
import TexMend.Proofs.Text.Occurrence
import TexMend.Proofs.Text.Stretch

/-!
# Code fences

Without the mark of a fence neither step against fences takes anything away. With it, the step against opening fences
takes a mark at the start of a line together with its tag and the newlines behind it. So it takes off closing fences,
too, if they stand on lines of their own.
-/

namespace TexMend.Assist

variable {text before rest : Text} {lineStart : Bool}

theorem newline_not_mem_fence : '\n' ∉ fence := by decide

theorem not_infix_of_includes (h : Text.includes fence text = false) : ¬ fence <:+: text := by
  rw [← Text.includes_iff_infix, h]
  exact Bool.false_ne_true

section Absent

theorem openFenceLength?_eq_none (h : ¬ fence <+: text) : openFenceLength? text = none := by
  rw [openFenceLength?, Text.after?_eq_none h]

theorem dropOpenFencesFrom_cons {c : Char} {cs : Text} (h : ¬ fence <+: c :: cs) :
    dropOpenFencesFrom lineStart 0 (c :: cs) = c :: dropOpenFencesFrom (c == '\n') 0 cs := by
  rw [dropOpenFencesFrom, openFenceLength?_eq_none h]
  cases lineStart <;> rfl

theorem dropOpenFencesFrom_eq_self (h : ¬ fence <:+: text) : dropOpenFencesFrom lineStart 0 text = text := by
  induction text generalizing lineStart with
  | nil => rfl
  | cons c cs ih =>
      rw [List.infix_cons_iff, not_or] at h
      rw [dropOpenFencesFrom_cons h.1, ih h.2]

/-- A line without the mark stays. -/
theorem dropOpenFencesFrom_line (h : ¬ fence <:+: before) :
    dropOpenFencesFrom lineStart 0 (before ++ '\n' :: rest) = before ++ '\n' :: dropOpenFencesFrom true 0 rest := by
  induction before generalizing lineStart with
  | nil =>
      have hbegins : ¬ fence <+: '\n' :: rest := by
        rw [Text.prefix_cons_iff_of_not_mem newline_not_mem_fence]
        decide
      exact dropOpenFencesFrom_cons hbegins
  | cons c cs ih =>
      have hbegins : ¬ fence <+: c :: cs ++ '\n' :: rest := by
        intro hbegins
        exact h (Text.prefix_of_prefix_append_cons newline_not_mem_fence hbegins).isInfix
      rw [List.infix_cons_iff, not_or] at h
      rw [List.cons_append] at hbegins ⊢
      rw [dropOpenFencesFrom_cons hbegins, ih h.2]
      rfl

/-- A line without the mark stays, and so do the newlines behind it. -/
theorem dropOpenFencesFrom_lines (h : ¬ fence <:+: before) (gap : Nat) :
    dropOpenFencesFrom lineStart 0 (before ++ List.replicate (gap + 1) '\n' ++ rest) =
      before ++ List.replicate (gap + 1) '\n' ++ dropOpenFencesFrom true 0 rest := by
  induction gap generalizing before lineStart with
  | zero =>
      simp only [List.append_assoc]
      exact dropOpenFencesFrom_line h
  | succ gap ih =>
      have hempty : ¬ fence <:+: [] := by decide
      have hrest : dropOpenFencesFrom true 0 ([] ++ List.replicate (gap + 1) '\n' ++ rest) =
          [] ++ List.replicate (gap + 1) '\n' ++ dropOpenFencesFrom true 0 rest := ih hempty
      rw [List.nil_append] at hrest
      rw [List.replicate_succ, List.append_assoc, List.cons_append, dropOpenFencesFrom_line h, hrest]
      simp

/-- Newlines keep two texts without the mark apart. -/
theorem not_infix_append_newlines (hbefore : ¬ fence <:+: before) (hrest : ¬ fence <:+: rest) (gap : Nat) :
    ¬ fence <:+: before ++ List.replicate (gap + 1) '\n' ++ rest := by
  induction gap generalizing before with
  | zero =>
      rw [List.append_assoc]
      change ¬ fence <:+: before ++ '\n' :: rest
      rw [Text.infix_append_cons_iff newline_not_mem_fence]
      exact not_or.mpr ⟨hbefore, hrest⟩
  | succ gap ih =>
      have hempty : ¬ fence <:+: [] := by decide
      rw [List.replicate_succ, List.append_assoc, List.cons_append, Text.infix_append_cons_iff newline_not_mem_fence]
      exact not_or.mpr ⟨hbefore, ih hempty⟩

theorem closeFenceLength?_eq_none (h : ¬ fence <:+: text) : closeFenceLength? text = none := by
  unfold closeFenceLength?
  split
  · next lead marked hmarked =>
      have hsuffix : marked <:+ text := by
        split at hmarked
        · obtain ⟨-, rfl⟩ := Prod.mk.inj hmarked
          exact List.suffix_cons _ _
        · obtain ⟨-, rfl⟩ := Prod.mk.inj hmarked
          exact List.suffix_rfl
      rw [Text.after?_eq_none fun hbegins => h (hbegins.isInfix.trans hsuffix.isInfix)]

theorem dropCloseFences_eq_self (h : ¬ fence <:+: text) : dropCloseFences text = text := by
  rw [dropCloseFences]
  induction text with
  | nil => rfl
  | cons c cs ih =>
      rw [dropCloseFencesFrom, closeFenceLength?_eq_none h]
      rw [List.infix_cons_iff, not_or] at h
      rw [ih h.2]

end Absent

section Present

/-- The tag behind an opening fence. -/
inductive Tag where
  | bare
  | latex
  | tex

def Tag.word : Tag → Text
  | bare => []
  | latex => "latex"
  | tex => "tex"

/-- The mark, its tag and the newlines behind it are the fence. -/
theorem openFenceLength?_fence (tag : Tag) (gap : Nat) (hrest : ∀ c cs, rest = c :: cs → Text.isBlank c = false) :
    openFenceLength? (fence ++ (tag.word ++ List.replicate (gap + 1) '\n' ++ rest)) =
      some (fence ++ (tag.word ++ List.replicate (gap + 1) '\n')).length := by
  have htagless : ∀ blanks : Text, ((Text.after? "latex" (tag.word ++ '\n' :: blanks)).or
      (Text.after? "tex" (tag.word ++ '\n' :: blanks))).getD (tag.word ++ '\n' :: blanks) = '\n' :: blanks := by
    intro blanks
    cases tag <;> rfl
  have hblanks : (List.replicate (gap + 1) '\n' ++ rest).dropWhile Text.isBlank = rest :=
    Text.dropWhile_replicate_append rfl (gap + 1) hrest
  rw [openFenceLength?, Text.after?_append]
  dsimp only
  rw [List.append_assoc, List.replicate_succ, List.cons_append, htagless, ← List.cons_append, ← List.replicate_succ,
    hblanks]
  simp only [List.length_append, Option.some.injEq]
  omega

/-- The characters of a fence are passed over up to its last newline. -/
theorem dropOpenFencesFrom_skip (taken rest : Text) :
    dropOpenFencesFrom lineStart (taken.length + 1) (taken ++ '\n' :: rest) = dropOpenFencesFrom true 0 rest := by
  induction taken generalizing lineStart with
  | nil => rfl
  | cons c taken ih => exact ih

/-- A fence at the start of a line is taken off with all newlines behind it. -/
theorem dropOpenFencesFrom_fence (tag : Tag) (gap : Nat) (hrest : ∀ c cs, rest = c :: cs → Text.isBlank c = false) :
    dropOpenFencesFrom true 0 (fence ++ (tag.word ++ List.replicate (gap + 1) '\n' ++ rest)) =
      dropOpenFencesFrom true 0 rest := by
  obtain ⟨taken, htaken⟩ : ∃ taken, '`' :: '`' :: (tag.word ++ List.replicate gap '\n') = taken := ⟨_, rfl⟩
  have hfence : fence ++ (tag.word ++ List.replicate (gap + 1) '\n' ++ rest) = '`' :: (taken ++ '\n' :: rest) := by
    rw [← htaken, List.replicate_succ']
    simp [fence]
  have hlength : (fence ++ (tag.word ++ List.replicate (gap + 1) '\n')).length = taken.length + 1 + 1 := by
    rw [← htaken]
    simp [fence]
    omega
  have hopens := openFenceLength?_fence tag gap hrest
  rw [hlength, hfence] at hopens
  rw [hfence, dropOpenFencesFrom, if_pos rfl, hopens]
  exact dropOpenFencesFrom_skip taken rest

end Present

end TexMend.Assist
