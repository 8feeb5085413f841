import Mathlib.Data.List.Infix
import TexMend.Proofs.Text.Occurrence

/-!
# Counting occurrences

Occurrences are counted from the left and without overlap. Those of a part whose last character comes only there
cannot overlap, so they are as many as the places at which the part begins.
-/

namespace TexMend.Text

/-- The places at which the part begins, be it across another occurrence. -/
def placesOf (part text : Text) : Nat :=
  text.tails.countP fun rest => part.isPrefixOf rest

section Count

variable {part text : Text}

/-- What belongs to an occurrence that is already counted is passed over. -/
theorem countOfFrom_eq_countOf_drop (part : Text) (skip : Nat) (text : Text) :
    countOfFrom part skip text = countOf part (text.drop skip) := by
  induction text generalizing skip with
  | nil => cases skip <;> rfl
  | cons c cs ih =>
      cases skip with
      | zero => rfl
      | succ skip => exact ih skip

theorem countOf_of_not_begins {c : Char} {cs : Text} (h : ¬ part <+: c :: cs) :
    countOf part (c :: cs) = countOf part cs := by
  rw [← List.isPrefixOf_iff_prefix] at h
  simp only [countOf, countOfFrom, if_neg h]

/-- An occurrence is counted, and the count goes on behind it. -/
theorem countOf_append_left (hne : part ≠ []) (rest : Text) : countOf part (part ++ rest) = countOf part rest + 1 := by
  obtain ⟨c, cs, rfl⟩ := List.exists_cons_of_ne_nil hne
  have hbegins : (c :: cs).isPrefixOf (c :: (cs ++ rest)) = true :=
    List.isPrefixOf_iff_prefix.mpr (List.prefix_append (c :: cs) rest)
  have hbehind : (cs ++ rest).drop ((c :: cs).length - 1) = rest := List.drop_left
  rw [List.cons_append, countOf, countOfFrom, if_pos hbegins, countOfFrom_eq_countOf_drop, hbehind]

theorem countOf_self (hne : part ≠ []) : countOf part part = 1 := by
  have hcount := countOf_append_left hne []
  rwa [List.append_nil] at hcount

theorem countOf_eq_zero (h : ¬ part <:+: text) : countOf part text = 0 :=
  Nat.eq_zero_of_not_pos (mt infix_of_countOf_pos h)

end Count

section Places

variable {part : Text}

theorem placesOf_cons (part : Text) (c : Char) (cs : Text) :
    placesOf part (c :: cs) = placesOf part cs + if part <+: c :: cs then 1 else 0 := by
  simp [placesOf, List.countP_cons]

/-- Where the part does not begin, no place is counted. -/
theorem placesOf_append {before rest : Text} (h : ∀ tail, tail <:+ before → tail ≠ [] → ¬ part <+: tail ++ rest) :
    placesOf part (before ++ rest) = placesOf part rest := by
  induction before with
  | nil => rfl
  | cons c cs ih =>
      have hhere : ¬ part <+: c :: (cs ++ rest) := h (c :: cs) List.suffix_rfl (List.cons_ne_nil c cs)
      rw [List.cons_append, placesOf_cons, if_neg hhere, Nat.add_zero]
      exact ih fun tail htail => h tail (htail.trans (List.suffix_cons c cs))

variable {body : Text} {mark : Char}

/-- A part that is closed by its mark does not begin again before it ends. -/
theorem not_begins_within (hmark : mark ∉ body) {tail rest : Text} (htail : tail <:+ body ++ [mark]) (hne : tail ≠ [])
    (hshort : tail.length ≤ body.length) : ¬ body ++ [mark] <+: tail ++ rest := by
  intro hbegins
  obtain ⟨inner, rfl⟩ : ∃ inner, tail = inner ++ [mark] := by
    rcases List.suffix_concat_iff.mp htail with h | ⟨inner, h, -⟩
    · exact absurd h hne
    · exact ⟨inner, h⟩
  have hbody : body <+: inner ++ mark :: rest := by
    rw [List.append_assoc] at hbegins
    exact (List.prefix_append body [mark]).trans hbegins
  have hle := (prefix_of_prefix_append_cons hmark hbody).length_le
  rw [List.length_append, List.length_singleton] at hshort
  omega

theorem placesOf_append_left (hmark : mark ∉ body) (rest : Text) :
    placesOf (body ++ [mark]) (body ++ [mark] ++ rest) = placesOf (body ++ [mark]) rest + 1 := by
  obtain ⟨c, cs, hcons⟩ := List.exists_cons_of_ne_nil (List.concat_ne_nil mark body)
  have hlength : cs.length = body.length := by
    have hlengths := congrArg List.length hcons
    simpa using hlengths.symm
  have hinner : placesOf (body ++ [mark]) (cs ++ rest) = placesOf (body ++ [mark]) rest := by
    apply placesOf_append
    intro tail htail hne
    apply not_begins_within hmark _ hne
    · exact hlength ▸ htail.length_le
    · rw [hcons]
      exact htail.trans (List.suffix_cons c cs)
  have hbegins : body ++ [mark] <+: c :: (cs ++ rest) := by
    rw [hcons]
    exact List.prefix_append (c :: cs) rest
  rw [← hinner]
  conv_lhs => rw [hcons, List.cons_append, ← hcons]
  rw [placesOf_cons, if_pos hbegins]

/-- Occurrences of a part that is closed by its mark do not overlap. -/
theorem countOf_eq_placesOf (hmark : mark ∉ body) (text : Text) :
    countOf (body ++ [mark]) text = placesOf (body ++ [mark]) text := by
  have hne : body ++ [mark] ≠ [] := List.concat_ne_nil mark body
  induction hn : text.length using Nat.strongRecOn generalizing text with
  | ind n ih =>
      cases text with
      | nil => simp [countOf, countOfFrom, placesOf]
      | cons c cs =>
          by_cases hbegins : body ++ [mark] <+: c :: cs
          · obtain ⟨rest, hrest⟩ := hbegins
            have hshorter : rest.length < n := by
              rw [← hn, ← hrest]
              simp
              omega
            rw [← hrest, countOf_append_left hne, placesOf_append_left hmark, ih _ hshorter rest rfl]
          · rw [countOf_of_not_begins hbegins, placesOf_cons, if_neg hbegins, Nat.add_zero]
            exact ih cs.length (by rw [← hn]; exact Nat.lt_succ_self _) cs rfl

end Places

end TexMend.Text
