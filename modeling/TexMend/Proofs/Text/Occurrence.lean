import TexMend.Text.Search

/-!
# Occurrences in a text

A search from the left answers exactly when some place has an answer, and a part occurs exactly when it
is an infix. A part without a certain character never reaches across it.
-/

namespace TexMend.Text

/-- A part without `mark` begins at a `mark` only if it is empty. -/
theorem prefix_cons_iff_of_not_mem {part rest : Text} {mark : Char} (h : mark ∉ part) :
    part <+: mark :: rest ↔ part = [] := by
  cases part with
  | nil => simp
  | cons c cs =>
      have hc : c ≠ mark := fun e => h (e ▸ List.mem_cons_self)
      simp [List.cons_prefix_cons, hc]

/-- A part without `mark` lies on one side of every `mark`. -/
theorem infix_append_cons_iff {part before after : Text} {mark : Char} (h : mark ∉ part) :
    part <:+: before ++ mark :: after ↔ part <:+: before ∨ part <:+: after := by
  rw [List.infix_append_iff, List.infix_cons_iff, prefix_cons_iff_of_not_mem h]
  constructor
  · rintro (hb | (rfl | ha) | ⟨left, right, rfl, hl, hr⟩)
    · exact Or.inl hb
    · exact Or.inl List.nil_infix
    · exact Or.inr ha
    · have hmark : mark ∉ right := fun hm => h (List.mem_append_right left hm)
      obtain rfl := (prefix_cons_iff_of_not_mem hmark).mp hr
      rw [List.append_nil]
      exact Or.inl hl.isInfix
  · rintro (hb | ha)
    · exact Or.inl hb
    · exact Or.inr (Or.inl (Or.inr ha))

/-- A beginning without `mark` ends before the first `mark`. -/
theorem prefix_of_prefix_append_cons {part before after : Text} {mark : Char} (h : mark ∉ part)
    (hp : part <+: before ++ mark :: after) : part <+: before := by
  induction before generalizing part with
  | nil => exact List.prefix_nil.mpr ((prefix_cons_iff_of_not_mem h).mp hp)
  | cons b before ih =>
      cases part with
      | nil => exact List.nil_prefix
      | cons c rest =>
          obtain ⟨rfl, hr⟩ := List.cons_prefix_cons.mp hp
          exact List.cons_prefix_cons.mpr ⟨rfl, ih (fun hm => h (List.mem_cons_of_mem c hm)) hr⟩

/-- A part lies on one side of a `mark`, or the mark is a character of it. -/
theorem infix_append_cons_cases {part before after : Text} {mark : Char}
    (h : part <:+: before ++ mark :: after) :
    part <:+: before ∨ part <:+: after ∨
      ∃ left right, part = left ++ mark :: right ∧ left <:+ before ∧ right <+: after := by
  rcases List.infix_append_iff.mp h with hb | hm | ⟨left, right, rfl, hl, hr⟩
  · exact .inl hb
  · rcases List.infix_cons_iff.mp hm with hp | ha
    · cases part with
      | nil => exact .inl List.nil_infix
      | cons c rest =>
          obtain ⟨rfl, hr⟩ := List.cons_prefix_cons.mp hp
          exact .inr (.inr ⟨[], rest, rfl, List.nil_suffix, hr⟩)
    · exact .inr (.inl ha)
  · cases right with
    | nil =>
        rw [List.append_nil]
        exact .inl hl.isInfix
    | cons c right =>
        obtain ⟨rfl, ha⟩ := List.cons_prefix_cons.mp hr
        exact .inr (.inr ⟨left, right, rfl, hl, ha⟩)

/-- A part begins in the first of two texts, at a place with some characters of it behind, or lies in the
second. -/
theorem infix_append_cases {part text rest : Text} (h : part <:+: text ++ rest) :
    (∃ tail, tail <:+ text ∧ tail ≠ [] ∧ part <+: tail ++ rest) ∨ part <:+: rest := by
  induction text with
  | nil => exact .inr h
  | cons c text ih =>
      rcases List.infix_cons_iff.mp h with hp | hi
      · exact .inl ⟨c :: text, List.suffix_rfl, List.cons_ne_nil c text, hp⟩
      · rcases ih hi with ⟨tail, hs, hne, hp⟩ | hr
        · exact .inl ⟨tail, hs.trans (List.suffix_cons c text), hne, hp⟩
        · exact .inr hr

/-- A character of two joined texts lies in the first or in the second. -/
theorem append_eq_append_cons_cases {part rest before after : Text} {c : Char}
    (h : part ++ rest = before ++ c :: after) :
    (∃ before', before = part ++ before' ∧ rest = before' ++ c :: after) ∨
      ∃ right, part = before ++ c :: right ∧ after = right ++ rest := by
  rcases List.append_eq_append_iff.mp h with ⟨before', hb, hr⟩ | ⟨right, hp, hc⟩
  · exact .inl ⟨before', hb, hr⟩
  · cases right with
    | nil => exact .inl ⟨[], by simpa using hp.symm, by simpa using hc.symm⟩
    | cons d right =>
        obtain ⟨rfl, ha⟩ := List.cons.inj hc
        exact .inr ⟨right, hp, ha⟩

/-- A character that the first of two joined texts lacks lies in the second. -/
theorem eq_append_of_not_mem {part rest before after : Text} {c : Char}
    (h : part ++ rest = before ++ c :: after) (hc : c ∉ part) :
    ∃ before', before = part ++ before' ∧ rest = before' ++ c :: after := by
  rcases append_eq_append_cons_cases h with hlater | ⟨right, rfl, -⟩
  · exact hlater
  · simp at hc

theorem after?_append (lead rest : Text) : after? lead (lead ++ rest) = some rest := by
  rw [after?, if_pos (List.isPrefixOf_iff_prefix.mpr (List.prefix_append lead rest)), List.drop_left]

theorem after?_eq_none {lead text : Text} (h : ¬ lead <+: text) : after? lead text = none :=
  if_neg (mt List.isPrefixOf_iff_prefix.mp h)

/-- A search answers exactly when the test has an answer at some place. -/
theorem firstAt?_isSome_iff {α : Type} {test : Text → Option α} {text : Text} :
    (firstAt? test text).isSome ↔ ∃ place, place <:+ text ∧ (test place).isSome := by
  induction text with
  | nil => simp [firstAt?, List.suffix_nil]
  | cons c cs ih =>
      cases h : test (c :: cs) with
      | some a =>
          simp only [firstAt?, h, Option.isSome_some, true_iff]
          exact ⟨c :: cs, List.suffix_rfl, by simp [h]⟩
      | none =>
          simp only [firstAt?, h, ih, List.suffix_cons_iff]
          constructor
          · rintro ⟨place, hp, ht⟩
            exact ⟨place, Or.inr hp, ht⟩
          · rintro ⟨place, rfl | hp, ht⟩
            · simp [h] at ht
            · exact ⟨place, hp, ht⟩

/-- A search passes over the places where the test has no answer. -/
theorem firstAt?_append {α : Type} {test : Text → Option α} {before place : Text}
    (h : ∀ rest, rest <:+ before → rest ≠ [] → test (rest ++ place) = none) :
    firstAt? test (before ++ place) = firstAt? test place := by
  induction before with
  | nil => rfl
  | cons c cs ih =>
      have hhere : test (c :: (cs ++ place)) = none := h (c :: cs) List.suffix_rfl (List.cons_ne_nil c cs)
      rw [List.cons_append, firstAt?, hhere]
      exact ih fun rest hrest => h rest (hrest.trans (List.suffix_cons c cs))

theorem firstAt?_of_eq_some {α : Type} {test : Text → Option α} {place : Text} {a : α}
    (h : test place = some a) : firstAt? test place = some a := by
  cases place with
  | nil => exact h
  | cons c cs => rw [firstAt?, h]

/-- The answer of a search is the answer at some place. -/
theorem exists_of_firstAt?_eq_some {α : Type} {test : Text → Option α} {text : Text} {a : α}
    (h : firstAt? test text = some a) : ∃ place, place <:+ text ∧ test place = some a := by
  induction text with
  | nil => exact ⟨[], List.suffix_rfl, h⟩
  | cons c cs ih =>
      unfold firstAt? at h
      split at h
      · next found hfound =>
          obtain rfl := Option.some.inj h
          exact ⟨c :: cs, List.suffix_rfl, hfound⟩
      · obtain ⟨place, hsuffix, hplace⟩ := ih h
        exact ⟨place, hsuffix.trans (List.suffix_cons c cs), hplace⟩

/-- A cut takes the first mark out. -/
theorem eq_append_of_cutAt?_eq_some {mark : Char} {text before after : Text}
    (h : cutAt? mark text = some (before, after)) :
    text = before ++ mark :: after ∧ mark ∉ before := by
  induction text generalizing before with
  | nil => cases h
  | cons c cs ih =>
      unfold cutAt? at h
      split at h
      · next hc =>
          obtain ⟨rfl, rfl⟩ := Prod.mk.inj (Option.some.inj h)
          exact ⟨by rw [hc]; rfl, by simp⟩
      · next hc =>
          obtain ⟨⟨first, rest⟩, hcut, heq⟩ := Option.map_eq_some_iff.mp h
          obtain ⟨rfl, rfl⟩ := Prod.mk.inj heq
          obtain ⟨rfl, hmark⟩ := ih hcut
          exact ⟨rfl, by simp [hmark, Ne.symm hc]⟩

/-- A text is cut at its first mark. -/
theorem cutAt?_append {mark : Char} {before : Text} (h : mark ∉ before) (after : Text) :
    cutAt? mark (before ++ mark :: after) = some (before, after) := by
  induction before with
  | nil => simp [cutAt?]
  | cons c cs ih =>
      have hc : c ≠ mark := fun heq => h (heq ▸ List.mem_cons_self)
      have hcs : mark ∉ cs := fun hm => h (List.mem_cons_of_mem c hm)
      rw [List.cons_append, cutAt?, if_neg hc, ih hcs]
      rfl

/-- The part begins at the position of its first occurrence. -/
theorem prefix_drop_of_positionOf?_eq_some {part text : Text} {position : Nat}
    (h : positionOf? part text = some position) : part <+: text.drop position := by
  induction text generalizing position with
  | nil =>
      unfold positionOf? at h
      split at h
      · next hp =>
          obtain rfl : part = [] := List.isEmpty_iff.mp hp
          exact List.nil_prefix
      · cases h
  | cons c cs ih =>
      unfold positionOf? at h
      split at h
      · next hp =>
          obtain rfl := Option.some.inj h
          exact List.isPrefixOf_iff_prefix.mp hp
      · obtain ⟨n, hn, rfl⟩ := Option.map_eq_some_iff.mp h
        exact ih hn

/-- The part stands right behind `before`, and nowhere earlier in the text. -/
structure FirstBehind (part before text : Text) : Prop where
  stands : before ++ part <+: text
  earliest : ∀ earlier, earlier ++ part <+: text → before.length ≤ earlier.length

section FirstBehind

variable {part before text : Text}

theorem FirstBehind.of_begins (h : part <+: text) : FirstBehind part [] text :=
  ⟨h, fun _ _ => Nat.zero_le _⟩

/-- Where the part does not begin the text, its first occurrence is the one in the rest. -/
theorem FirstBehind.cons {c : Char} (hbegins : ¬ part <+: c :: text) (h : FirstBehind part before text) :
    FirstBehind part (c :: before) (c :: text) where
  stands := List.cons_prefix_cons.mpr ⟨rfl, h.stands⟩
  earliest := by
    intro earlier hearlier
    cases earlier with
    | nil => exact absurd hearlier hbegins
    | cons d earlier => exact Nat.succ_le_succ (h.earliest earlier (List.cons_prefix_cons.mp hearlier).2)

theorem FirstBehind.unique {other : Text} (h : FirstBehind part before text)
    (h' : FirstBehind part other text) : before = other := by
  have hlength : before.length = other.length :=
    Nat.le_antisymm (h.earliest other h'.stands) (h'.earliest before h.stands)
  have hbefore : before <+: text := (List.prefix_append before part).trans h.stands
  have hother : other <+: text := (List.prefix_append other part).trans h'.stands
  rw [List.prefix_iff_eq_take.mp hbefore, hlength, ← List.prefix_iff_eq_take.mp hother]

/-- A search for a part stops at its first occurrence. -/
theorem firstBehind_of_positionOf? {position : Nat} (h : positionOf? part text = some position) :
    FirstBehind part (text.take position) text := by
  induction text generalizing position with
  | nil =>
      unfold positionOf? at h
      split at h
      · next hempty =>
          obtain rfl := Option.some.inj h
          obtain rfl : part = [] := List.isEmpty_iff.mp hempty
          exact .of_begins List.nil_prefix
      · cases h
  | cons c cs ih =>
      unfold positionOf? at h
      split at h
      · next hbegins =>
          obtain rfl := Option.some.inj h
          exact .of_begins (List.isPrefixOf_iff_prefix.mp hbegins)
      · next hbegins =>
          obtain ⟨n, hn, rfl⟩ := Option.map_eq_some_iff.mp h
          exact (ih hn).cons (mt List.isPrefixOf_iff_prefix.mpr hbegins)

/-- A part that occurs is found. -/
theorem isSome_positionOf?_of_stands (h : before ++ part <+: text) : (positionOf? part text).isSome := by
  induction text generalizing before with
  | nil =>
      obtain ⟨-, rfl⟩ := List.append_eq_nil_iff.mp (List.prefix_nil.mp h)
      rfl
  | cons c cs ih =>
      unfold positionOf?
      split
      · rfl
      · next hbegins =>
          cases before with
          | nil => exact absurd (List.isPrefixOf_iff_prefix.mpr h) hbegins
          | cons d before => simpa using ih (List.cons_prefix_cons.mp h).2

theorem FirstBehind.exists_positionOf? (h : FirstBehind part before text) :
    ∃ position, positionOf? part text = some position ∧ text.take position = before := by
  obtain ⟨position, hposition⟩ := Option.isSome_iff_exists.mp (isSome_positionOf?_of_stands h.stands)
  exact ⟨position, hposition, (firstBehind_of_positionOf? hposition).unique h⟩

end FirstBehind

/-- What is counted occurs. -/
theorem infix_of_countOfFrom_pos {part text : Text} {skip : Nat} (h : 0 < countOfFrom part skip text) :
    part <:+: text := by
  induction text generalizing skip with
  | nil => cases skip <;> simp [countOfFrom] at h
  | cons c cs ih =>
      cases skip with
      | succ skip => exact List.infix_cons (ih h)
      | zero =>
          unfold countOfFrom at h
          split at h
          · next hp => exact (List.isPrefixOf_iff_prefix.mp hp).isInfix
          · exact List.infix_cons (ih h)

theorem infix_of_countOf_pos {part text : Text} (h : 0 < countOf part text) : part <:+: text :=
  infix_of_countOfFrom_pos h

section ReplaceFirst

variable {old new before rest text : Text}

/-- A replacement brings no other characters than those of the new part. -/
theorem mem_replaceFirst {c : Char} (h : c ∈ replaceFirst old new text) :
    c ∈ new ∨ c ∈ text := by
  induction text with
  | nil =>
      unfold replaceFirst at h
      split at h
      · exact Or.inl h
      · cases h
  | cons d ds ih =>
      unfold replaceFirst at h
      split at h
      · rcases List.mem_append.mp h with h | h
        · exact Or.inl h
        · exact Or.inr (List.mem_of_mem_drop h)
      · rcases List.mem_cons.mp h with rfl | h
        · exact Or.inr List.mem_cons_self
        · exact (ih h).imp_right (List.mem_cons_of_mem d)

theorem replaceFirst_of_not_infix (h : ¬ old <:+: text) : replaceFirst old new text = text := by
  induction text with
  | nil =>
      have hne : ¬ old.isEmpty = true := by
        rintro hempty
        rw [List.isEmpty_iff.mp hempty] at h
        exact h List.nil_infix
      simp only [replaceFirst, if_neg hne]
  | cons c cs ih =>
      rw [List.infix_cons_iff, not_or] at h
      rw [← List.isPrefixOf_iff_prefix] at h
      rw [replaceFirst, if_neg h.1, ih h.2]

/-- The first occurrence is replaced, and all else stays. -/
theorem FirstBehind.replaceFirst_eq (h : FirstBehind old before (before ++ old ++ rest)) :
    replaceFirst old new (before ++ old ++ rest) = before ++ new ++ rest := by
  induction before with
  | nil =>
      have hbegins : old <+: old ++ rest := List.prefix_append old rest
      rw [List.nil_append, List.nil_append]
      cases hcons : old ++ rest with
      | nil =>
          obtain ⟨rfl, rfl⟩ := List.append_eq_nil_iff.mp hcons
          simp [replaceFirst]
      | cons c cs =>
          rw [hcons] at hbegins
          rw [replaceFirst, if_pos (List.isPrefixOf_iff_prefix.mpr hbegins), ← hcons, List.drop_left]
  | cons c before ih =>
      have hlater : ¬ old <+: c :: (before ++ old ++ rest) := fun hbegins =>
        absurd (h.earliest [] hbegins) (Nat.not_succ_le_zero _)
      have hrest : FirstBehind old before (before ++ old ++ rest) := by
        refine ⟨List.prefix_append _ rest, ?_⟩
        intro earlier hearlier
        exact Nat.le_of_succ_le_succ (h.earliest (c :: earlier) (List.cons_prefix_cons.mpr ⟨rfl, hearlier⟩))
      rw [← List.isPrefixOf_iff_prefix] at hlater
      rw [List.cons_append, List.cons_append, replaceFirst, if_neg hlater, ih hrest]
      rfl

end ReplaceFirst

/-- The Boolean search for a part looks for an infix. -/
theorem includes_iff_infix {part text : Text} : includes part text = true ↔ part <:+: text := by
  induction text with
  | nil => simp [includes]
  | cons c cs ih => simp [includes, List.infix_cons_iff, ih]

end TexMend.Text
