import TexMend.Repair.Rule

/-!
# Repair in rounds

In a round the fix of one record is computed on the present lines and applied to them. Rounds come to an end if a
weight of the document falls with each of them, and there are no more rounds than the weight at first. Where a rule
rewrites nothing but the line that the record points at, the rounds of a document are those of this line.
-/

namespace TexMend.Repair

/-- One round: the fix of the record on the present lines is applied. -/
def Round (r : Record) (lines next : Document) : Prop :=
  ∃ s, fix? r lines = some s ∧ s.edit.apply lines = .ok next

/-- So many rounds, one after the other. -/
inductive Rounds (r : Record) : Nat → Document → Document → Prop
  | done {lines : Document} : Rounds r 0 lines lines
  | next {count : Nat} {lines middle last : Document} (first : Round r lines middle)
      (rest : Rounds r count middle last) : Rounds r (count + 1) lines last

section Weight

variable {r : Record} {lines last : Document} {stays : Document → Prop} {weight : Document → Nat}

/-- A weight that falls with each round counts the rounds that may still come. -/
theorem Rounds.count_add_weight_le {count : Nat}
    (hround : ∀ lines next, stays lines → Round r lines next → stays next ∧ weight next < weight lines)
    (h : Rounds r count lines last) (hstays : stays lines) :
    stays last ∧ count + weight last ≤ weight lines := by
  induction h with
  | done => exact ⟨hstays, by omega⟩
  | next first _ ih =>
      obtain ⟨hnext, hlt⟩ := hround _ _ hstays first
      obtain ⟨hlast, hle⟩ := ih hnext
      exact ⟨hlast, by omega⟩

/-- Rounds that lose weight go on until there is no fix any more. -/
theorem exists_last_round
    (happlies : ∀ lines s, stays lines → fix? r lines = some s → ∃ next, s.edit.apply lines = .ok next)
    (hround : ∀ lines next, stays lines → Round r lines next → stays next ∧ weight next < weight lines)
    (hstays : stays lines) : ∃ count last, Rounds r count lines last ∧ fix? r last = none := by
  induction hn : weight lines using Nat.strongRecOn generalizing lines with
  | ind n ih =>
      cases hfix : fix? r lines with
      | none => exact ⟨0, lines, .done, hfix⟩
      | some s =>
          obtain ⟨middle, happly⟩ := happlies lines s hstays hfix
          obtain ⟨hmiddle, hlt⟩ := hround lines middle hstays ⟨s, hfix, happly⟩
          obtain ⟨count, last, hrest, hnone⟩ := ih (weight middle) (hn ▸ hlt) hmiddle rfl
          exact ⟨count + 1, last, .next ⟨s, hfix, happly⟩ hrest, hnone⟩

end Weight

section Line

variable {r : Record} {number count : Nat} {lines last : Document} {line : Text} {rewrite? : Text → Option Text}

theorem apply_replaceLine (hpos : 1 ≤ number) (old new : Text) (lines : Document) :
    (replaceLine number old new).apply lines = .ok (lines.set (number - 1) new) := by
  change Except.ok (lines.set (max 1 number - 1) new) = _
  rw [Nat.max_eq_right hpos]

/-- On every document with such a line, the fix of the record rewrites the line with this number, as `rewrite?`
says. -/
structure RewritesLine (r : Record) (number : Nat) (rewrite? : Text → Option Text) : Prop where
  number_pos : 1 ≤ number
  fix_none_iff {lines : Document} {line : Text} (hline : lines[number - 1]? = some line) :
    fix? r lines = none ↔ rewrite? line = none
  fix_edit {lines : Document} {line : Text} (hline : lines[number - 1]? = some line) {s : Suggestion}
    (hfix : fix? r lines = some s) : ∃ new, rewrite? line = some new ∧ s.edit = replaceLine number line new

theorem RewritesLine.of_fix? (hpos : 1 ≤ number) (description : Text) (hundredths : Nat)
    (hfix : ∀ lines line, lines[number - 1]? = some line → fix? r lines =
      (rewrite? line).map fun new => suggest r description hundredths (replaceLine number line new)) :
    RewritesLine r number rewrite? where
  number_pos := hpos
  fix_none_iff := by
    intro lines line hline
    rw [hfix lines line hline, Option.map_eq_none_iff]
  fix_edit := by
    intro lines line hline s h
    rw [hfix lines line hline] at h
    obtain ⟨new, hnew, rfl⟩ := Option.map_eq_some_iff.mp h
    exact ⟨new, hnew, rfl⟩

theorem RewritesLine.round_iff (h : RewritesLine r number rewrite?) (hline : lines[number - 1]? = some line)
    {next : Document} :
    Round r lines next ↔ ∃ new, rewrite? line = some new ∧ next = lines.set (number - 1) new := by
  constructor
  · rintro ⟨s, hfix, happly⟩
    obtain ⟨new, hnew, hedit⟩ := h.fix_edit hline hfix
    rw [hedit, apply_replaceLine h.number_pos] at happly
    exact ⟨new, hnew, (Except.ok.inj happly).symm⟩
  · rintro ⟨new, hnew, rfl⟩
    cases hfix : fix? r lines with
    | none => simp [(h.fix_none_iff hline).mp hfix] at hnew
    | some s =>
        obtain ⟨new', hnew', hedit⟩ := h.fix_edit hline hfix
        obtain rfl := Option.some.inj (hnew.symm.trans hnew')
        refine ⟨s, hfix, ?_⟩
        rw [hedit, apply_replaceLine h.number_pos]

theorem getElem?_set_of_getElem? {new : Text} (hline : lines[number - 1]? = some line) :
    (lines.set (number - 1) new)[number - 1]? = some new := by
  obtain ⟨hlt, -⟩ := List.getElem?_eq_some_iff.mp hline
  exact List.getElem?_set_self hlt

theorem set_of_getElem? (hline : lines[number - 1]? = some line) : lines.set (number - 1) line = lines := by
  obtain ⟨hlt, rfl⟩ := List.getElem?_eq_some_iff.mp hline
  exact List.set_getElem_self hlt

/-- The rounds change no other line. -/
theorem RewritesLine.exists_set (h : RewritesLine r number rewrite?) (hline : lines[number - 1]? = some line)
    (hrounds : Rounds r count lines last) : ∃ text, last = lines.set (number - 1) text := by
  induction hrounds generalizing line with
  | @done lines => exact ⟨line, (set_of_getElem? hline).symm⟩
  | @next count lines middle last first rest ih =>
      obtain ⟨new, -, rfl⟩ := (h.round_iff hline).mp first
      obtain ⟨text, htext⟩ := ih (getElem?_set_of_getElem? hline)
      exact ⟨text, htext.trans (List.set_set ..)⟩

/-- If each round of the line takes one off a weight, and the weight is zero in the end, the rounds are as many as
the weight, and what they lead to is what no round changes. -/
theorem RewritesLine.rounds_iff (h : RewritesLine r number rewrite?) {weight : Text → Nat} {final : Text → Text}
    (hnone : ∀ line, rewrite? line = none → weight line = 0 ∧ final line = line)
    (hsome : ∀ line new, rewrite? line = some new → weight line = weight new + 1 ∧ final line = final new)
    (hline : lines[number - 1]? = some line) :
    Rounds r count lines last ∧ fix? r last = none ↔
      count = weight line ∧ last = lines.set (number - 1) (final line) := by
  constructor
  · rintro ⟨hrounds, hend⟩
    induction hrounds generalizing line with
    | @done lines =>
        obtain ⟨hweight, hfinal⟩ := hnone line ((h.fix_none_iff hline).mp hend)
        rw [hweight, hfinal, set_of_getElem? hline]
        exact ⟨rfl, rfl⟩
    | @next count lines middle last first rest ih =>
        obtain ⟨new, hnew, rfl⟩ := (h.round_iff hline).mp first
        obtain ⟨hweight, hfinal⟩ := hsome line new hnew
        obtain ⟨rfl, hlast⟩ := ih (getElem?_set_of_getElem? hline) hend
        rw [hweight, hfinal, hlast, List.set_set]
        exact ⟨rfl, rfl⟩
  · rintro ⟨rfl, rfl⟩
    induction hn : weight line generalizing lines line with
    | zero =>
        cases hrewrite : rewrite? line with
        | none =>
            rw [(hnone line hrewrite).2, set_of_getElem? hline]
            exact ⟨.done, (h.fix_none_iff hline).mpr hrewrite⟩
        | some new => simp [(hsome line new hrewrite).1] at hn
    | succ n ih =>
        cases hrewrite : rewrite? line with
        | none => simp [(hnone line hrewrite).1] at hn
        | some new =>
            obtain ⟨hweight, hfinal⟩ := hsome line new hrewrite
            have hfirst : Round r lines (lines.set (number - 1) new) := (h.round_iff hline).mpr ⟨new, hrewrite, rfl⟩
            have hleft : weight new = n := by omega
            obtain ⟨hrest, hend⟩ := ih (getElem?_set_of_getElem? hline) hleft
            rw [List.set_set, ← hfinal] at hrest hend
            exact ⟨.next hfirst hrest, hend⟩

end Line

end TexMend.Repair
