import TexMend.Proofs.Repair.Sweep

/-!
# What an edit leaves alone

An edit puts its text in the place of the lines that it addresses, and keeps all lines before and behind them in their
order. Without the text that it needs it keeps every line, and so it does past the end of the document, where only a
range still appends its text.
-/

namespace TexMend.Edit

/-- Does the edit have the text that its action needs? A deletion needs none. -/
def isEquipped (e : Edit) : Bool :=
  e.action = .deleteLine || e.newText.isSome

/-- What an edit puts in the place of the lines that it addresses. -/
def replacement (e : Edit) : Document :=
  if e.action = .deleteLine then [] else e.newText.toList

/-- A document cut around the lines that an edit addresses. What a range addresses ends with the document. -/
structure CutsAround (e : Edit) (lines before addressed after : Document) : Prop where
  parts : lines = before ++ (addressed ++ after)
  starts : before.length + 1 = e.line
  ends : before.length + addressed.length = min e.lastLine lines.length

variable {e : Edit} {lines before addressed after : Document}

/-- A document can be cut around an edit of a line that exists. -/
theorem exists_cutsAround (hin : e.line ≤ lines.length) :
    ∃ before addressed after, e.CutsAround lines before addressed after := by
  have hpos := e.line_pos
  have hlast := e.line_le_lastLine
  refine ⟨lines.take (e.line - 1), (lines.drop (e.line - 1)).take (e.lastLine + 1 - e.line),
    (lines.drop (e.line - 1)).drop (e.lastLine + 1 - e.line), ?_, ?_, ?_⟩
  · rw [List.take_append_drop, List.take_append_drop]
  · rw [List.length_take]
    omega
  · rw [List.length_take, List.length_take, List.length_drop]
    omega

theorem overflows_of_not_inserts (h : e.action.inserts = false) : e.overflows = false := by
  unfold overflows
  cases ha : e.action <;> simp_all [EditAction.inserts]

/-- An edit without the text that it needs keeps every line. -/
theorem apply_of_not_isEquipped (h : e.isEquipped = false) (lines : Document) : e.apply lines = .ok lines := by
  simp only [isEquipped, Bool.or_eq_false_iff, decide_eq_false_iff_not, Option.isSome_eq_false_iff,
    Option.isNone_iff_eq_none] at h
  obtain ⟨hkept, hnone⟩ := h
  unfold apply
  cases ha : e.action <;> simp_all

/-- What an edit leaves from the addressed line on is there already, or its text. -/
theorem mem_onward {text : Text} (h : text ∈ e.onward lines) : text ∈ lines ∨ e.newText = some text := by
  unfold onward at h
  split at h
  · next new _ hnew =>
      rcases List.mem_or_eq_of_mem_set h with hold | rfl
      · exact Or.inl hold
      · exact Or.inr hnew
  · next new _ hnew =>
      rcases List.mem_cons.mp h with rfl | hold
      · exact Or.inr hnew
      · exact Or.inl hold
  · next new _ hnew =>
      rcases List.mem_append.mp h with hbefore | hfrom
      · exact Or.inl (List.mem_of_mem_take hbefore)
      · rcases List.mem_cons.mp hfrom with rfl | hold
        · exact Or.inr hnew
        · exact Or.inl (List.mem_of_mem_drop hold)
  · exact Or.inl (List.mem_of_mem_drop h)
  · next new _ hnew =>
      rcases List.mem_cons.mp h with rfl | hold
      · exact Or.inr hnew
      · exact Or.inl (List.mem_of_mem_drop hold)
  · exact Or.inl h

theorem onward_ne_nil (hkept : e.action ≠ .deleteLine) (hlines : lines ≠ []) : e.onward lines ≠ [] := by
  unfold onward
  split
  · simpa using hlines
  · exact List.cons_ne_nil _ _
  · simp
  · next hd => exact absurd hd hkept
  · exact List.cons_ne_nil _ _
  · exact hlines

theorem eq_changeFrom_of_apply {next : Document} (h : e.apply lines = .ok next) : next = changeFrom 1 lines e := by
  cases ho : e.overflows with
  | true =>
      rw [apply_of_overflows ho] at h
      cases h
  | false =>
      rw [apply_eq_changeFrom ho] at h
      exact (Except.ok.inj h).symm

/-- Every line after an edit was there before, or is its text. -/
theorem mem_of_apply {next : Document} {text : Text} (h : e.apply lines = .ok next) (hm : text ∈ next) :
    text ∈ lines ∨ e.newText = some text := by
  rw [eq_changeFrom_of_apply h, changeFrom, List.mem_append] at hm
  rcases hm with hbefore | honward
  · exact Or.inl (List.mem_of_mem_take hbefore)
  · exact (mem_onward honward).imp_left List.mem_of_mem_drop

/-- Only a deletion can leave no line at all. -/
theorem ne_nil_of_apply {next : Document} (h : e.apply lines = .ok next) (hkept : e.action ≠ .deleteLine)
    (hlines : lines ≠ []) : next ≠ [] := by
  rw [eq_changeFrom_of_apply h, changeFrom]
  intro hnil
  obtain ⟨hbefore, honward⟩ := List.append_eq_nil_iff.mp hnil
  by_cases hbehind : lines.drop (e.line - 1) = []
  · have hall := List.take_append_drop (e.line - 1) lines
    rw [hbefore, hbehind] at hall
    exact hlines hall.symm
  · exact onward_ne_nil hkept hbehind honward

namespace CutsAround

theorem addressed_length (h : e.CutsAround lines before addressed after) (hin : e.line ≤ lines.length) :
    1 ≤ addressed.length := by
  have hlast := e.line_le_lastLine
  have hstarts := h.starts
  have hends := h.ends
  omega

/-- What an edit addresses gives way to its replacement. -/
theorem onward_eq (h : e.CutsAround lines before addressed after) (hin : e.line ≤ lines.length)
    (hkind : e.action.inserts = false) (hequipped : e.isEquipped = true) :
    e.onward (addressed ++ after) = e.replacement ++ after := by
  obtain ⟨line, more, rfl⟩ := List.exists_cons_of_length_pos (h.addressed_length hin)
  have hsingle (ha : e.action ≠ .replaceRange) : more = [] := by
    have hstarts := h.starts
    have hends := h.ends
    rw [lastLine_of_ne_range ha, List.length_cons] at hends
    exact List.length_eq_zero_iff.mp (by omega)
  cases ha : e.action with
  | insertBefore => simp [ha, EditAction.inserts] at hkind
  | insertAfter => simp [ha, EditAction.inserts] at hkind
  | deleteLine =>
      obtain rfl := hsingle (by simp [ha])
      simp [onward, replacement, ha]
  | replaceLine =>
      obtain rfl := hsingle (by simp [ha])
      obtain ⟨new, hnew⟩ := Option.isSome_iff_exists.mp (by simpa [isEquipped, ha] using hequipped)
      simp [onward, replacement, ha, hnew]
  | replaceRange =>
      obtain ⟨new, hnew⟩ := Option.isSome_iff_exists.mp (by simpa [isEquipped, ha] using hequipped)
      -- either the range ends within the document, or nothing is behind it
      have hdrop : (line :: more ++ after).drop (e.lastLine + 1 - e.line) = after := by
        have hstarts := h.starts
        have hends := h.ends
        have hlength := congrArg List.length h.parts
        rw [List.length_append, List.length_append] at hlength
        rcases Nat.le_total e.lastLine lines.length with hle | hle
        · exact List.drop_left' (by omega)
        · obtain rfl : after = [] := List.length_eq_zero_iff.mp (by omega)
          exact List.drop_eq_nil_of_le (by simp only [List.append_nil]; omega)
      simp only [onward, replacement, ha, hnew, hdrop]
      rfl

/-- An edit that inserts nothing keeps what is before and behind the lines that it addresses. -/
theorem apply_eq (h : e.CutsAround lines before addressed after) (hin : e.line ≤ lines.length)
    (hkind : e.action.inserts = false) (hequipped : e.isEquipped = true) :
    e.apply lines = .ok (before ++ (e.replacement ++ after)) := by
  have hbefore : e.line - 1 = before.length := by
    have hstarts := h.starts
    omega
  have htake : lines.take before.length = before := by rw [h.parts, List.take_left]
  have hdrop : lines.drop before.length = addressed ++ after := by rw [h.parts, List.drop_left]
  rw [apply_eq_changeFrom (overflows_of_not_inserts hkind), changeFrom, hbefore, htake, hdrop,
    h.onward_eq hin hkind hequipped]

end CutsAround

/-- Past the end only a range still puts its text. -/
theorem apply_of_length_lt (hpast : lines.length < e.line) (hkind : e.action.inserts = false) :
    e.apply lines = .ok (if e.action = .replaceRange then lines ++ e.replacement else lines) := by
  have hle : lines.length ≤ e.line - 1 := by omega
  rw [apply_eq_changeFrom (overflows_of_not_inserts hkind), changeFrom, List.take_of_length_le hle,
    List.drop_eq_nil_of_le hle]
  cases ha : e.action with
  | insertBefore => simp [ha, EditAction.inserts] at hkind
  | insertAfter => simp [ha, EditAction.inserts] at hkind
  | deleteLine => simp [onward, ha]
  | replaceLine => cases hn : e.newText <;> simp [onward, ha, hn]
  | replaceRange => cases hn : e.newText <;> simp [onward, replacement, ha, hn]

/-- An edit that inserts nothing always gives a document. Without its text it keeps all lines; else what it addresses
gives way to its text between the lines before and behind; and past the end of the document it keeps all lines, but for
a range, which appends its text. -/
theorem apply_keeps_surroundings (e : Edit) (hkind : e.action.inserts = false) (lines : Document) :
    (e.isEquipped = false → e.apply lines = .ok lines) ∧
    (e.isEquipped = true → e.line ≤ lines.length → ∃ before addressed after,
      e.CutsAround lines before addressed after ∧ e.apply lines = .ok (before ++ (e.replacement ++ after))) ∧
    (lines.length < e.line → e.apply lines =
      .ok (if e.action = .replaceRange then lines ++ e.replacement else lines)) := by
  refine ⟨?_, ?_, ?_⟩
  · intro hbare
    exact apply_of_not_isEquipped hbare lines
  · intro hequipped hin
    obtain ⟨before, addressed, after, hcuts⟩ := exists_cutsAround hin
    exact ⟨before, addressed, after, hcuts, hcuts.apply_eq hin hkind hequipped⟩
  · intro hpast
    exact apply_of_length_lt hpast hkind

/-- Of four lines a range that reaches past the end keeps those before it. -/
theorem apply_keeps_lines_before_range :
    sampleRange.action.inserts = false ∧ ∃ before addressed after,
      sampleRange.CutsAround ["one", "two", "three", "four"] before addressed after ∧
        sampleRange.apply ["one", "two", "three", "four"] = .ok (before ++ (["y".toList] ++ after)) :=
  ⟨rfl, (apply_keeps_surroundings sampleRange rfl ["one", "two", "three", "four"]).2.1 rfl (by decide)⟩

/-- A range that begins past the end of the document does not leave it as it is. -/
theorem apply_far_range :
    ["one".toList].length < sampleRange.line ∧ sampleRange.apply ["one".toList] = .ok ["one", "y"] ∧
      sampleRange.apply ["one".toList] ≠ .ok ["one".toList] := by
  have happly : sampleRange.apply ["one".toList] = .ok ["one", "y"] := rfl
  refine ⟨by decide, happly, ?_⟩
  rw [happly]
  exact fun h => absurd (congrArg List.length (Except.ok.inj h)) (by decide)

end TexMend.Edit
