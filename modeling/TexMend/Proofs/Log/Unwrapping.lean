import TexMend.Log.Wrap
import TexMend.Proofs.Text.Lines

/-!
# Undoing the hard wrap

A line of full width goes on in the next one, so wrapping always ends with a shorter piece, even an empty
one. Rejoining is the inverse of wrapping on raw lines that no other writer could have produced.
-/

namespace TexMend.Log

/-- Every newline becomes a pair of carriage return and newline. -/
def withCarriageReturns (text : Text) : Text :=
  text.flatMap fun c => if c = '\n' then ['\r', '\n'] else [c]

section Newlines

/-- Without carriage returns there is no pair to unify. -/
theorem unifyNewlines_of_not_mem {text : Text} (h : '\r' ∉ text) : unifyNewlines text = text := by
  fun_induction unifyNewlines text with
  | case1 => rfl
  | case2 rest => exact absurd List.mem_cons_self h
  | case3 c rest _ ih => rw [ih fun hm => h (List.mem_cons_of_mem c hm)]

/-- A text that does not end in the first half of a pair is unified on its own. -/
theorem unifyNewlines_append {before after : Text} (h : before.getLast? ≠ some '\r') :
    unifyNewlines (before ++ after) = unifyNewlines before ++ unifyNewlines after := by
  fun_induction unifyNewlines before with
  | case1 => rfl
  | case2 rest ih =>
      have hrest : rest.getLast? ≠ some '\r' := by
        cases rest with
        | nil => simp
        | cons d ds => simpa using h
      simp [unifyNewlines, ih hrest]
  | case3 c rest hpair ih =>
      cases rest with
      | nil =>
          have hc : c ≠ '\r' := by simpa using h
          simp [unifyNewlines, hc]
      | cons d ds =>
          have hnot : ∀ more, c = '\r' → d :: (ds ++ after) = '\n' :: more → False := by
            intro more hc hd
            exact hpair ds hc (by rw [(List.cons.inj hd).1])
          rw [List.cons_append, List.cons_append, unifyNewlines.eq_3 _ _ hnot, ← List.cons_append,
            ih (by simpa using h), List.cons_append]

/-- Unifying takes the carriage returns away again. -/
theorem unifyNewlines_withCarriageReturns {text : Text} (h : '\r' ∉ text) :
    unifyNewlines (withCarriageReturns text) = text := by
  induction text with
  | nil => rfl
  | cons c cs ih =>
      have hcs : '\r' ∉ cs := fun hm => h (List.mem_cons_of_mem c hm)
      have hc : c ≠ '\r' := fun e => h (e ▸ List.mem_cons_self)
      have ih := ih hcs
      unfold withCarriageReturns at ih ⊢
      by_cases hn : c = '\n'
      · simp [hn, unifyNewlines, ih]
      · simp [hn, unifyNewlines, hc, ih]

/-- Where a part without line ends begins does not depend on the carriage returns. -/
theorem prefix_withCarriageReturns_iff {part text : Text} (hn : '\n' ∉ part) (hr : '\r' ∉ part) :
    part <+: withCarriageReturns text ↔ part <+: text := by
  induction text generalizing part with
  | nil => exact Iff.rfl
  | cons c cs ih =>
      cases part with
      | nil => simp
      | cons d ds =>
          have hdn : '\n' ∉ ds := fun hm => hn (List.mem_cons_of_mem d hm)
          have hdr : '\r' ∉ ds := fun hm => hr (List.mem_cons_of_mem d hm)
          have hn' : d ≠ '\n' := fun e => hn (e ▸ List.mem_cons_self)
          have hr' : d ≠ '\r' := fun e => hr (e ▸ List.mem_cons_self)
          have ih := ih hdn hdr
          unfold withCarriageReturns at ih ⊢
          by_cases hc : c = '\n'
          · simp [hc, hn', hr', List.cons_prefix_cons]
          · simp [hc, List.cons_prefix_cons, ih]

/-- Whether a part without line ends occurs does not depend on the carriage returns. -/
theorem infix_withCarriageReturns_iff {part text : Text} (hn : '\n' ∉ part) (hr : '\r' ∉ part) :
    part <:+: withCarriageReturns text ↔ part <:+: text := by
  induction text with
  | nil => exact Iff.rfl
  | cons c cs ih =>
      by_cases hc : c = '\n'
      · have hcut : withCarriageReturns (c :: cs) = '\r' :: '\n' :: withCarriageReturns cs := by
          simp [withCarriageReturns, hc]
        rw [hcut, hc, List.infix_cons_iff, List.infix_cons_iff, List.infix_cons_iff, ih,
          Text.prefix_cons_iff_of_not_mem hr, Text.prefix_cons_iff_of_not_mem hn,
          Text.prefix_cons_iff_of_not_mem hn]
        simp
      · have hcut : withCarriageReturns (c :: cs) = c :: withCarriageReturns cs := by
          simp [withCarriageReturns, hc]
        have hpre : part <+: withCarriageReturns (c :: cs) ↔ part <+: c :: cs :=
          prefix_withCarriageReturns_iff hn hr
        rw [hcut] at hpre ⊢
        rw [List.infix_cons_iff, List.infix_cons_iff, hpre, ih]

end Newlines

section Wrapping

theorem wrap_of_lt {line : Text} (h : line.length < wrapWidth) : wrap line = [line] := by
  rw [wrap, if_neg (Nat.not_le.mpr h)]

/-- A piece of full width is cut off first. -/
theorem wrap_append {piece rest : Text} (h : piece.length = wrapWidth) :
    wrap (piece ++ rest) = piece :: wrap rest := by
  rw [wrap, if_pos (by simp [h]), ← h, List.take_left, List.drop_left]

/-- Wrapping gives pieces of full width and a shorter last one, and loses nothing. -/
theorem wrap_spec (line : Text) :
    ∃ full last, wrap line = full ++ [last] ∧ (∀ piece ∈ full, piece.length = wrapWidth) ∧
      last.length < wrapWidth ∧ full.flatten ++ last = line := by
  fun_induction wrap line with
  | case1 line h ih =>
      obtain ⟨full, last, hw, hf, hl, he⟩ := ih
      refine ⟨line.take wrapWidth :: full, last, by rw [hw]; rfl, ?_, hl, ?_⟩
      · intro piece hp
        rcases List.mem_cons.mp hp with rfl | hp
        · exact List.length_take_of_le h
        · exact hf piece hp
      · rw [List.flatten_cons, List.append_assoc, he, List.take_append_drop]
  | case2 line h => exact ⟨[], line, rfl, by simp, Nat.not_le.mp h, rfl⟩

/-- A piece of a line is an infix of it. -/
theorem infix_of_mem_wrap {line piece : Text} (h : piece ∈ wrap line) : piece <:+: line := by
  obtain ⟨full, last, hw, _, _, he⟩ := wrap_spec line
  rw [hw, List.mem_append, List.mem_singleton] at h
  rw [← he]
  rcases h with h | rfl
  · exact List.infix_append_of_infix_left (List.infix_of_mem_flatten h)
  · exact (List.suffix_append _ _).isInfix

theorem wrap_ne_nil (line : Text) : wrap line ≠ [] := by
  obtain ⟨full, last, hw, _⟩ := wrap_spec line
  simp [hw]

theorem rejoin_ne_nil {raws : List Text} (h : raws ≠ []) : rejoin raws ≠ [] := by
  cases raws with
  | nil => exact absurd rfl h
  | cons raw rest =>
      rw [rejoin]
      split
      · split <;> simp
      · simp

/-- A raw line of full width is put in front of the line that follows. -/
theorem rejoin_cons_full {raw : Text} {rest : List Text} (h : raw.length = wrapWidth) (hr : rest ≠ []) :
    ∃ line lines, rejoin rest = line :: lines ∧ rejoin (raw :: rest) = (raw ++ line) :: lines := by
  obtain ⟨line, lines, hl⟩ := List.exists_cons_of_ne_nil (rejoin_ne_nil hr)
  exact ⟨line, lines, hl, by rw [rejoin, if_pos h, hl]⟩

theorem rejoin_cons_of_ne {raw : Text} {rest : List Text} (h : raw.length ≠ wrapWidth) :
    rejoin (raw :: rest) = raw :: rejoin rest := by
  rw [rejoin, if_neg h]

/-- Rejoining neither adds nor loses characters. -/
theorem flatten_rejoin (raws : List Text) : (rejoin raws).flatten = raws.flatten := by
  induction raws with
  | nil => rfl
  | cons raw rest ih =>
      by_cases hraw : raw.length = wrapWidth
      · by_cases hrest : rest = []
        · simp [hrest, rejoin]
        · obtain ⟨line, lines, hl, hj⟩ := rejoin_cons_full hraw hrest
          rw [hj, List.flatten_cons, List.flatten_cons, ← ih, hl, List.flatten_cons, List.append_assoc]
      · rw [rejoin_cons_of_ne hraw, List.flatten_cons, List.flatten_cons, ih]

/-- Rejoining starts afresh after a raw line that is not of full width. -/
theorem rejoin_append {before after : List Text}
    (h : ∀ raw, before.getLast? = some raw → raw.length ≠ wrapWidth) :
    rejoin (before ++ after) = rejoin before ++ rejoin after := by
  induction before with
  | nil => rfl
  | cons raw rest ih =>
      cases rest with
      | nil =>
          have hraw : raw.length ≠ wrapWidth := h raw rfl
          simp [rejoin, hraw]
      | cons next more =>
          have ih := ih fun last hl => h last (by simpa using hl)
          by_cases hraw : raw.length = wrapWidth
          · obtain ⟨line, lines, hl, hj⟩ := rejoin_cons_full hraw (List.cons_ne_nil next more)
            obtain ⟨line', lines', hl', hj'⟩ :=
              rejoin_cons_full hraw (List.cons_ne_nil next (more ++ after))
            rw [← List.cons_append, ih, hl, List.cons_append] at hl'
            obtain ⟨rfl, rfl⟩ := List.cons.inj hl'
            exact hj'.trans (by rw [hj, List.cons_append])
          · rw [List.cons_append, rejoin_cons_of_ne hraw, rejoin_cons_of_ne hraw, ih]
            rfl

/-- Raw lines none of which has full width are the lines themselves. -/
theorem rejoin_of_forall_ne {raws : List Text} (h : ∀ raw ∈ raws, raw.length ≠ wrapWidth) :
    rejoin raws = raws := by
  induction raws with
  | nil => rfl
  | cons raw rest ih =>
      rw [rejoin_cons_of_ne (h raw List.mem_cons_self), ih fun r hr => h r (List.mem_cons_of_mem raw hr)]

/-- The pieces of a line become the line again. -/
theorem rejoin_wrap_append (line : Text) (rest : List Text) :
    rejoin (wrap line ++ rest) = line :: rejoin rest := by
  fun_induction wrap line with
  | case1 line h ih =>
      have hfull : (line.take wrapWidth).length = wrapWidth := List.length_take_of_le h
      simp only [List.cons_append, rejoin, if_pos hfull, ih, List.take_append_drop]
  | case2 line h =>
      have hraw : line.length ≠ wrapWidth := by omega
      simp [rejoin, hraw]

theorem rejoin_flatMap_wrap (lines : List Text) : rejoin (lines.flatMap wrap) = lines := by
  induction lines with
  | nil => rfl
  | cons line rest ih => rw [List.flatMap_cons, rejoin_wrap_append, ih]

/-- Raw lines of at most full width, of which the last is shorter, are what wrapping writes. -/
theorem flatMap_wrap_rejoin {raws : List Text} (h : ∀ raw ∈ raws, raw.length ≤ wrapWidth)
    (hlast : ∀ raw, raws.getLast? = some raw → raw.length < wrapWidth) :
    (rejoin raws).flatMap wrap = raws := by
  induction raws with
  | nil => rfl
  | cons raw rest ih =>
      have hrest : ∀ r ∈ rest, r.length ≤ wrapWidth := fun r hr => h r (List.mem_cons_of_mem raw hr)
      by_cases hraw : raw.length = wrapWidth
      · cases rest with
        | nil =>
            have := hlast raw rfl
            omega
        | cons next more =>
            have ih := ih hrest fun r hr => hlast r (by simpa using hr)
            obtain ⟨line, lines, hl, hj⟩ := rejoin_cons_full hraw (List.cons_ne_nil next more)
            rw [hl, List.flatMap_cons] at ih
            rw [hj, List.flatMap_cons, wrap_append hraw, List.cons_append, ih]
      · have hshort : raw.length < wrapWidth := by
          have := h raw List.mem_cons_self
          omega
        have hlast' : ∀ r, rest.getLast? = some r → r.length < wrapWidth := by
          intro r hr
          cases rest with
          | nil => simp at hr
          | cons next more => exact hlast r (by simpa using hr)
        rw [rejoin_cons_of_ne hraw, List.flatMap_cons, wrap_of_lt hshort, ih hrest hlast']
        rfl

/-- No line of a log holds a newline. -/
theorem newline_not_mem_of_mem_logicalLines {log line : Text} (h : line ∈ logicalLines log) :
    '\n' ∉ line := by
  intro hnewline
  have hflat : '\n' ∈ (logicalLines log).flatten := List.mem_flatten.mpr ⟨line, h, hnewline⟩
  rw [logicalLines, flatten_rejoin] at hflat
  obtain ⟨raw, hraw, hmem⟩ := List.mem_flatten.mp hflat
  exact Text.newline_not_mem_of_mem_splitLines hraw hmem

end Wrapping

end TexMend.Log
