import Mathlib.Data.List.TakeWhile
import TexMend.Text.Basic

/-!
# Stretches at the ends of a text

A scanner takes the longest stretch of one class of characters and goes on behind it. Stripping takes such
a stretch off both ends, so what is left has no blank there.
-/

namespace TexMend.Text

variable {p : Char → Bool}

/-- What stands behind the first stretch. -/
theorem drop_length_takeWhile (p : Char → Bool) (text : Text) :
    text.drop (text.takeWhile p).length = text.dropWhile p := by
  calc text.drop (text.takeWhile p).length
      = (text.takeWhile p ++ text.dropWhile p).drop (text.takeWhile p).length := by
        rw [List.takeWhile_append_dropWhile]
    _ = text.dropWhile p := List.drop_left

/-- A stretch ends at the first character of another class. -/
theorem takeWhile_append_cons {stretch rest : Text} {c : Char} (h : ∀ d ∈ stretch, p d = true)
    (hc : p c = false) : (stretch ++ c :: rest).takeWhile p = stretch := by
  rw [List.takeWhile_append_of_pos h, List.takeWhile_cons_of_neg (by simp [hc]), List.append_nil]

/-- Dropping a stretch stops at a character of another class. -/
theorem dropWhile_append_cons {c : Char} (hc : p c = false) (before rest : Text) :
    (before ++ c :: rest).dropWhile p = before.dropWhile p ++ c :: rest := by
  rw [List.dropWhile_append]
  split
  · next he =>
      rw [List.isEmpty_iff.mp he, List.dropWhile_cons_of_neg (by simp [hc]), List.nil_append]
  · rfl

theorem eq_false_of_dropWhile_eq_cons {text rest : Text} {c : Char} (h : text.dropWhile p = c :: rest) :
    p c = false := by
  have hhead := List.head?_dropWhile_not p text
  rw [h] at hhead
  exact hhead

/-- What is dropped at the end is a stretch of its class. -/
theorem exists_dropEndWhile_append (p : Char → Bool) (text : Text) :
    ∃ dropped, dropEndWhile p text ++ dropped = text ∧ ∀ c ∈ dropped, p c = true := by
  induction text with
  | nil => exact ⟨[], rfl, List.forall_mem_nil _⟩
  | cons c cs ih =>
      obtain ⟨dropped, hdropped, hall⟩ := ih
      unfold dropEndWhile
      split
      · next hnil =>
          rw [hnil, List.nil_append] at hdropped
          rw [hdropped] at hall
          split
          · next hc => exact ⟨c :: cs, rfl, List.forall_mem_cons.mpr ⟨hc, hall⟩⟩
          · exact ⟨cs, rfl, hall⟩
      · next d ds hrest =>
          refine ⟨dropped, ?_, hall⟩
          rw [← hrest, List.cons_append, hdropped]

theorem dropEndWhile_prefix (p : Char → Bool) (text : Text) : dropEndWhile p text <+: text := by
  obtain ⟨dropped, hdropped, -⟩ := exists_dropEndWhile_append p text
  exact ⟨dropped, hdropped⟩

/-- What is left does not end with a dropped character. -/
theorem eq_false_of_dropEndWhile_eq_append {text before : Text} {c : Char}
    (h : dropEndWhile p text = before ++ [c]) : p c = false := by
  induction text generalizing before with
  | nil => simp [dropEndWhile] at h
  | cons d ds ih =>
      unfold dropEndWhile at h
      split at h
      · split at h
        · simp at h
        · next hd =>
            have hsplit : [] ++ [d] = before ++ [c] := h
            obtain ⟨-, hlast⟩ := List.append_inj' hsplit rfl
            rw [← List.singleton_inj.mp hlast]
            exact Bool.eq_false_iff.mpr hd
      · next hrest =>
          cases before with
          | nil => simp at h
          | cons e before => exact ih (hrest.trans (List.cons.inj h).2)

/-- Dropping at the end does not go beyond a text of which something is left. -/
theorem dropEndWhile_append {rest : Text} (h : dropEndWhile p rest ≠ []) (before : Text) :
    dropEndWhile p (before ++ rest) = before ++ dropEndWhile p rest := by
  induction before with
  | nil => rfl
  | cons b before ih =>
      obtain ⟨c, cs, hcons⟩ := List.exists_cons_of_ne_nil (List.append_ne_nil_of_right_ne_nil before h)
      rw [List.cons_append, dropEndWhile, ih, hcons, List.cons_append, hcons]

theorem dropEndWhile_cons_of_neg {c : Char} (hc : p c = false) (rest : Text) :
    dropEndWhile p (c :: rest) = c :: dropEndWhile p rest := by
  rw [dropEndWhile]
  split
  · next hnil => rw [if_neg (by simp [hc]), hnil]
  · next hcons => rw [hcons]

/-- Dropping at the end stops at a character of another class. -/
theorem dropEndWhile_append_cons {c : Char} (hc : p c = false) (before rest : Text) :
    dropEndWhile p (before ++ c :: rest) = before ++ c :: dropEndWhile p rest := by
  have hkept := dropEndWhile_cons_of_neg hc rest
  rw [dropEndWhile_append (hkept ▸ List.cons_ne_nil _ _), hkept]

theorem dropEndWhile_eq_nil {text : Text} (h : ∀ c ∈ text, p c = true) : dropEndWhile p text = [] := by
  induction text with
  | nil => rfl
  | cons c cs ih =>
      rw [dropEndWhile, ih fun d hd => h d (List.mem_cons_of_mem c hd)]
      exact if_pos (h c List.mem_cons_self)

/-- A stretch at the end is dropped up to a character of another class. -/
theorem dropEndWhile_append_stretch {text stretch : Text} (h : ∀ before c, text = before ++ [c] → p c = false)
    (hstretch : ∀ c ∈ stretch, p c = true) : dropEndWhile p (text ++ stretch) = text := by
  rcases List.eq_nil_or_concat text with rfl | ⟨before, c, rfl⟩
  · exact dropEndWhile_eq_nil hstretch
  · rw [List.concat_eq_append] at h ⊢
    rw [List.append_assoc, List.singleton_append, dropEndWhile_append_cons (h before c rfl), dropEndWhile_eq_nil hstretch]

/-- Nothing is dropped where the last character is of another class. -/
theorem dropEndWhile_eq_self {text : Text} (h : ∀ before c, text = before ++ [c] → p c = false) :
    dropEndWhile p text = text := by
  have hnone : ∀ c ∈ ([] : Text), p c = true := nofun
  simpa using dropEndWhile_append_stretch h hnone

theorem dropWhile_eq_self {text : Text} (h : ∀ c rest, text = c :: rest → p c = false) :
    text.dropWhile p = text := by
  cases text with
  | nil => rfl
  | cons c rest => exact List.dropWhile_cons_of_neg (by simp [h c rest rfl])

/-- A run of one character is dropped up to a character of another class. -/
theorem dropWhile_replicate_append {c : Char} {rest : Text} (hc : p c = true) (n : Nat)
    (hrest : ∀ d ds, rest = d :: ds → p d = false) : (List.replicate n c ++ rest).dropWhile p = rest := by
  rw [List.dropWhile_append_of_pos, dropWhile_eq_self hrest]
  intro d hd
  rw [List.eq_of_mem_replicate hd]
  exact hc

/-- A text starts as its first part does. -/
theorem start_append {starts : Char → Prop} {text : Text} (hne : text ≠ [])
    (h : ∀ c rest, text = c :: rest → starts c) (behind : Text) : ∀ c rest, text ++ behind = c :: rest → starts c := by
  intro c rest heq
  obtain ⟨d, ds, rfl⟩ := List.exists_cons_of_ne_nil hne
  obtain ⟨rfl, -⟩ := List.cons.inj heq
  exact h d ds rfl

/-- A text ends as its last part does. -/
theorem end_append {ends : Char → Prop} {text : Text} (hne : text ≠ []) (h : ∀ before c, text = before ++ [c] → ends c)
    (lead : Text) : ∀ before c, lead ++ text = before ++ [c] → ends c := by
  intro before c heq
  rcases List.eq_nil_or_concat text with rfl | ⟨left, d, rfl⟩
  · exact absurd rfl hne
  · rw [List.concat_eq_append] at h heq
    rw [← List.append_assoc] at heq
    obtain ⟨-, hlast⟩ := List.append_inj' heq rfl
    obtain rfl := List.singleton_inj.mp hlast
    exact h left d rfl

/-- A stripped text does not begin with a blank. -/
theorem isBlank_of_strip_eq_cons {text rest : Text} {c : Char} (h : strip text = c :: rest) :
    isBlank c = false := by
  obtain ⟨dropped, hdropped⟩ := dropEndWhile_prefix isBlank (text.dropWhile isBlank)
  have hstart : text.dropWhile isBlank = c :: (rest ++ dropped) := by
    rw [← hdropped, ← List.cons_append, ← h]
    rfl
  exact eq_false_of_dropWhile_eq_cons hstart

/-- The text has no blank at either end. -/
def Trimmed (text : Text) : Prop :=
  (∀ c rest, text = c :: rest → isBlank c = false) ∧ ∀ before c, text = before ++ [c] → isBlank c = false

theorem trimmed_nil : Trimmed [] :=
  ⟨nofun, by simp⟩

theorem trimmed_strip (text : Text) : Trimmed (strip text) :=
  ⟨fun _ _ => isBlank_of_strip_eq_cons, fun _ _ => eq_false_of_dropEndWhile_eq_append⟩

theorem strip_eq_self {text : Text} (h : Trimmed text) : strip text = text := by
  rw [strip, dropWhile_eq_self h.1, dropEndWhile_eq_self h.2]

variable {q : Char → Bool}

/-- A wider stretch may be dropped in two steps. -/
theorem dropWhile_dropWhile_of_imp (h : ∀ c, p c = true → q c = true) (text : Text) :
    (text.dropWhile p).dropWhile q = text.dropWhile q := by
  induction text with
  | nil => rfl
  | cons c cs ih =>
      by_cases hc : p c = true
      · rw [List.dropWhile_cons_of_pos hc, List.dropWhile_cons_of_pos (h c hc), ih]
      · rw [List.dropWhile_cons_of_neg hc]

theorem isBlank_of_isAsciiBlank {c : Char} (h : isAsciiBlank c = true) : isBlank c = true := by
  simp only [isAsciiBlank, Bool.or_eq_true, beq_iff_eq, Bool.and_eq_true, decide_eq_true_iff] at h
  rcases h with rfl | h
  · decide
  · simp [isBlank, h]

/-- Stripping only takes characters away. -/
theorem mem_of_mem_strip {text : Text} {c : Char} (h : c ∈ strip text) : c ∈ text := by
  have hstart : strip text <+: text.dropWhile isBlank := dropEndWhile_prefix isBlank _
  exact (List.dropWhile_suffix isBlank).subset (hstart.subset h)

/-- Nothing is left of blanks. -/
theorem strip_eq_nil {text : Text} (h : ∀ c ∈ text, isBlank c = true) : strip text = [] := by
  rw [strip, List.dropWhile_eq_nil_iff.mpr h]
  rfl

end TexMend.Text
