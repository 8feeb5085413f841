import TexMend.Secret.Kind
import TexMend.Proofs.Text.Occurrence

/-!
# The texts that a shape takes

The matcher tries long runs and early words first. Whether it succeeds does not depend on that order: it
succeeds at a place exactly when some beginning of the text is built from the pieces of the shape, and a
shape occurs exactly when it takes an infix.
-/

namespace TexMend.Secret

/-- The texts that a word stands for, character by character. -/
inductive Word.Spells : Word → Text → Prop
  | nil : Spells [] []
  | cons {allowed word c text} (hc : allowed c = true) (tail : Spells word text) :
      Spells (allowed :: word) (c :: text)

/-- The texts that are built from the pieces of a shape, without regard to any order of trial. -/
inductive Shape.Takes : Shape → Text → Prop
  | nil : Takes [] []
  | one {allowed shape c text} (hc : allowed c = true) (tail : Takes shape text) :
      Takes (.one allowed :: shape) (c :: text)
  | run {allowed least shape text} (stretch : Text) (hs : ∀ c ∈ stretch, allowed c = true)
      (hl : least ≤ stretch.length) (tail : Takes shape text) :
      Takes (.run allowed least :: shape) (stretch ++ text)
  | choice {words shape text} (word : Word) (spelled : Text) (hw : word ∈ words)
      (hs : word.Spells spelled) (tail : Takes shape text) :
      Takes (.choice words :: shape) (spelled ++ text)

/-- A word is found exactly where one of its spellings stands. -/
theorem Word.after?_eq_some_iff {word : Word} {text rest : Text} :
    word.after? text = some rest ↔ ∃ spelled, word.Spells spelled ∧ text = spelled ++ rest := by
  induction word generalizing text with
  | nil =>
      constructor
      · intro h
        exact ⟨[], .nil, Option.some.inj h⟩
      · rintro ⟨spelled, hs, rfl⟩
        cases hs
        rfl
  | cons allowed word ih =>
      constructor
      · intro h
        cases text with
        | nil => simp [Word.after?] at h
        | cons c cs =>
            by_cases hc : allowed c = true
            · simp only [Word.after?, if_pos hc] at h
              obtain ⟨spelled, hs, rfl⟩ := ih.mp h
              exact ⟨c :: spelled, .cons hc hs, rfl⟩
            · simp [Word.after?, hc] at h
      · rintro ⟨spelled, hs, rfl⟩
        cases hs with
        | cons hc tail =>
            simp only [List.cons_append, Word.after?, if_pos hc]
            exact ih.mpr ⟨_, tail, rfl⟩

/-- What a run leaves is what the rest of the shape leaves after a long enough stretch. -/
theorem takeRun_eq_some {allowed : CharClass} {next : Text → Option Text} {least : Nat}
    {text rest : Text} (h : takeRun allowed next least text = some rest) :
    ∃ stretch after, text = stretch ++ after ∧ (∀ c ∈ stretch, allowed c = true) ∧
      least ≤ stretch.length ∧ next after = some rest := by
  induction text generalizing least with
  | nil =>
      cases least with
      | zero => exact ⟨[], [], rfl, by simp, Nat.le_refl _, by simpa [takeRun] using h⟩
      | succ least => simp [takeRun] at h
  | cons c cs ih =>
      have extend {k : Nat} (hc : allowed c = true) (hk : least ≤ k + 1)
          (hr : takeRun allowed next k cs = some rest) :
          ∃ stretch after, c :: cs = stretch ++ after ∧ (∀ d ∈ stretch, allowed d = true) ∧
            least ≤ stretch.length ∧ next after = some rest := by
        obtain ⟨stretch, after, rfl, hs, hl, hn⟩ := ih hr
        refine ⟨c :: stretch, after, rfl, ?_, ?_, hn⟩
        · intro d hd
          rcases List.mem_cons.mp hd with rfl | hd
          · exact hc
          · exact hs d hd
        · simp only [List.length_cons]
          omega
      cases least with
      | succ least =>
          by_cases hc : allowed c = true
          · simp only [takeRun, if_pos hc] at h
            exact extend hc (Nat.le_refl _) h
          · simp [takeRun, hc] at h
      | zero =>
          have stop (hn : next (c :: cs) = some rest) :
              ∃ stretch after, c :: cs = stretch ++ after ∧ (∀ d ∈ stretch, allowed d = true) ∧
                0 ≤ stretch.length ∧ next after = some rest :=
            ⟨[], c :: cs, rfl, by simp, Nat.le_refl _, hn⟩
          by_cases hc : allowed c = true
          · cases hr : takeRun allowed next 0 cs with
            | some found =>
                simp only [takeRun, if_pos hc, hr] at h
                exact extend hc (Nat.zero_le _) (hr.trans h)
            | none =>
                simp only [takeRun, if_pos hc, hr] at h
                exact stop h
          · simp only [takeRun, if_neg hc] at h
            exact stop h

/-- A run succeeds as soon as the rest of the shape does after some long enough stretch. -/
theorem takeRun_isSome {allowed : CharClass} {next : Text → Option Text} {least : Nat}
    {stretch after : Text} (hs : ∀ c ∈ stretch, allowed c = true) (hl : least ≤ stretch.length)
    (hn : (next after).isSome) : (takeRun allowed next least (stretch ++ after)).isSome := by
  induction stretch generalizing least with
  | nil =>
      obtain rfl : least = 0 := by simpa using hl
      cases after with
      | nil => simpa [takeRun] using hn
      | cons c cs =>
          by_cases hc : allowed c = true
          · cases hr : takeRun allowed next 0 cs with
            | some rest => simp [takeRun, hc, hr]
            | none => simpa [takeRun, hc, hr] using hn
          · simpa [takeRun, hc] using hn
  | cons c stretch ih =>
      have hc : allowed c = true := hs c List.mem_cons_self
      have hrest : ∀ d ∈ stretch, allowed d = true := fun d hd => hs d (List.mem_cons_of_mem c hd)
      cases least with
      | succ least =>
          simp only [List.length_cons, Nat.add_le_add_iff_right] at hl
          simpa [takeRun, hc] using ih hrest hl
      | zero =>
          obtain ⟨rest, hr⟩ := Option.isSome_iff_exists.mp (ih hrest (Nat.zero_le _))
          simp [takeRun, hc, hr]

/-- A match takes a text of the shape. -/
theorem Shape.takes_of_after? {shape : Shape} {text rest : Text} (h : shape.after? text = some rest) :
    ∃ taken, shape.Takes taken ∧ text = taken ++ rest := by
  induction shape generalizing text with
  | nil => exact ⟨[], .nil, Option.some.inj h⟩
  | cons piece shape ih =>
      cases piece with
      | one allowed =>
          cases text with
          | nil => simp [Shape.after?] at h
          | cons c cs =>
              by_cases hc : allowed c = true
              · simp only [Shape.after?, if_pos hc] at h
                obtain ⟨taken, ht, rfl⟩ := ih h
                exact ⟨c :: taken, .one hc ht, rfl⟩
              · simp [Shape.after?, hc] at h
      | run allowed least =>
          obtain ⟨stretch, after, rfl, hs, hl, hn⟩ := takeRun_eq_some (by simpa [Shape.after?] using h)
          obtain ⟨taken, ht, rfl⟩ := ih hn
          exact ⟨stretch ++ taken, .run stretch hs hl ht, (List.append_assoc ..).symm⟩
      | choice words =>
          obtain ⟨word, hw, hfound⟩ := List.exists_of_findSome?_eq_some (by simpa [Shape.after?] using h)
          cases ha : word.after? text with
          | none => simp [ha] at hfound
          | some after =>
              obtain ⟨spelled, hs, rfl⟩ := Word.after?_eq_some_iff.mp ha
              obtain ⟨taken, ht, rfl⟩ := ih (by simpa [ha] using hfound)
              exact ⟨spelled ++ taken, .choice word spelled hw hs ht, (List.append_assoc ..).symm⟩

/-- The matcher succeeds wherever a text of the shape stands. -/
theorem Shape.Takes.isSome_after? {shape : Shape} {taken : Text} (h : shape.Takes taken) (rest : Text) :
    (shape.after? (taken ++ rest)).isSome := by
  induction h with
  | nil => rfl
  | one hc _ ih => simpa [Shape.after?, hc] using ih
  | run stretch hs hl _ ih =>
      rw [List.append_assoc]
      simpa only [Shape.after?] using takeRun_isSome hs hl ih
  | choice word spelled hw hs _ ih =>
      rw [List.append_assoc]
      simp only [Shape.after?, List.findSome?_isSome_iff]
      refine ⟨word, hw, ?_⟩
      simpa only [Word.after?_eq_some_iff.mpr ⟨spelled, hs, rfl⟩] using ih

/-- The matcher succeeds at a place exactly when a text of the shape begins there. -/
theorem Shape.isSome_after?_iff {shape : Shape} {text : Text} :
    (shape.after? text).isSome ↔ ∃ taken, shape.Takes taken ∧ taken <+: text := by
  constructor
  · intro h
    obtain ⟨rest, hr⟩ := Option.isSome_iff_exists.mp h
    obtain ⟨taken, ht, rfl⟩ := takes_of_after? hr
    exact ⟨taken, ht, List.prefix_append taken rest⟩
  · rintro ⟨taken, ht, rest, rfl⟩
    exact ht.isSome_after? rest

/-- A shape occurs in a text exactly when it takes an infix of it. -/
theorem Shape.occurs_iff {shape : Shape} {text : Text} :
    shape.occurs text = true ↔ ∃ taken, shape.Takes taken ∧ taken <:+: text := by
  rw [Shape.occurs, Text.firstAt?_isSome_iff]
  constructor
  · rintro ⟨place, hp, hm⟩
    obtain ⟨taken, ht, htp⟩ := isSome_after?_iff.mp hm
    exact ⟨taken, ht, htp.isInfix.trans hp.isInfix⟩
  · rintro ⟨taken, ht, hi⟩
    obtain ⟨place, htp, hp⟩ := List.infix_iff_prefix_suffix.mp hi
    exact ⟨place, hp, isSome_after?_iff.mpr ⟨taken, ht, htp⟩⟩

/-- A shape does not occur in a text exactly when it takes no infix of it. -/
theorem Shape.occurs_eq_false_iff {shape : Shape} {text : Text} :
    shape.occurs text = false ↔ ∀ part, part <:+: text → ¬ shape.Takes part := by
  rw [Bool.eq_false_iff, Ne, occurs_iff]
  exact ⟨fun h part hi ht => h ⟨part, ht, hi⟩, fun h ⟨part, ht, hi⟩ => h part hi ht⟩

/-- The characters that a piece can take. -/
def Piece.admits (c : Char) : Piece → Bool
  | .one allowed => allowed c
  | .run allowed _ => allowed c
  | .choice words => words.any fun word => word.any fun allowed => allowed c

/-- The characters that can stand in a text of the shape. -/
def Shape.admits (c : Char) (shape : Shape) : Bool :=
  shape.any (Piece.admits c)

theorem Word.Spells.any_of_mem {word : Word} {spelled : Text} (h : word.Spells spelled) {c : Char}
    (hc : c ∈ spelled) : word.any (fun allowed => allowed c) = true := by
  induction h with
  | nil => simp at hc
  | cons ha _ ih =>
      rcases List.mem_cons.mp hc with rfl | hc
      · simp [ha]
      · simp [ih hc]

/-- Every character of a text of the shape is one that the shape admits. -/
theorem Shape.Takes.admits_of_mem {shape : Shape} {taken : Text} (h : shape.Takes taken) {c : Char}
    (hc : c ∈ taken) : shape.admits c = true := by
  induction h with
  | nil => simp at hc
  | one ha _ ih =>
      rcases List.mem_cons.mp hc with rfl | hc
      · simp [admits, Piece.admits, ha]
      · simpa [admits] using Or.inr (ih hc)
  | run stretch hs _ _ ih =>
      rcases List.mem_append.mp hc with hc | hc
      · simp [admits, Piece.admits, hs c hc]
      · simpa [admits] using Or.inr (ih hc)
  | choice word spelled hw hs _ ih =>
      rcases List.mem_append.mp hc with hc | hc
      · have hp : (Piece.choice _).admits c = true := List.any_eq_true.mpr ⟨word, hw, hs.any_of_mem hc⟩
        simp [admits, hp]
      · simpa [admits] using Or.inr (ih hc)

end TexMend.Secret
