import TexMend.Proofs.Secret.Takes

/-!
# How the texts of a shape begin and end

A text of a shape has some least length, begins with certain characters only and ends with certain ones. All
three are read off the pieces, one after the other.
-/

namespace TexMend.Secret

/-- The least number of characters that a piece takes. -/
def Piece.least : Piece → Nat
  | .one _ => 1
  | .run _ least => least
  | .choice words => (words.map List.length).min?.getD 0

/-- The least length of a text of the shape. -/
def Shape.least : Shape → Nat
  | [] => 0
  | piece :: shape => piece.least + Shape.least shape

theorem Word.Spells.length_eq {word : Word} {spelled : Text} (h : word.Spells spelled) :
    spelled.length = word.length := by
  induction h with
  | nil => rfl
  | cons _ _ ih => rw [List.length_cons, List.length_cons, ih]

theorem Shape.Takes.least_le {shape : Shape} {taken : Text} (h : shape.Takes taken) :
    shape.least ≤ taken.length := by
  induction h with
  | nil => exact Nat.le_refl 0
  | one _ _ ih =>
      rw [Shape.least, Piece.least, List.length_cons]
      omega
  | run stretch _ hl _ ih =>
      rw [Shape.least, Piece.least, List.length_append]
      omega
  | choice word spelled hw hs _ ih =>
      have hleast := List.min?_getD_le_of_mem (k := 0) (List.mem_map_of_mem (f := List.length) hw)
      rw [Shape.least, Piece.least, List.length_append, hs.length_eq]
      omega

/-- The characters with which a text of the shape may end. -/
def Shape.admitsEnd (c : Char) : Shape → Bool
  | [] => false
  | piece :: shape => (Shape.least shape == 0 && piece.admits c) || Shape.admitsEnd c shape

/-- A text of the shape ends with one of the characters at which it may end. -/
theorem Shape.Takes.admitsEnd_of_getLast? {shape : Shape} {taken : Text} {c : Char} (h : shape.Takes taken)
    (hc : taken.getLast? = some c) : shape.admitsEnd c = true := by
  -- The last character lies in the first piece only if the others take nothing.
  have hpiece {piece : Piece} {shape : Shape} {part rest : Text} (hrest : shape.Takes rest)
      (hlast : (part ++ rest).getLast? = some c) (hpart : c ∈ part → piece.admits c = true)
      (ih : rest.getLast? = some c → shape.admitsEnd c = true) : admitsEnd c (piece :: shape) = true := by
    rw [List.getLast?_append] at hlast
    rw [admitsEnd, Bool.or_eq_true, Bool.and_eq_true, beq_iff_eq]
    cases hr : rest.getLast? with
    | some d =>
        rw [hr, Option.some_or, Option.some.injEq] at hlast
        exact .inr (ih (hlast ▸ hr))
    | none =>
        obtain rfl := List.getLast?_eq_none_iff.mp hr
        rw [hr, Option.none_or] at hlast
        exact .inl ⟨Nat.le_zero.mp hrest.least_le, hpart (List.mem_of_getLast? hlast)⟩
  induction h with
  | nil => simp at hc
  | @one allowed shape d text hd tail ih =>
      have hlast : ([d] ++ text).getLast? = some c := hc
      refine hpiece tail hlast ?_ ih
      intro hmem
      rw [List.mem_singleton.mp hmem]
      exact hd
  | run stretch hs _ tail ih => exact hpiece tail hc (hs c) ih
  | choice word spelled hw hs tail ih =>
      exact hpiece tail hc (fun hmem => List.any_eq_true.mpr ⟨word, hw, hs.any_of_mem hmem⟩) ih

/-- Can the word stand where `start` stands? What `start` has beyond the word is left to `next`. -/
def Word.admitsStart (next : Text → Bool) : Word → Text → Bool
  | _, [] => true
  | [], start => next start
  | allowed :: word, c :: start => allowed c && Word.admitsStart next word start

/-- Can a long enough run stand where `start` stands? What `start` has beyond it is left to `next`. -/
def runAdmitsStart (allowed : CharClass) (next : Text → Bool) : Nat → Text → Bool
  | _, [] => true
  | 0, c :: start => (allowed c && runAdmitsStart allowed next 0 start) || next (c :: start)
  | least + 1, c :: start => allowed c && runAdmitsStart allowed next least start

/-- Can a text of the shape stand where `start` stands? It may be shorter than `start` or go on behind it. -/
def Shape.admitsStart : Shape → Text → Bool
  | [], _ => true
  | .one _ :: _, [] => true
  | .one allowed :: shape, c :: start => allowed c && Shape.admitsStart shape start
  | .run allowed least :: shape, start => runAdmitsStart allowed (Shape.admitsStart shape) least start
  | .choice words :: shape, start => words.any fun word => word.admitsStart (Shape.admitsStart shape) start

section Start

variable {next : Text → Bool} {taken start rest : Text}

theorem Word.Spells.admitsStart {word : Word} {spelled : Text} (h : word.Spells spelled)
    (hbegins : spelled ++ taken <+: start ++ rest)
    (hnext : ∀ start, taken <+: start ++ rest → next start = true) : word.admitsStart next start = true := by
  induction h generalizing start with
  | nil =>
      cases start with
      | nil => rfl
      | cons c start => exact hnext (c :: start) hbegins
  | cons hc _ ih =>
      cases start with
      | nil => rfl
      | cons d start =>
          rw [List.cons_append, List.cons_append, List.cons_prefix_cons] at hbegins
          obtain ⟨rfl, hbegins⟩ := hbegins
          rw [Word.admitsStart, hc, Bool.true_and]
          exact ih hbegins

theorem runAdmitsStart_of_stretch {allowed : CharClass} {least : Nat} {stretch : Text}
    (hs : ∀ c ∈ stretch, allowed c = true) (hl : least ≤ stretch.length)
    (hbegins : stretch ++ taken <+: start ++ rest)
    (hnext : ∀ start, taken <+: start ++ rest → next start = true) :
    runAdmitsStart allowed next least start = true := by
  induction stretch generalizing start least with
  | nil =>
      obtain rfl := Nat.le_zero.mp hl
      cases start with
      | nil => rfl
      | cons c start =>
          rw [runAdmitsStart, hnext (c :: start) hbegins, Bool.or_true]
  | cons d stretch ih =>
      cases start with
      | nil => cases least <;> rfl
      | cons c start =>
          rw [List.cons_append, List.cons_append, List.cons_prefix_cons] at hbegins
          obtain ⟨rfl, hbegins⟩ := hbegins
          have hd : allowed d = true := hs d List.mem_cons_self
          have hrest : ∀ c ∈ stretch, allowed c = true := fun c hc => hs c (List.mem_cons_of_mem d hc)
          cases least with
          | zero =>
              rw [runAdmitsStart, hd, ih hrest (Nat.zero_le _) hbegins, Bool.and_self, Bool.true_or]
          | succ least =>
              rw [runAdmitsStart, hd, ih hrest (Nat.le_of_succ_le_succ hl) hbegins, Bool.and_self]

/-- A text of the shape stands only where the shape admits the start. -/
theorem Shape.Takes.admitsStart_of_begins {shape : Shape} (h : shape.Takes taken)
    (hbegins : taken <+: start ++ rest) : shape.admitsStart start = true := by
  induction h generalizing start with
  | nil => rfl
  | one hc _ ih =>
      cases start with
      | nil => rfl
      | cons d start =>
          rw [List.cons_append, List.cons_prefix_cons] at hbegins
          obtain ⟨rfl, hbegins⟩ := hbegins
          rw [admitsStart, hc, Bool.true_and]
          exact ih hbegins
  | run stretch hs hl _ ih => exact runAdmitsStart_of_stretch hs hl hbegins fun _ => ih
  | choice word spelled hw hs _ ih =>
      exact List.any_eq_true.mpr ⟨word, hw, hs.admitsStart hbegins fun _ => ih⟩

end Start

end TexMend.Secret
