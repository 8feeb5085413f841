import TexMend.Text.Basic

/-!
# Scripts and alignments

A script turns one text into another by operations on single characters. An alignment writes the two texts below each
other, column by column, and costs one for each column that does not hold the same character twice. The cheapest
alignment costs as much as the shortest script: its costly columns are the operations of a script, and an operation on
the lower text makes an alignment dearer by one at most.
-/

namespace TexMend.Text

section Script

/-- One character is inserted, deleted, or put in the place of another one. -/
inductive Operation : Text → Text → Prop
  | insertion (before after : Text) (c : Char) : Operation (before ++ after) (before ++ c :: after)
  | deletion (before after : Text) (c : Char) : Operation (before ++ c :: after) (before ++ after)
  | substitution (before after : Text) (c d : Char) : Operation (before ++ c :: after) (before ++ d :: after)

/-- So many operations, one after the other. -/
inductive Script : Nat → Text → Text → Prop
  | done {text : Text} : Script 0 text text
  | next {count : Nat} {first middle last : Text} (head : Operation first middle)
      (rest : Script count middle last) : Script (count + 1) first last

variable {first last : Text} {count : Nat}

theorem Operation.cons (c : Char) (h : Operation first last) : Operation (c :: first) (c :: last) := by
  cases h with
  | insertion before after d => exact .insertion (c :: before) after d
  | deletion before after d => exact .deletion (c :: before) after d
  | substitution before after d e => exact .substitution (c :: before) after d e

theorem Script.cons (c : Char) (h : Script count first last) : Script count (c :: first) (c :: last) := by
  induction h with
  | done => exact .done
  | next head _ ih => exact .next (head.cons c) ih

end Script

/-- A column holds a character of the upper text, one of the lower text, or one of each. -/
inductive Column where
  | deleted (c : Char)
  | inserted (c : Char)
  | paired (c d : Char)

namespace Column

def upper? : Column → Option Char
  | deleted c => some c
  | inserted _ => none
  | paired c _ => some c

def lower? : Column → Option Char
  | deleted _ => none
  | inserted d => some d
  | paired _ d => some d

/-- Only a pair of equal characters is free. -/
def cost : Column → Nat
  | paired c d => if c = d then 0 else 1
  | _ => 1

end Column

/-- Two texts, column by column. -/
abbrev Alignment := List Column

namespace Alignment

variable {columns : Alignment} {a b : Text} {count : Nat}

def upper (columns : Alignment) : Text :=
  columns.filterMap Column.upper?

def lower (columns : Alignment) : Text :=
  columns.filterMap Column.lower?

/-- The number of columns that are not free. -/
def cost : Alignment → Nat
  | [] => 0
  | column :: rest => cost rest + column.cost

@[simp]
theorem upper_nil : upper [] = [] := rfl

@[simp]
theorem lower_nil : lower [] = [] := rfl

@[simp]
theorem cost_nil : cost [] = 0 := rfl

@[simp]
theorem upper_append (columns rest : Alignment) : upper (columns ++ rest) = upper columns ++ upper rest :=
  List.filterMap_append

@[simp]
theorem lower_append (columns rest : Alignment) : lower (columns ++ rest) = lower columns ++ lower rest :=
  List.filterMap_append

@[simp]
theorem cost_append (columns rest : Alignment) : cost (columns ++ rest) = cost columns + cost rest := by
  induction columns with
  | nil => exact (Nat.zero_add _).symm
  | cons column columns ih =>
      rw [List.cons_append, cost, cost, ih]
      omega

section Column

variable {c d : Char}

@[simp]
theorem upper_deleted : upper (.deleted c :: columns) = c :: upper columns := rfl

@[simp]
theorem upper_inserted : upper (.inserted d :: columns) = upper columns := rfl

@[simp]
theorem upper_paired : upper (.paired c d :: columns) = c :: upper columns := rfl

@[simp]
theorem lower_deleted : lower (.deleted c :: columns) = lower columns := rfl

@[simp]
theorem lower_inserted : lower (.inserted d :: columns) = d :: lower columns := rfl

@[simp]
theorem lower_paired : lower (.paired c d :: columns) = d :: lower columns := rfl

@[simp]
theorem cost_deleted : cost (.deleted c :: columns) = cost columns + 1 := rfl

@[simp]
theorem cost_inserted : cost (.inserted d :: columns) = cost columns + 1 := rfl

@[simp]
theorem cost_paired : cost (.paired c d :: columns) = cost columns + if c = d then 0 else 1 := rfl

end Column

/-! ## Scripts as alignments -/

/-- The costly columns are the operations of a script, done from the left. -/
theorem script (columns : Alignment) : Script (cost columns) (upper columns) (lower columns) := by
  induction columns with
  | nil => exact .done
  | cons column columns ih =>
      cases column with
      | deleted c => exact .next (.deletion [] _ c) ih
      | inserted d => exact .next (.insertion [] _ d) (ih.cons d)
      | paired c d =>
          rw [upper_paired, lower_paired, cost_paired]
          split
          · next heq => exact heq ▸ ih.cons c
          · exact .next (.substitution [] _ c d) (ih.cons d)

/-- The column above a character of the lower text. -/
theorem exists_column {before after : Text} {d : Char} (h : lower columns = before ++ d :: after) :
    ∃ left column right, columns = left ++ column :: right ∧ lower left = before ∧ column.lower? = some d ∧
      lower right = after := by
  obtain ⟨left, rest, rfl, hleft, hrest⟩ := List.filterMap_eq_append_iff.mp h
  obtain ⟨skipped, column, right, rfl, hskipped, hcolumn, hright⟩ := List.filterMap_eq_cons_iff.mp hrest
  have hnil : lower skipped = [] := List.filterMap_eq_nil_iff.mpr hskipped
  refine ⟨left ++ skipped, column, right, (List.append_assoc ..).symm, ?_, hcolumn, hright⟩
  rw [lower_append, hnil, List.append_nil]
  exact hleft

/-- An operation on the lower text changes one column at most. -/
theorem exists_of_operation (h : Operation (lower columns) b) :
    ∃ changed, upper changed = upper columns ∧ lower changed = b ∧ cost changed ≤ cost columns + 1 := by
  generalize hlower : lower columns = old at h
  cases h with
  | insertion before after d =>
      obtain ⟨left, right, rfl, rfl, rfl⟩ := List.filterMap_eq_append_iff.mp hlower
      refine ⟨left ++ .inserted d :: right, by simp, ?_, by simp; omega⟩
      rw [lower_append, lower_inserted]
      rfl
  | deletion before after d =>
      obtain ⟨left, column, right, rfl, rfl, hcolumn, rfl⟩ := exists_column hlower
      cases column with
      | deleted c => cases hcolumn
      | inserted e => exact ⟨left ++ right, by simp, by simp, by simp; omega⟩
      | paired c e => exact ⟨left ++ .deleted c :: right, by simp, by simp, by simp; omega⟩
  | substitution before after d e =>
      obtain ⟨left, column, right, rfl, rfl, hcolumn, rfl⟩ := exists_column hlower
      cases column with
      | deleted c => cases hcolumn
      | inserted _ => exact ⟨left ++ .inserted e :: right, by simp, by simp, by simp⟩
      | paired c _ =>
          refine ⟨left ++ .paired c e :: right, by simp, by simp, ?_⟩
          simp only [cost_append, cost_paired]
          split <;> omega

/-- A script on the lower text makes an alignment no dearer than by its length. -/
theorem exists_of_script (h : Script count (lower columns) b) :
    ∃ changed, upper changed = upper columns ∧ lower changed = b ∧ cost changed ≤ cost columns + count := by
  generalize hlower : lower columns = old at h
  induction h generalizing columns with
  | done => exact ⟨columns, rfl, hlower, Nat.le_refl _⟩
  | next head _ ih =>
      obtain ⟨middle, hupper, hmiddle, hcost⟩ := exists_of_operation (hlower ▸ head)
      obtain ⟨changed, hupper', hlast, hcost'⟩ := ih hmiddle
      exact ⟨changed, hupper'.trans hupper, hlast, by omega⟩

/-! ## The least cost -/

/-- Some alignment of the two texts has this cost. -/
def Attains (count : Nat) (a b : Text) : Prop :=
  ∃ columns, upper columns = a ∧ lower columns = b ∧ cost columns = count

theorem attains_deleted (c : Char) (h : Attains count a b) : Attains (count + 1) (a ++ [c]) b := by
  obtain ⟨columns, rfl, rfl, rfl⟩ := h
  exact ⟨columns ++ [.deleted c], by simp, by simp, by simp⟩

theorem attains_inserted (d : Char) (h : Attains count a b) : Attains (count + 1) a (b ++ [d]) := by
  obtain ⟨columns, rfl, rfl, rfl⟩ := h
  exact ⟨columns ++ [.inserted d], by simp, by simp, by simp⟩

theorem attains_paired (c d : Char) (h : Attains count a b) :
    Attains (count + if c = d then 0 else 1) (a ++ [c]) (b ++ [d]) := by
  obtain ⟨columns, rfl, rfl, rfl⟩ := h
  exact ⟨columns ++ [.paired c d], by simp, by simp, by simp⟩

/-- The last column takes the last character off the upper text, the lower text or both. -/
theorem attains_concat_cases {c d : Char} (h : Attains count (a ++ [c]) (b ++ [d])) :
    (∃ n, Attains n a (b ++ [d]) ∧ count = n + 1) ∨ (∃ n, Attains n (a ++ [c]) b ∧ count = n + 1) ∨
      ∃ n, Attains n a b ∧ count = n + if c = d then 0 else 1 := by
  obtain ⟨columns, hupper, hlower, rfl⟩ := h
  rcases List.eq_nil_or_concat columns with rfl | ⟨columns, column, rfl⟩
  · simp at hupper
  · rw [List.concat_eq_append] at hupper hlower ⊢
    cases column with
    | deleted c' =>
        simp only [upper_append, upper_deleted, upper_nil, List.append_singleton_inj] at hupper
        obtain ⟨rfl, rfl⟩ := hupper
        exact .inl ⟨cost columns, ⟨columns, rfl, by simpa using hlower, rfl⟩, by simp⟩
    | inserted d' =>
        simp only [lower_append, lower_inserted, lower_nil, List.append_singleton_inj] at hlower
        obtain ⟨rfl, rfl⟩ := hlower
        exact .inr (.inl ⟨cost columns, ⟨columns, by simpa using hupper, rfl, rfl⟩, by simp⟩)
    | paired c' d' =>
        simp only [upper_append, upper_paired, upper_nil, List.append_singleton_inj] at hupper
        simp only [lower_append, lower_paired, lower_nil, List.append_singleton_inj] at hlower
        obtain ⟨rfl, rfl⟩ := hupper
        obtain ⟨rfl, rfl⟩ := hlower
        exact .inr (.inr ⟨cost columns, ⟨columns, rfl, rfl, rfl⟩, by simp⟩)

/-- A text is longer than another one by no more than the alignment costs. -/
theorem length_upper_le (columns : Alignment) : (upper columns).length ≤ (lower columns).length + cost columns := by
  induction columns with
  | nil => exact Nat.zero_le _
  | cons column columns ih => cases column <;> simp <;> omega

theorem length_lower_le (columns : Alignment) : (lower columns).length ≤ (upper columns).length + cost columns := by
  induction columns with
  | nil => exact Nat.zero_le _
  | cons column columns ih => cases column <;> simp <;> omega

/-- Some alignment of the two texts has this cost, and none costs less. -/
structure Least (count : Nat) (a b : Text) : Prop where
  attained : Attains count a b
  least : ∀ other, Attains other a b → count ≤ other

theorem Least.unique {other : Nat} (h : Least count a b) (h' : Least other a b) : count = other :=
  Nat.le_antisymm (h.least other h'.attained) (h'.least count h.attained)

/-- All characters are deleted where nothing is to be left. -/
theorem least_nil_right (a : Text) : Least a.length a [] where
  attained := by
    induction a with
    | nil => exact ⟨[], rfl, rfl, rfl⟩
    | cons c a ih =>
        obtain ⟨columns, hupper, hlower, hcost⟩ := ih
        exact ⟨.deleted c :: columns, by simp [hupper], by simp [hlower], by simp [hcost]⟩
  least := by
    rintro other ⟨columns, rfl, hlower, rfl⟩
    have hle := length_upper_le columns
    rwa [hlower, List.length_nil, Nat.zero_add] at hle

theorem least_nil_left (b : Text) : Least b.length [] b where
  attained := by
    induction b with
    | nil => exact ⟨[], rfl, rfl, rfl⟩
    | cons d b ih =>
        obtain ⟨columns, hupper, hlower, hcost⟩ := ih
        exact ⟨.inserted d :: columns, by simp [hupper], by simp [hlower], by simp [hcost]⟩
  least := by
    rintro other ⟨columns, hupper, rfl, rfl⟩
    have hle := length_lower_le columns
    rwa [hupper, List.length_nil, Nat.zero_add] at hle

/-- A text aligned with itself costs nothing. -/
theorem least_self (text : Text) : Least 0 text text where
  attained := by
    induction text with
    | nil => exact ⟨[], rfl, rfl, rfl⟩
    | cons c text ih =>
        obtain ⟨columns, hupper, hlower, hcost⟩ := ih
        exact ⟨.paired c c :: columns, by simp [hupper], by simp [hlower], by simp [hcost]⟩
  least := fun _ _ => Nat.zero_le _

/-- The least cost comes from those of the three pairs of texts without the last column. -/
theorem Least.step {above left diagonal : Nat} {c d : Char} (habove : Least above a (b ++ [d]))
    (hleft : Least left (a ++ [c]) b) (hdiagonal : Least diagonal a b) :
    Least (min (min (above + 1) (left + 1)) (diagonal + if c = d then 0 else 1)) (a ++ [c]) (b ++ [d]) where
  attained := by
    have hdeleted := attains_deleted c habove.attained
    have hinserted := attains_inserted d hleft.attained
    have hpaired := attains_paired c d hdiagonal.attained
    rcases Nat.le_total (min (above + 1) (left + 1)) (diagonal + if c = d then 0 else 1) with hle | hle
    · rw [Nat.min_eq_left hle]
      rcases Nat.le_total (above + 1) (left + 1) with hle | hle
      · rwa [Nat.min_eq_left hle]
      · rwa [Nat.min_eq_right hle]
    · rwa [Nat.min_eq_right hle]
  least := by
    intro other hother
    rcases attains_concat_cases hother with ⟨n, hn, rfl⟩ | ⟨n, hn, rfl⟩ | ⟨n, hn, rfl⟩
    · have hle := habove.least n hn
      omega
    · have hle := hleft.least n hn
      omega
    · have hle := hdiagonal.least n hn
      omega

/-- The least cost is the length of a shortest script. -/
theorem Least.isShortest (h : Least count a b) :
    Script count a b ∧ ∀ other, Script other a b → count ≤ other := by
  constructor
  · obtain ⟨columns, rfl, rfl, rfl⟩ := h.attained
    exact script columns
  · intro other hscript
    obtain ⟨columns, rfl, hlower, hcost⟩ := (least_self a).attained
    obtain ⟨changed, hupper, hb, hle⟩ := exists_of_script (hlower.symm ▸ hscript)
    have hcount := h.least (cost changed) ⟨changed, hupper, hb, rfl⟩
    omega

end Alignment

end TexMend.Text
