import Mathlib.Data.List.Infix
import TexMend.Journal.Entry
import TexMend.Proofs.Secret.Clear

/-!
# Lines of JSON without a secret

Braces, commas, colons and quotes keep the strings of a line apart, so a secret in the line stands in one string. In
a string only an escape can make one: a tab is written with the letter at which a token may begin. Masking takes
nothing of that back and adds nothing to it, because it only puts placeholders into a text. A text that is not masked is
there with all its secrets.
-/

namespace TexMend.Json

open Secret (Clear IsSecret standardKinds Masked Frame)
open Secret.Redactor (maskStandard standardFrame standardPlaceholder)

variable {text part : Text}

/-- A character stays as it is, or a backslash comes first. -/
theorem escape_cases (c : Char) : escape c = [c] ∨ ∃ rest, escape c = '\\' :: rest := by
  unfold escape
  split
  any_goals exact .inr ⟨_, rfl⟩
  dsimp only
  split
  · exact .inl rfl
  · split <;> exact .inr ⟨_, rfl⟩

/-- What begins a written text without a backslash begins the text itself, and is written as it is. -/
theorem prefix_of_prefix_flatMap_escape (h : '\\' ∉ part) (hp : part <+: text.flatMap escape) :
    part <+: text ∧ part.flatMap escape = part := by
  induction text generalizing part with
  | nil =>
      obtain rfl := List.prefix_nil.mp hp
      exact ⟨List.nil_prefix, rfl⟩
  | cons c text ih =>
      cases part with
      | nil => exact ⟨List.nil_prefix, rfl⟩
      | cons d part =>
          rw [List.mem_cons, not_or] at h
          rw [List.flatMap_cons] at hp
          rcases escape_cases c with hc | ⟨rest, hc⟩
          · rw [hc, List.singleton_append, List.cons_prefix_cons] at hp
            obtain ⟨rfl, hp⟩ := hp
            obtain ⟨hbegins, hsame⟩ := ih h.2 hp
            refine ⟨List.cons_prefix_cons.mpr ⟨rfl, hbegins⟩, ?_⟩
            rw [List.flatMap_cons, hc, hsame, List.singleton_append]
          · rw [hc, List.cons_append, List.cons_prefix_cons] at hp
            exact absurd hp.1.symm h.1

/-- No secret begins inside the escape of a character of the text. -/
def EscapesApart : Text → Prop
  | [] => True
  | c :: rest =>
    (escape c ≠ [c] → ∀ tail, tail <:+ escape c → tail ≠ [] →
      ∀ secret, IsSecret standardKinds secret → ¬ secret <+: tail ++ rest.flatMap escape) ∧
      EscapesApart rest

theorem EscapesApart.of_append {before : Text} (h : EscapesApart (before ++ text)) : EscapesApart text := by
  induction before with
  | nil => exact h
  | cons c before ih => exact ih h.2

/-- Text that is written as it is may stand in front. -/
theorem EscapesApart.append {before : Text} (hbefore : ∀ c ∈ before, escape c = [c]) (h : EscapesApart text) :
    EscapesApart (before ++ text) := by
  induction before with
  | nil => exact h
  | cons c before ih =>
      exact ⟨fun hc => absurd (hbefore c List.mem_cons_self) hc,
        ih fun d hd => hbefore d (List.mem_cons_of_mem c hd)⟩

/-- A text with a secret in it when it is written has one already, or a secret begins inside an escape. -/
theorem clear_flatMap_escape (hclear : Clear text) (h : EscapesApart text) : Clear (text.flatMap escape) := by
  induction text with
  | nil => exact hclear
  | cons c text ih =>
      intro secret hs hi
      have hbackslash : '\\' ∉ secret := hs.not_mem (by decide)
      rw [List.flatMap_cons] at hi
      rcases Text.infix_append_cases hi with ⟨tail, hsuffix, hne, hp⟩ | hi
      · by_cases hc : escape c = [c]
        · rw [hc] at hsuffix
          have htail : tail = [c] := by
            rcases List.suffix_cons_iff.mp hsuffix with rfl | hnil
            · rfl
            · exact absurd (List.suffix_nil.mp hnil) hne
          have hwritten : secret <+: (c :: text).flatMap escape := by
            rw [List.flatMap_cons, hc, ← htail]
            exact hp
          exact hclear secret hs (prefix_of_prefix_flatMap_escape hbackslash hwritten).1.isInfix
        · exact h.1 hc tail hsuffix hne secret hs hp
      · exact ih (hclear.within (List.suffix_cons c text).isInfix) h.2 secret hs hi

/-- Masking leaves no secret that begins inside an escape, if there was none. -/
theorem EscapesApart.masked {f : Frame} {stays goes : Text → Prop} {masked : Text}
    (hm : Masked f.text stays goes text masked) (h : EscapesApart text)
    (hleft : ∀ kind ∈ standardKinds, kind.shape.admits f.left = false) (hplain : ∀ c ∈ f.text, escape c = [c]) :
    EscapesApart masked := by
  induction hm with
  | nil => exact h
  | mask _ _ ih => exact (ih h.of_append).append hplain
  | @keep c text masked _ tail ih =>
      refine ⟨?_, ih h.2⟩
      intro hc ending hsuffix hne secret hs hp
      apply h.1 hc ending hsuffix hne secret hs
      -- The part of the secret behind the escape was kept, because it reaches no placeholder.
      rcases List.prefix_or_prefix_of_prefix hp (List.prefix_append ending _) with hshort | ⟨part, rfl⟩
      · exact hshort.trans (List.prefix_append ending _)
      · have hp : part <+: masked.flatMap escape := (List.prefix_append_right_inj ending).mp hp
        have hbackslash : '\\' ∉ part := fun hmem => hs.not_mem (by decide) (List.mem_append_right ending hmem)
        have hbracket : f.left ∉ part := fun hmem => hs.not_mem hleft (List.mem_append_right ending hmem)
        obtain ⟨⟨rest, rfl⟩, hsame⟩ := prefix_of_prefix_flatMap_escape hbackslash hp
        obtain ⟨before, rfl, -⟩ := tail.of_append hbracket
        rw [List.flatMap_append, hsame]
        exact (List.prefix_append_right_inj ending).mpr (List.prefix_append part _)

theorem EscapesApart.maskStandard (h : EscapesApart text) : EscapesApart (maskStandard text) := by
  have hm := Secret.Redactor.maskStandard_masks text
  have hplain : (standardFrame.text.all fun c => escape c == [c]) = true := by decide
  rw [← Secret.Redactor.standardFrame_text] at hm
  apply h.masked hm (by decide)
  intro c hc
  exact beq_iff_eq.mp (List.all_eq_true.mp hplain c hc)

/-- The character stays as it is, or no secret can begin inside its escape. -/
def quiet (c : Char) : Bool :=
  escape c == [c] || (escape c).tails.all fun tail =>
    tail.isEmpty || standardKinds.all fun kind => !kind.shape.admitsStart tail

theorem escapesApart_of_quiet (h : text.all quiet = true) : EscapesApart text := by
  induction text with
  | nil => trivial
  | cons c text ih =>
      rw [List.all_cons, Bool.and_eq_true] at h
      refine ⟨?_, ih h.2⟩
      intro hc tail hsuffix hne secret hs
      rw [quiet, beq_eq_false_iff_ne.mpr hc, Bool.false_or, List.all_eq_true] at h
      have htail := h.1 tail ((List.mem_tails tail (escape c)).mpr hsuffix)
      rw [List.isEmpty_eq_false_iff.mpr hne, Bool.false_or, List.all_eq_true] at htail
      apply hs.not_begins
      intro kind hk
      simpa using htail kind hk

section Newline

theorem newline_not_mem_toDigitsCore {fuel n : Nat} {digits : List Char} (h : '\n' ∉ digits) :
    '\n' ∉ Nat.toDigitsCore 16 fuel n digits := by
  induction fuel generalizing n digits with
  | zero => exact h
  | succ fuel ih =>
      have hdigit : ∀ digit : Fin 16, '\n' ≠ Nat.digitChar digit := by decide
      have hfirst : '\n' ∉ Nat.digitChar (n % 16) :: digits :=
        List.not_mem_cons_of_ne_of_not_mem (hdigit ⟨n % 16, Nat.mod_lt n (by decide)⟩) h
      rw [Nat.toDigitsCore]
      split
      · exact hfirst
      · exact ih hfirst

theorem newline_not_mem_escapeUnit (n : Nat) : '\n' ∉ escapeUnit n := by
  have hdigits : '\n' ∉ Nat.toDigits 16 n := newline_not_mem_toDigitsCore List.not_mem_nil
  have hzeros {count : Nat} : '\n' ∉ List.replicate count '0' := by
    intro hmem
    exact absurd (List.eq_of_mem_replicate hmem) (by decide)
  rw [escapeUnit, Text.hexadecimal, List.mem_append, List.mem_append, not_or, not_or]
  exact ⟨by decide, hzeros, hdigits⟩

/-- A character is written on one line. -/
theorem newline_not_mem_escape (c : Char) : '\n' ∉ escape c := by
  unfold escape
  split
  any_goals decide
  next _ hother _ _ _ _ =>
    dsimp only
    split
    · rw [List.mem_singleton]
      exact fun heq => hother heq.symm
    · split
      · exact newline_not_mem_escapeUnit _
      · rw [List.mem_append, not_or]
        exact ⟨newline_not_mem_escapeUnit _, newline_not_mem_escapeUnit _⟩

end Newline

section Line

/-- A comma with a space behind it keeps the pieces of a line apart. -/
theorem clear_joinWith_iff {pieces : List Text} :
    Clear (Text.joinWith ", " pieces) ↔ ∀ piece ∈ pieces, Clear piece := by
  induction pieces with
  | nil => simp [Text.joinWith, Secret.clear_nil]
  | cons piece pieces ih =>
      cases pieces with
      | nil => simp [Text.joinWith]
      | cons next rest =>
          have hjoin : Text.joinWith ", " (piece :: next :: rest) =
              piece ++ ',' :: ' ' :: Text.joinWith ", " (next :: rest) := by
            simp [Text.joinWith]
          rw [hjoin, Secret.clear_append_cons_iff (by decide), Secret.clear_cons_iff (by decide), ih]
          exact List.forall_mem_cons.symm

/-- The quotes keep the key and the text of a field apart. -/
theorem clear_field_iff {key : Text} :
    Clear (writeString key ++ ": " ++ writeString text) ↔
      Clear (key.flatMap escape) ∧ Clear (text.flatMap escape) := by
  have hfield : writeString key ++ ": " ++ writeString text =
      '"' :: (key.flatMap escape ++ '"' :: ':' :: ' ' :: '"' :: (text.flatMap escape ++ ['"'])) := by
    simp [writeString]
  have hcolon : ∀ c, (':' :: ' ' :: '"' :: (text.flatMap escape ++ ['"'])).head? = some c →
      Secret.isTokenChar c = false := by
    rintro c ⟨⟩
    decide
  rw [hfield, Secret.clear_cons_iff (by decide), Secret.clear_append_quote_iff hcolon,
    Secret.clear_cons_iff (by decide), Secret.clear_cons_iff (by decide), Secret.clear_cons_iff (by decide),
    Secret.clear_append_quote_iff (by simp)]
  simp [Secret.clear_nil]

/-- A field whose key and text have no secret as they are written. -/
def ClearField (field : Text × Value) : Prop :=
  ∃ t, field.2 = .text t ∧ Clear (field.1.flatMap escape) ∧ Clear (t.flatMap escape)

/-- A line is clear if all strings in it are. -/
theorem clear_write_record {fields : Fields} (h : ∀ field ∈ fields, ClearField field) :
    Clear (write (.record fields)) := by
  have hpieces : ∀ piece ∈ writeFields fields, Clear piece := by
    induction fields with
    | nil => simp [writeFields]
    | cons field fields ih =>
        rw [List.forall_mem_cons] at h
        obtain ⟨⟨t, htext, hkey, hvalue⟩, hrest⟩ := h
        obtain ⟨key, value⟩ := field
        obtain rfl : value = .text t := htext
        rw [writeFields, List.forall_mem_cons]
        exact ⟨clear_field_iff.mpr ⟨hkey, hvalue⟩, ih hrest⟩
  have hline : write (.record fields) = '\x7b' :: (Text.joinWith ", " (writeFields fields) ++ ['\x7d']) := by
    simp [write]
  rw [hline, Secret.clear_cons_iff (by decide), Secret.clear_concat_iff (by decide)]
  exact clear_joinWith_iff.mpr hpieces

theorem infix_joinWith {separator piece : Text} {pieces : List Text} (h : piece ∈ pieces) :
    piece <:+: Text.joinWith separator pieces := by
  induction pieces with
  | nil => cases h
  | cons first pieces ih =>
      cases pieces with
      | nil =>
          obtain rfl := List.mem_singleton.mp h
          exact List.infix_rfl
      | cons next rest =>
          rw [Text.joinWith]
          rcases List.mem_cons.mp h with rfl | hlater
          · rw [List.append_assoc]
            exact (List.prefix_append _ _).isInfix
          · exact (ih hlater).trans (List.suffix_append _ _).isInfix

/-- Every text of a record is in its line as it is written. -/
theorem infix_write_record {key : Text} {fields : Fields} (h : (key, .text text) ∈ fields) :
    text.flatMap escape <:+: write (.record fields) := by
  have hpiece : writeString key ++ ": " ++ writeString text ∈ writeFields fields := by
    induction fields with
    | nil => cases h
    | cons field fields ih =>
        obtain ⟨k, v⟩ := field
        rw [writeFields]
        rcases List.mem_cons.mp h with hfirst | hlater
        · obtain ⟨rfl, rfl⟩ := Prod.mk.inj hfirst
          exact List.mem_cons_self
        · exact List.mem_cons_of_mem _ (ih hlater)
  have hwritten : text.flatMap escape <:+: writeString key ++ ": " ++ writeString text := by
    refine ⟨writeString key ++ ": " ++ ['"'], ['"'], ?_⟩
    simp [writeString]
  have hline : write (.record fields) = ['\x7b'] ++ Text.joinWith ", " (writeFields fields) ++ ['\x7d'] := by
    simp [write]
  rw [hline]
  exact hwritten.trans ((infix_joinWith hpiece).trans (List.infix_append _ _ _))

end Line

end TexMend.Json
