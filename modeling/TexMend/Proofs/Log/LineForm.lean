import TexMend.Log.Line
import TexMend.Proofs.Text.Occurrence
import TexMend.Proofs.Text.Stretch

/-!
# Forms of log lines

The forms of a line that starts a record, said of the line as a whole and without a scanner. A line starts
what the first form says that it has, in an order of priority, and has at most one such form.
-/

namespace TexMend.Log

/-- The line is made of a file, a run of digits and a rest, with colons between them. -/
structure IsLocated (line file digits rest : Text) : Prop where
  line_eq : line = file ++ ':' :: (digits ++ ':' :: rest)
  file_ne_nil : file ≠ []
  file_chars : ∀ c ∈ file, Text.isAsciiBlank c = false ∧ c ≠ ':'
  digits_ne_nil : digits ≠ []
  digits_chars : ∀ c ∈ digits, Text.isAsciiDigit c = true
  rest_ne_nil : rest ≠ []

/-- The forms of a line that starts a record. -/
inductive LineForm where
  | block
  /-- A line `file:digits:rest`. -/
  | located (file digits rest : Text)
  | warning
  | box

namespace LineForm

/-- The line has the form, whatever other forms it has. -/
def Fits (line : Text) : LineForm → Prop
  | block => ("!" : Text) <+: line
  | located file digits rest => IsLocated line file digits rest
  | warning =>
    ("LaTeX Warning:" : Text) <:+: line ∨
      (("Package" : Text) <:+: line ∧ ("Warning:" : Text) <:+: line)
  | box => ("Overfull" : Text) <+: line ∨ ("Underfull" : Text) <+: line

/-- The place of a form in the order of priority. -/
def rank : LineForm → Nat
  | block => 0
  | located .. => 1
  | warning => 2
  | box => 3

/-- The form decides what the line starts: the line has it and none that comes before it. -/
def Decides (line : Text) (form : LineForm) : Prop :=
  form.Fits line ∧ ∀ earlier : LineForm, earlier.rank < form.rank → ¬ earlier.Fits line

/-- What stands behind the second colon without the blanks in front; of blanks alone the last one. -/
def bareRest (rest : Text) : Text :=
  match rest.dropWhile Text.isAsciiBlank with
  | [] => rest.drop (rest.length - 1)
  | message => message

/-- What a line of the form starts. -/
def trigger : LineForm → Trigger
  | block => .block
  | located file digits rest => .located file digits (bareRest rest)
  | warning => .warning
  | box => .box

end LineForm

section Trigger

variable {line file digits rest : Text}

/-- The parts of a located line can be read off it in one way only. -/
theorem IsLocated.located?_eq (h : IsLocated line file digits rest) :
    located? line = some (file, digits, LineForm.bareRest rest) := by
  obtain ⟨rfl, hfile, hfileChars, hdigits, hdigitChars, hrest⟩ := h
  have hfirst : (file ++ ':' :: (digits ++ ':' :: rest)).takeWhile
      (fun c => !Text.isAsciiBlank c && c != ':') = file := by
    apply Text.takeWhile_append_cons
    · intro c hc
      simp [hfileChars c hc]
    · decide
  have hsecond : (digits ++ ':' :: rest).takeWhile Text.isAsciiDigit = digits :=
    Text.takeWhile_append_cons hdigitChars (by decide)
  simp only [located?, hfirst, List.drop_left, hsecond, List.isEmpty_eq_false_iff.mpr hfile,
    List.isEmpty_eq_false_iff.mpr hdigits, List.isEmpty_eq_false_iff.mpr hrest, Bool.or_self,
    Bool.false_eq_true, if_false, LineForm.bareRest]
  cases rest.dropWhile Text.isAsciiBlank <;> rfl

/-- A line whose parts are found is a located one. -/
theorem exists_isLocated_of_located? {parts : Text × Text × Text} (h : located? line = some parts) :
    ∃ file digits rest, IsLocated line file digits rest := by
  unfold located? at h
  simp only [Text.drop_length_takeWhile] at h
  split at h
  · next behind hbehind =>
      split at h
      · next rest hrest =>
          split at h
          · cases h
          · next hparts =>
              simp only [Bool.or_eq_true, List.isEmpty_iff, not_or] at hparts
              have hline : line.takeWhile (fun c => !Text.isAsciiBlank c && c != ':') ++ ':' :: behind =
                  line := by
                rw [← hbehind, List.takeWhile_append_dropWhile]
              have hdigits : behind.takeWhile Text.isAsciiDigit ++ ':' :: rest = behind := by
                rw [← hrest, List.takeWhile_append_dropWhile]
              refine ⟨line.takeWhile fun c => !Text.isAsciiBlank c && c != ':',
                behind.takeWhile Text.isAsciiDigit, rest, by rw [hdigits, hline], hparts.1.1, ?_,
                hparts.1.2, ?_, hparts.2⟩
              · intro c hc
                simpa using List.mem_takeWhile_imp hc
              · intro c hc
                exact List.mem_takeWhile_imp hc
      · cases h
  · cases h

theorem located?_eq_none_iff :
    located? line = none ↔ ∀ file digits rest, ¬ IsLocated line file digits rest := by
  constructor
  · intro hnone file digits rest hparts
    rw [hparts.located?_eq] at hnone
    cases hnone
  · intro hnot
    cases hlocated : located? line with
    | none => rfl
    | some parts =>
        obtain ⟨file, digits, rest, hparts⟩ := exists_isLocated_of_located? hlocated
        exact absurd hparts (hnot file digits rest)

variable {form : LineForm}

/-- No line has two forms that decide. -/
theorem LineForm.Decides.unique {other : LineForm} (h : form.Decides line) (h' : other.Decides line) :
    form = other := by
  have hrank : form.rank = other.rank := by
    apply Nat.le_antisymm
    · exact Nat.le_of_not_lt fun hlt => h.2 other hlt h'.1
    · exact Nat.le_of_not_lt fun hlt => h'.2 form hlt h.1
  match form, other, hrank with
  | .block, .block, _ => rfl
  | .warning, .warning, _ => rfl
  | .box, .box, _ => rfl
  | .located file digits rest, .located file' digits' rest', _ =>
      have hparts := Option.some.inj ((IsLocated.located?_eq h.1).symm.trans (IsLocated.located?_eq h'.1))
      obtain ⟨rfl, hdigits⟩ := Prod.mk.inj hparts
      obtain ⟨rfl, -⟩ := Prod.mk.inj hdigits
      have hline := (IsLocated.line_eq h.1).symm.trans (IsLocated.line_eq h'.1)
      simp only [List.append_cancel_left_eq, List.cons.injEq, true_and] at hline
      rw [hline]

theorem fits_block_iff : LineForm.block.Fits line ↔ ("!" : Text).isPrefixOf line = true :=
  List.isPrefixOf_iff_prefix.symm

theorem fits_warning_iff : LineForm.warning.Fits line ↔
    (Text.includes "LaTeX Warning:" line ||
      (Text.includes "Package" line && Text.includes "Warning:" line)) = true := by
  simp only [LineForm.Fits, Bool.or_eq_true, Bool.and_eq_true, Text.includes_iff_infix]

theorem fits_box_iff : LineForm.box.Fits line ↔
    (("Overfull" : Text).isPrefixOf line || ("Underfull" : Text).isPrefixOf line) = true := by
  simp only [LineForm.Fits, Bool.or_eq_true, List.isPrefixOf_iff_prefix]

/-- A form decides if the line has it and none of those that come before it. -/
theorem decides_iff : form.Decides line ↔ form.Fits line ∧
    (0 < form.rank → ¬ LineForm.block.Fits line) ∧ (1 < form.rank → located? line = none) ∧
    (2 < form.rank → ¬ LineForm.warning.Fits line) := by
  rw [LineForm.Decides, located?_eq_none_iff]
  constructor
  · rintro ⟨hfits, hfirst⟩
    exact ⟨hfits, hfirst .block, fun hrank file digits rest => hfirst (.located file digits rest) hrank,
      hfirst .warning⟩
  · rintro ⟨hfits, hblock, hlocated, hwarning⟩
    refine ⟨hfits, ?_⟩
    intro earlier hrank
    cases earlier with
    | block => exact hblock hrank
    | located file digits rest => exact hlocated hrank file digits rest
    | warning => exact hwarning hrank
    | box => cases form <;> simp [LineForm.rank] at hrank

/-- A line starts what the form says that decides. -/
theorem ofLine?_of_decides (h : form.Decides line) : Trigger.ofLine? line = some form.trigger := by
  obtain ⟨hfits, hblock, hlocated, hwarning⟩ := decides_iff.mp h
  rw [fits_block_iff] at hblock
  rw [fits_warning_iff] at hwarning
  unfold Trigger.ofLine?
  cases form with
  | block => rw [if_pos (fits_block_iff.mp hfits)]; rfl
  | located file digits rest => rw [if_neg (hblock Nat.zero_lt_one), IsLocated.located?_eq hfits]; rfl
  | warning =>
      rw [if_neg (hblock (by decide)), hlocated (by decide)]
      exact if_pos (fits_warning_iff.mp hfits)
  | box =>
      rw [if_neg (hblock (by decide)), hlocated (by decide)]
      exact (if_neg (hwarning (by decide))).trans (if_pos (fits_box_iff.mp hfits))

/-- A line that starts something has a form that decides. -/
theorem exists_decides_of_ofLine? {trigger : Trigger} (h : Trigger.ofLine? line = some trigger) :
    ∃ form : LineForm, form.Decides line := by
  by_cases hblock : LineForm.block.Fits line
  · exact ⟨.block, decides_iff.mpr ⟨hblock, by simp [LineForm.rank]⟩⟩
  cases hlocated : located? line with
  | some parts =>
      obtain ⟨file, digits, rest, hparts⟩ := exists_isLocated_of_located? hlocated
      exact ⟨.located file digits rest, decides_iff.mpr ⟨hparts, by simp [LineForm.rank, hblock]⟩⟩
  | none =>
      by_cases hwarning : LineForm.warning.Fits line
      · exact ⟨.warning, decides_iff.mpr ⟨hwarning, by simp [LineForm.rank, hblock, hlocated]⟩⟩
      · have hbox : LineForm.box.Fits line := by
          rw [fits_block_iff] at hblock
          rw [fits_warning_iff] at hwarning
          rw [fits_box_iff]
          by_contra hbox
          simp only [Trigger.ofLine?, hblock, hlocated, hwarning, hbox] at h
          cases h
        exact ⟨.box, decides_iff.mpr ⟨hbox, by simp [hblock, hlocated, hwarning]⟩⟩

/-- A line starts something exactly when one of its forms decides, and it starts what that form says. -/
theorem ofLine?_eq_some_iff {trigger : Trigger} :
    Trigger.ofLine? line = some trigger ↔ ∃ form : LineForm, form.Decides line ∧ form.trigger = trigger := by
  constructor
  · intro h
    obtain ⟨form, hform⟩ := exists_decides_of_ofLine? h
    exact ⟨form, hform, Option.some.inj ((ofLine?_of_decides hform).symm.trans h)⟩
  · rintro ⟨form, hform, rfl⟩
    exact ofLine?_of_decides hform

end Trigger

end TexMend.Log
