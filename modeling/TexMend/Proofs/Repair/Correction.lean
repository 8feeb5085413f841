import TexMend.Proofs.Repair.Proposal
import TexMend.Proofs.Text.Distance

/-!
# Corrections of misspelled commands

The rule corrects the first occurrence of the misspelled command on the line as a text, be it the beginning of a
longer command. A control word has one backslash, at its front, so two occurrences of one never overlap, and the
line that is proposed tells which of them was replaced. So the proposal corrects a whole control word exactly if the
first occurrence is one.
-/

namespace TexMend.Repair

section ControlWord

variable {word word' line : Text}

/-- What follows a control word does not go on with a letter. -/
def EndsWord (rest : Text) : Prop :=
  ∀ c cs, rest = c :: cs → Text.isAsciiLetter c = false

/-- One whole control word of a line is corrected, and all else stays. -/
def CorrectsWord (command correction line new : Text) : Prop :=
  ∃ before after, line = before ++ command ++ after ∧ new = before ++ correction ++ after ∧ EndsWord after

/-- The command is on the line, and its first occurrence is a whole control word. -/
def FirstIsWord (command line : Text) : Prop :=
  ∃ before after, line = before ++ command ++ after ∧ Text.FirstBehind command before line ∧ EndsWord after

/-- The last control word of a text is what stands behind its last backslash. -/
theorem eq_of_last_word {first second : Text} (hword : '\\' ∉ word) (hword' : '\\' ∉ word')
    (h : first ++ '\\' :: word = second ++ '\\' :: word') : word = word' := by
  rcases Text.append_eq_append_cons_cases h with ⟨between, -, hlater⟩ | ⟨between, -, rfl⟩
  · cases between with
    | nil => exact (List.cons.inj hlater).2
    | cons c between =>
        obtain ⟨-, rfl⟩ := List.cons.inj hlater
        simp at hword
  · simp at hword'

/-- A control word that begins again later stands there as a whole, behind the first one. -/
theorem exists_eq_append_of_later {between after rest : Text} (hword : '\\' ∉ word) (hne : between ≠ [])
    (h : '\\' :: word ++ rest = between ++ ('\\' :: word ++ after)) :
    ∃ inner, rest = inner ++ '\\' :: word ++ after := by
  have hsplit : '\\' :: word ++ rest = between ++ '\\' :: (word ++ after) := h
  rcases Text.append_eq_append_cons_cases hsplit with ⟨inner, -, hrest⟩ | ⟨right, hpart, -⟩
  · exact ⟨inner, by rw [hrest, List.append_assoc, List.cons_append]⟩
  · obtain ⟨c, cs, rfl⟩ := List.exists_cons_of_ne_nil hne
    obtain ⟨-, rfl⟩ := List.cons.inj hpart
    simp at hword

/-- Replacing a control word by another one at two places gives two lines. -/
theorem eq_nil_of_same_correction {between after rest : Text} (hword : '\\' ∉ word) (hword' : '\\' ∉ word')
    (hne : word ≠ word') (hline : '\\' :: word ++ rest = between ++ ('\\' :: word ++ after))
    (hnew : '\\' :: word' ++ rest = between ++ ('\\' :: word' ++ after)) : between = [] := by
  by_cases hlater : between = []
  · exact hlater
  · obtain ⟨inner, hrest⟩ := exists_eq_append_of_later hword hlater hline
    obtain ⟨inner', hrest'⟩ := exists_eq_append_of_later hword' hlater hnew
    have hends : inner ++ '\\' :: word = inner' ++ '\\' :: word' := List.append_cancel_right (hrest.symm.trans hrest')
    exact absurd (eq_of_last_word hword hword' hends) hne

/-- The parts of a line around the first occurrence of a command. -/
theorem exists_firstBehind {command : Text} (h : command <:+: line) :
    ∃ before after, line = before ++ command ++ after ∧ Text.FirstBehind command before line := by
  obtain ⟨earlier, later, hline⟩ := h
  have hstands : earlier ++ command <+: line := ⟨later, hline⟩
  obtain ⟨position, hposition⟩ := Option.isSome_iff_exists.mp (Text.isSome_positionOf?_of_stands hstands)
  have hfirst := Text.firstBehind_of_positionOf? hposition
  obtain ⟨after, hafter⟩ := hfirst.stands
  exact ⟨_, after, hafter.symm, hfirst⟩

/-- The first occurrence is the one that is replaced, so it is the control word that is corrected, if one is. -/
theorem correctsWord_replaceFirst_iff (hword : '\\' ∉ word) (hword' : '\\' ∉ word') (hne : word ≠ word') :
    CorrectsWord ('\\' :: word) ('\\' :: word') line (Text.replaceFirst ('\\' :: word) ('\\' :: word') line) ↔
      FirstIsWord ('\\' :: word) line := by
  constructor
  · rintro ⟨earlier, later, hline, hnew, hends⟩
    obtain ⟨before, after, hfirst, hbehind⟩ := exists_firstBehind ⟨earlier, later, hline.symm⟩
    have hstands : earlier ++ '\\' :: word <+: line := ⟨later, hline.symm⟩
    have hbefore : before <+: earlier :=
      List.prefix_of_prefix_length_le ((List.prefix_append before _).trans hbehind.stands)
        ((List.prefix_append earlier _).trans hstands) (hbehind.earliest earlier hstands)
    obtain ⟨between, rfl⟩ := hbefore
    subst hfirst
    rw [hbehind.replaceFirst_eq] at hnew
    simp only [List.append_assoc] at hline hnew
    have hsame : between = [] := eq_nil_of_same_correction hword hword' hne
      (List.append_cancel_left hline) (List.append_cancel_left hnew)
    subst hsame
    have hafter : after = later := List.append_cancel_left (List.append_cancel_left hline)
    exact ⟨before, after, rfl, hbehind, hafter ▸ hends⟩
  · rintro ⟨before, after, rfl, hbehind, hends⟩
    exact ⟨before, after, rfl, hbehind.replaceFirst_eq, hends⟩

/-- The line changes exactly if the command is on it. -/
theorem replaceFirst_ne_iff {command correction : Text} (hne : correction ≠ command) :
    Text.replaceFirst command correction line ≠ line ↔ command <:+: line := by
  constructor
  · intro hchanged
    by_cases hinfix : command <:+: line
    · exact hinfix
    · exact absurd (Text.replaceFirst_of_not_infix hinfix) hchanged
  · intro hinfix hsame
    obtain ⟨before, after, rfl, hbehind⟩ := exists_firstBehind hinfix
    rw [hbehind.replaceFirst_eq] at hsame
    exact hne (List.append_cancel_left (List.append_cancel_right hsame))

end ControlWord

section Table

variable {command correction : Text}

theorem commonTypos_ne : ∀ entry ∈ commonTypos, entry.2 ≠ entry.1 := by decide

/-- A correction is another command. -/
theorem typoFix?_ne (h : typoFix? command = some correction) : correction ≠ command := by
  unfold typoFix? at h
  split at h
  · next value hfound =>
      obtain rfl := Option.some.inj h
      exact commonTypos_ne _ (mem_of_lookUp_eq_some hfound)
  · rintro rfl
    have hone : Text.distance correction correction = 1 := by simpa using List.find?_some h
    rw [Text.distance_self] at hone
    cases hone

theorem head_commonTypos :
    ∀ entry ∈ commonTypos, entry.2.head? = some '\\' ∧ '\\' ∉ entry.2.tail := by decide

theorem head_commonCommands :
    ∀ command ∈ commonCommands, command.head? = some '\\' ∧ '\\' ∉ command.tail := by decide

/-- A correction is a control word. -/
theorem exists_word_of_typoFix? (h : typoFix? command = some correction) :
    ∃ word, correction = '\\' :: word ∧ '\\' ∉ word := by
  have hword : correction.head? = some '\\' ∧ '\\' ∉ correction.tail := by
    unfold typoFix? at h
    split at h
    · next value hfound =>
        obtain rfl := Option.some.inj h
        exact head_commonTypos _ (mem_of_lookUp_eq_some hfound)
    · exact head_commonCommands _ (List.mem_of_find?_eq_some h)
  obtain ⟨word, rfl⟩ := List.head?_eq_some_iff.mp hword.1
  exact ⟨word, rfl, hword.2⟩

end Table

section Rule

variable {r : Record} {lines : Document} {s : Suggestion}

/-- A repair of an undefined command that rewrites a line corrects the command there. -/
theorem exists_correction_of_fix? {command : Text} (hcategory : r.category = .undefinedControlSequence)
    (htoken : token? r = some command) (hfix : fix? r lines = some s)
    (hreplaces : s.edit.action = .replaceLine) :
    ∃ number line correction, typoFix? command = some correction ∧
      pointedLine? r lines = some (number, line) ∧
      s.edit = replaceLine number line (Text.replaceFirst command correction line) := by
  rw [fix?, hcategory] at hfix
  change fixCommand? r lines = some s at hfix
  simp only [fixCommand?, htoken] at hfix
  split at hfix
  · next found himport =>
      obtain rfl := Option.some.inj hfix
      unfold importForCommand? at himport
      split at himport
      · cases himport
      · split at himport
        · cases himport
        · rw [← Option.some.inj himport] at hreplaces
          cases hreplaces
  · unfold correctCommand? at hfix
    split at hfix
    · next correction number line hcorrection hpointed =>
        exact ⟨number, line, correction, hcorrection, hpointed, by rw [← Option.some.inj hfix]; rfl⟩
    · cases hfix

/-- A correction of a command without a second backslash replaces its first occurrence on the line, if there is
one. It rewrites a complete control word exactly if that first occurrence is one, so a longer command that begins
with the misspelled one is altered where it stands first; and it changes the line exactly if the command is on it. -/
theorem correction_hits_word_iff {word : Text} (hcategory : r.category = .undefinedControlSequence)
    (htoken : r.offendingText = some ('\\' :: word)) (hword : '\\' ∉ word) (hfix : fix? r lines = some s)
    (hreplaces : s.edit.action = .replaceLine) :
    ∃ number line correction new, typoFix? ('\\' :: word) = some correction ∧
      pointedLine? r lines = some (number, line) ∧ s.edit = replaceLine number line new ∧
      (∀ before after, line = before ++ '\\' :: word ++ after → Text.FirstBehind ('\\' :: word) before line →
        new = before ++ correction ++ after) ∧
      (CorrectsWord ('\\' :: word) correction line new ↔ FirstIsWord ('\\' :: word) line) ∧
      (new ≠ line ↔ '\\' :: word <:+: line) := by
  have htoken' : token? r = some ('\\' :: word) := by
    rw [token?, htoken]
    rfl
  obtain ⟨number, line, correction, hcorrection, hpointed, hedit⟩ :=
    exists_correction_of_fix? hcategory htoken' hfix hreplaces
  have hdiffers : correction ≠ '\\' :: word := typoFix?_ne hcorrection
  obtain ⟨word', rfl, hword'⟩ := exists_word_of_typoFix? hcorrection
  have hne : word ≠ word' := by
    rintro rfl
    exact hdiffers rfl
  refine ⟨number, line, '\\' :: word', _, hcorrection, hpointed, hedit, ?_, ?_, ?_⟩
  · rintro before after rfl hbehind
    exact hbehind.replaceFirst_eq
  · exact correctsWord_replaceFirst_iff hword hword' hne
  · exact replaceFirst_ne_iff hdiffers

/-- A record of an undefined command on the first line. -/
def undefinedRecord (command : Text) : Record where
  id := "err_1"
  severity := .error
  category := .undefinedControlSequence
  message := "Undefined control sequence"
  rawLog := "! Undefined control sequence."
  file := none
  line := some (1 : Nat)
  offendingText := some command

/-- Of two misspelled commands on a line the first is corrected, as a whole. -/
theorem correction_hits_word_iff_twice :
    ∃ s, fix? (undefinedRecord "\\itm") ["\\itm a \\itm b"] = some s ∧ s.edit.action = .replaceLine ∧
      ∃ new, s.edit.newText = some new ∧ CorrectsWord "\\itm" "\\item" "\\itm a \\itm b" new := by
  have hpointed : pointedLine? (undefinedRecord "\\itm") ["\\itm a \\itm b"] =
      some ((1 : Nat), ("\\itm a \\itm b" : Text)) := rfl
  have hfound : typoFix? "\\itm" = some "\\item" := rfl
  obtain ⟨s, hs, haction⟩ : ∃ s, fix? (undefinedRecord "\\itm") ["\\itm a \\itm b"] = some s ∧
      s.edit.action = .replaceLine := ⟨_, rfl, rfl⟩
  obtain ⟨number, line, correction, new, hcorrection, hline, hedit, -, hword, -⟩ :=
    correction_hits_word_iff rfl rfl (by decide : '\\' ∉ ("itm" : Text)) hs haction
  obtain rfl := Option.some.inj (hcorrection.symm.trans hfound)
  obtain ⟨rfl, rfl⟩ := Prod.mk.inj (Option.some.inj (hline.symm.trans hpointed))
  refine ⟨s, hs, haction, new, by rw [hedit]; rfl, hword.mpr ?_⟩
  refine ⟨[], " a \\itm b", rfl, .of_begins ⟨" a \\itm b", rfl⟩, ?_⟩
  intro c cs hrest
  obtain ⟨rfl, -⟩ := List.cons.inj hrest
  rfl

/-- A longer command that begins with the misspelled one is altered where it stands first, though it is correct. -/
theorem longer_command_altered :
    ∃ s, fix? (undefinedRecord "\\texti") ["\\textit{a} \\texti{b}"] = some s ∧
      s.edit.action = .replaceLine ∧ s.edit.newText = some "\\textitt{a} \\texti{b}" ∧
      ¬ CorrectsWord "\\texti" "\\textit" "\\textit{a} \\texti{b}" "\\textitt{a} \\texti{b}" := by
  refine ⟨_, rfl, rfl, rfl, ?_⟩
  intro hcorrects
  have hfirst : FirstIsWord "\\texti" "\\textit{a} \\texti{b}" :=
    (correctsWord_replaceFirst_iff (by decide : '\\' ∉ ("texti" : Text)) (by decide : '\\' ∉ ("textit" : Text))
      (by decide)).mp hcorrects
  obtain ⟨before, after, hline, hbehind, hends⟩ := hfirst
  obtain rfl := hbehind.unique (.of_begins ⟨"t{a} \\texti{b}", rfl⟩)
  have hsplit : ("\\texti" : Text) ++ ("t{a} \\texti{b}" : Text) = ("\\texti" : Text) ++ after := hline
  have hletter := hends 't' "{a} \\texti{b}" (List.append_cancel_left hsplit).symm
  cases hletter

end Rule

end TexMend.Repair
