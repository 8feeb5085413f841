import TexMend.Proofs.Secret.Masking

/-!
# The redactor that is used without being asked for

None of the standard kinds holds a bracket, none of them occurs in the word between the brackets of the
standard placeholder, and none takes the empty text. So masking is final after one run.
-/

namespace TexMend.Secret.Redactor

/-- The standard placeholder and its two brackets. -/
def standardFrame : Frame := ⟨'[', "REDACTED", ']'⟩

theorem standardFrame_text : standardFrame.text = standardPlaceholder := by decide

theorem standardKinds_clear : ∀ kind ∈ standardKinds, kind.shape.Clears standardFrame := by
  have hleft : ∀ kind ∈ standardKinds, kind.shape.admits '[' = false := by decide
  have hright : ∀ kind ∈ standardKinds, kind.shape.admits ']' = false := by decide
  have hinner : ∀ kind ∈ standardKinds, kind.shape.occurs "REDACTED" = false := by decide
  have hempty : ∀ kind ∈ standardKinds, kind.shape.after? [] = none := by decide
  intro kind hk
  exact ⟨hleft kind hk, hright kind hk, hinner kind hk, hempty kind hk⟩

/-- The standard placeholder is a template without escapes, so redaction always gives a text. -/
theorem redact_standard (text : Text) : standard.redact text = .ok (maskStandard text) := by
  have htemplate : Template.read? standardPlaceholder = some (standardPlaceholder.map .char) := by
    decide
  have hempty : maskStandard [] = [] := by decide
  cases text with
  | nil => rw [hempty]; rfl
  | cons c cs => simp [redact, standard, htemplate, maskStandard]

/-- Nothing is detected exactly when no standard kind occurs. -/
theorem detect_standard_eq_nil_iff (text : Text) :
    standard.detect text = [] ↔ ∀ kind ∈ standardKinds, kind.shape.occurs text = false := by
  cases text with
  | nil =>
      have hempty : ∀ kind ∈ standardKinds, kind.shape.occurs [] = false := by decide
      exact ⟨fun _ => hempty, fun _ => rfl⟩
  | cons c cs => simp [detect, standard]

theorem maskStandard_eq_mask (text : Text) :
    maskStandard text = mask standardKinds (standardFrame.text.map .char) text := by
  rw [standardFrame_text, maskStandard]

theorem maskStandard_masks (text : Text) :
    MasksSecrets standardPlaceholder standardKinds text (maskStandard text) := by
  rw [maskStandard_eq_mask, ← standardFrame_text]
  exact (mask_spec standardKinds_clear text).1

theorem occurs_maskStandard (text : Text) :
    ∀ kind ∈ standardKinds, kind.shape.occurs (maskStandard text) = false := by
  rw [maskStandard_eq_mask]
  exact (mask_spec standardKinds_clear text).2

/-- No secret is left to detect. -/
theorem detect_maskStandard (text : Text) : standard.detect (maskStandard text) = [] :=
  (detect_standard_eq_nil_iff _).mpr (occurs_maskStandard text)

/-- A text stays as it is exactly when nothing is detected in it. -/
theorem maskStandard_eq_self_iff (text : Text) :
    maskStandard text = text ↔ standard.detect text = [] := by
  rw [detect_standard_eq_nil_iff, maskStandard_eq_mask]
  exact mask_eq_self_iff standardKinds_clear text

/-- Masking twice is masking once. -/
theorem maskStandard_idem (text : Text) : maskStandard (maskStandard text) = maskStandard text :=
  (maskStandard_eq_self_iff _).mpr (detect_maskStandard text)

/-- The standard redactor gives a text in which disjoint secrets are replaced by the placeholder and
nothing else is changed. No text of a standard kind is left anywhere in it, it is the given text exactly
when nothing was detected there, and a second redaction gives the same. -/
theorem redact_standard_removes_secrets (text : Text) :
    ∃ masked, standard.redact text = .ok masked ∧
      MasksSecrets standardPlaceholder standardKinds text masked ∧
      (∀ kind ∈ standardKinds, ∀ part, part <:+: masked → ¬ kind.shape.Takes part) ∧
      standard.detect masked = [] ∧
      (masked = text ↔ standard.detect text = []) ∧
      standard.redact masked = .ok masked := by
  refine ⟨maskStandard text, redact_standard text, maskStandard_masks text, ?_,
    detect_maskStandard text, maskStandard_eq_self_iff text, ?_⟩
  · intro kind hk part hi ht
    simpa [occurs_maskStandard text kind hk] using Shape.occurs_iff.mpr ⟨part, ht, hi⟩
  · rw [redact_standard, maskStandard_idem]

end TexMend.Secret.Redactor
