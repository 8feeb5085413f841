import TexMend.Settings.Sections
import TexMend.Proofs.Text.Stretch

/-!
# Sections that are written out and read again

A section is read field by field, and each field is coerced, checked and perhaps rewritten. A section that was accepted
keeps its bounds, so all its fields are accepted again as they are, with one exception: an address is checked before its
slashes are taken off, and of an address without a host only the scheme is left.
-/

namespace TexMend.Settings

namespace Checked

variable {α β : Type} {name : Text} {a : α} {b : β} {f : Checked (α → β)} {x : Checked α}

/-- An argument that is refused makes no result. -/
theorem exists_of_app (h : f.app x = .ok b) : ∃ g a, f = .ok g ∧ x = .ok a ∧ b = g a := by
  cases f with
  | error e => cases x <;> cases h
  | ok g =>
      cases x with
      | error e => cases h
      | ok a => exact ⟨g, a, rfl, rfl, (Except.ok.inj h).symm⟩

theorem under_eq_ok_iff : under name x = .ok a ↔ x = .ok a := by
  cases x with
  | error e => exact ⟨nofun, nofun⟩
  | ok b => exact Iff.rfl

end Checked

section Fields

variable {α : Type} {name : Text} {default a : α} {read : Reader α} {fields : Fields} {P : α → Prop} {v : Value}

/-- What is true of the default and of all that is read is true of the field. -/
theorem of_fieldOr (hdefault : P default) (hread : ∀ v a, read v = .ok a → P a)
    (h : fieldOr name default read fields = .ok a) : P a := by
  unfold fieldOr at h
  split at h
  · exact hread _ _ (Checked.under_eq_ok_iff.mp h)
  · exact Except.ok.inj h ▸ hdefault

theorem exists_of_fieldNeeded (h : fieldNeeded name read fields = .ok a) :
    ∃ v, Fields.get? name fields = some v ∧ read v = .ok a := by
  unfold fieldNeeded at h
  split at h
  · next v hv => exact ⟨v, hv, Checked.under_eq_ok_iff.mp h⟩
  · cases h

/-- A field that is there is read. -/
theorem fieldOr_of_get? (h : Fields.get? name fields = some v) :
    fieldOr name default read fields = .under name (read v) := by
  rw [fieldOr, h]

theorem fieldNeeded_of_get? (h : Fields.get? name fields = some v) :
    fieldNeeded name read fields = .under name (read v) := by
  rw [fieldNeeded, h]

end Fields

/-! ## Single values -/

section Values

variable {v : Value} {low high n : Int} {x : Double} {t : Text} {most : Number}

/-- An integer between two bounds. -/
def Within (low high n : Int) : Prop :=
  low ≤ n ∧ n ≤ high

theorem readIntWithin_eq_ok_iff : readIntWithin low high v = .ok n ↔ readInt v = .ok n ∧ Within low high n := by
  unfold readIntWithin Within
  cases readInt v with
  | error e => simp
  | ok m =>
      simp only [Except.ok.injEq]
      split
      · simp only [Checked.issue, reduceCtorEq, false_iff]
        omega
      · split
        · simp only [Checked.issue, reduceCtorEq, false_iff]
          omega
        · simp only [Except.ok.injEq]
          omega

/-- A number above zero and up to a bound. -/
def UpTo (most : Number) (x : Double) : Prop :=
  (Number.real x).le most = true ∧ (Number.real x).le (.int 0) = false

theorem readDoubleUpTo_eq_ok_iff : readDoubleUpTo most v = .ok x ↔ readDouble v = .ok x ∧ UpTo most x := by
  unfold readDoubleUpTo UpTo
  cases readDouble v with
  | error e => simp
  | ok y =>
      simp only [Except.ok.injEq]
      split
      · next hmost =>
          refine ⟨nofun, ?_⟩
          rintro ⟨rfl, hx, -⟩
          simp [hx] at hmost
      · split
        · next hzero =>
            refine ⟨nofun, ?_⟩
            rintro ⟨rfl, -, hx⟩
            simp [hx] at hzero
        · next hmost hzero =>
            refine ⟨?_, fun h => congrArg Except.ok h.1⟩
            intro h
            obtain rfl := Except.ok.inj h
            exact ⟨rfl, by simpa using hmost, by simpa using hzero⟩

variable {name : Text} {fields : Fields}

theorem within_of_fieldOr {default : Int} (hdefault : Within low high default)
    (h : fieldOr name default (readIntWithin low high) fields = .ok n) : Within low high n :=
  of_fieldOr hdefault (fun _ _ hread => (readIntWithin_eq_ok_iff.mp hread).2) h

theorem upTo_of_fieldOr {default : Double} (hdefault : UpTo most default)
    (h : fieldOr name default (readDoubleUpTo most) fields = .ok x) : UpTo most x :=
  of_fieldOr hdefault (fun _ _ hread => (readDoubleUpTo_eq_ok_iff.mp hread).2) h

theorem readNonEmpty_eq_ok_iff : readNonEmpty v = .ok t ↔ v = .text t ∧ t ≠ [] := by
  cases v with
  | text given =>
      simp only [readNonEmpty, readText, List.isEmpty_iff]
      split
      · next hempty =>
          refine ⟨nofun, ?_⟩
          rintro ⟨⟨⟩, ht⟩
          exact absurd hempty ht
      · next hfilled =>
          constructor
          · intro h
            obtain rfl := Except.ok.inj h
            exact ⟨rfl, hfilled⟩
          · rintro ⟨⟨⟩, -⟩
            rfl
  | _ => exact ⟨nofun, nofun⟩

section Optional

variable {α : Type} {read : Reader α} {a : α}

theorem readOptional_of_ne_null (h : v ≠ .null) : readOptional read v = (read v).map some := by
  cases v with
  | null => exact absurd rfl h
  | _ => rfl

theorem readOptional_eq_ok_some (h : readOptional read v = .ok (some a)) : read v = .ok a := by
  by_cases hv : v = .null
  · subst hv
    cases h
  · rw [readOptional_of_ne_null hv] at h
    cases hread : read v with
    | error e =>
        rw [hread] at h
        cases h
    | ok b =>
        rw [hread] at h
        obtain rfl := Option.some.inj (Except.ok.inj h)
        rfl

/-- A section that is there is not read as none. -/
theorem readOptional_record_ne : readOptional read (.record fields) ≠ .ok none := by
  rw [readOptional_of_ne_null (v := .record fields) nofun]
  cases read (.record fields) <;> nofun

/-- What is true of all that is read is true of a field that may be none. -/
theorem of_optional_fieldOr {P : α → Prop} {o : Option α} (hread : ∀ v a, read v = .ok a → P a)
    (h : fieldOr name none (readOptional read) fields = .ok o) (ha : o = some a) : P a := by
  subst ha
  unfold fieldOr at h
  split at h
  · exact hread _ _ (readOptional_eq_ok_some (Checked.under_eq_ok_iff.mp h))
  · cases h

end Optional

/-- Every name of a service is read back. -/
theorem readChoice_serviceName (service : ServiceName) :
    readChoice ServiceName.name [.anthropic, .openRouter] (.text service.name) = .ok service := by
  cases service <;> rfl

end Values

/-! ## Addresses -/

section Addresses

variable {v : Value} {t : Text}

/-- What is left of an address that names no host. -/
def bareScheme : Text := "https:"

/-- An address that names no host: behind the scheme there are slashes only. -/
def NamesNoHost (v : Value) : Prop :=
  ∃ n, v = .text (secureScheme ++ List.replicate n '/')

theorem readBaseUrl_eq_ok_iff : readBaseUrl v = .ok t ↔
    ∃ host, v = .text (secureScheme ++ host) ∧ t = Text.dropEndWhile (· == '/') (secureScheme ++ host) := by
  cases v with
  | text given =>
      simp only [readBaseUrl, readText, List.isPrefixOf_iff_prefix]
      split
      · next hscheme =>
          obtain ⟨host, rfl⟩ := hscheme
          constructor
          · intro h
            exact ⟨host, rfl, (Except.ok.inj h).symm⟩
          · rintro ⟨host', hgiven, rfl⟩
            rw [Value.text.inj hgiven]
      · next hscheme =>
          refine ⟨nofun, ?_⟩
          rintro ⟨host, hgiven, -⟩
          exact absurd ⟨host, (Value.text.inj hgiven).symm⟩ hscheme
  | _ => exact ⟨nofun, nofun⟩

/-- An accepted address ends with no slash. -/
theorem getLast?_ne_of_readBaseUrl (h : readBaseUrl v = .ok t) : t.getLast? ≠ some '/' := by
  obtain ⟨host, -, rfl⟩ := readBaseUrl_eq_ok_iff.mp h
  intro hlast
  obtain ⟨before, hbefore⟩ := List.getLast?_eq_some_iff.mp hlast
  have hslash := Text.eq_false_of_dropEndWhile_eq_append hbefore
  simp at hslash

/-- The slashes of the scheme are only taken off with all that stands behind them. -/
theorem readBaseUrl_cases (h : readBaseUrl v = .ok t) :
    (secureScheme <+: t ∧ ¬ NamesNoHost v) ∨ (t = bareScheme ∧ NamesNoHost v) := by
  obtain ⟨host, rfl, rfl⟩ := readBaseUrl_eq_ok_iff.mp h
  by_cases hhost : Text.dropEndWhile (· == '/') host = []
  · right
    obtain ⟨dropped, hdropped, hslashes⟩ := Text.exists_dropEndWhile_append (· == '/') host
    rw [hhost, List.nil_append] at hdropped
    subst hdropped
    have hreplicate : dropped = List.replicate dropped.length '/' :=
      List.eq_replicate_of_mem fun c hc => by simpa using hslashes c hc
    have hsplit : secureScheme ++ dropped = bareScheme ++ ('/' :: '/' :: dropped) := rfl
    have hend : ∀ before c, bareScheme = before ++ [c] → (c == '/') = false := by
      intro before c hbefore
      have hlast : bareScheme.getLast? = some c := hbefore ▸ List.getLast?_concat ..
      obtain rfl : ':' = c := Option.some.inj hlast
      decide
    refine ⟨?_, dropped.length, by rw [← hreplicate]⟩
    rw [hsplit]
    exact Text.dropEndWhile_append_stretch hend (by simpa using hslashes)
  · left
    rw [Text.dropEndWhile_append hhost]
    refine ⟨List.prefix_append _ _, ?_⟩
    rintro ⟨n, hn⟩
    rw [List.append_cancel_left (Value.text.inj hn)] at hhost
    exact hhost (Text.dropEndWhile_eq_nil fun c hc => by simp [List.eq_of_mem_replicate hc])

/-- An accepted address that kept its scheme is accepted as it is. -/
theorem readBaseUrl_text (hscheme : secureScheme <+: t) (hlast : t.getLast? ≠ some '/') :
    readBaseUrl (.text t) = .ok t := by
  obtain ⟨host, rfl⟩ := hscheme
  refine readBaseUrl_eq_ok_iff.mpr ⟨host, rfl, (Text.dropEndWhile_eq_self ?_).symm⟩
  intro before c hbefore
  rw [hbefore, List.getLast?_concat] at hlast
  simpa using hlast

end Addresses

/-! ## Sections -/

/-- The bounds that a section of the second service keeps. -/
structure OpenRouterSettings.InBounds (s : OpenRouterSettings) : Prop where
  apiKey : s.apiKey ≠ []
  topP : UpTo (.int 1) s.topP
  requestTimeout : UpTo (.int 600) s.requestTimeout
  maxAttempts : Within 1 10 s.maxAttempts

/-- The bounds that a section of the assistant keeps, in the sections of the services too. -/
structure AiSettings.InBounds (s : AiSettings) : Prop where
  anthropic : ∀ a, s.anthropic = some a → a.apiKey ≠ []
  openRouter : ∀ o, s.openRouter = some o → o.InBounds
  timeout : UpTo (.int 300) s.timeout
  contextLines : Within 0 50 s.contextLines

section Sections

variable {v : Value} {fields : Fields}

theorem fields_of_readAnthropic {s : AnthropicSettings} (h : readAnthropic (.record fields) = .ok s) :
    fieldNeeded "api_key" readNonEmpty fields = .ok s.apiKey := by
  obtain ⟨_, _, h₃, -, rfl⟩ := Checked.exists_of_app h
  obtain ⟨_, _, h₂, -, rfl⟩ := Checked.exists_of_app h₃
  obtain ⟨_, _, h₁, -, rfl⟩ := Checked.exists_of_app h₂
  obtain ⟨_, _, h₀, hkey, rfl⟩ := Checked.exists_of_app h₁
  obtain rfl := Except.ok.inj h₀
  exact hkey

theorem fields_of_readOpenRouter {s : OpenRouterSettings} (h : readOpenRouter (.record fields) = .ok s) :
    fieldNeeded "api_key" readNonEmpty fields = .ok s.apiKey ∧
      fieldOr "base_url" "https://openrouter.ai/api/v1".toList readBaseUrl fields = .ok s.baseUrl ∧
      fieldOr "top_p" (.ofDecimal false 9 (-1)) (readDoubleUpTo (.int 1)) fields = .ok s.topP ∧
      fieldOr "request_timeout" (.ofDecimal false 60 0) (readDoubleUpTo (.int 600)) fields = .ok s.requestTimeout ∧
      fieldOr "max_attempts" 3 (readIntWithin 1 10) fields = .ok s.maxAttempts := by
  obtain ⟨_, _, h₉, hattempts, rfl⟩ := Checked.exists_of_app h
  obtain ⟨_, _, h₈, htimeout, rfl⟩ := Checked.exists_of_app h₉
  obtain ⟨_, _, h₇, -, rfl⟩ := Checked.exists_of_app h₈
  obtain ⟨_, _, h₆, -, rfl⟩ := Checked.exists_of_app h₇
  obtain ⟨_, _, h₅, htop, rfl⟩ := Checked.exists_of_app h₆
  obtain ⟨_, _, h₄, -, rfl⟩ := Checked.exists_of_app h₅
  obtain ⟨_, _, h₃, -, rfl⟩ := Checked.exists_of_app h₄
  obtain ⟨_, _, h₂, haddress, rfl⟩ := Checked.exists_of_app h₃
  obtain ⟨_, _, h₁, -, rfl⟩ := Checked.exists_of_app h₂
  obtain ⟨_, _, h₀, hkey, rfl⟩ := Checked.exists_of_app h₁
  obtain rfl := Except.ok.inj h₀
  exact ⟨hkey, haddress, htop, htimeout, hattempts⟩

theorem fields_of_readAi {s : AiSettings} (h : readAi (.record fields) = .ok s) :
    fieldOr "anthropic" none (readOptional readAnthropic) fields = .ok s.anthropic ∧
      fieldOr "openrouter" none (readOptional readOpenRouter) fields = .ok s.openRouter ∧
      fieldOr "timeout" (.ofDecimal false 30 0) (readDoubleUpTo (.int 300)) fields = .ok s.timeout ∧
      fieldOr "context_lines" 5 (readIntWithin 0 50) fields = .ok s.contextLines := by
  obtain ⟨_, _, h₅, hcontext, rfl⟩ := Checked.exists_of_app h
  obtain ⟨_, _, h₄, htimeout, rfl⟩ := Checked.exists_of_app h₅
  obtain ⟨_, _, h₃, hopenRouter, rfl⟩ := Checked.exists_of_app h₄
  obtain ⟨_, _, h₂, hanthropic, rfl⟩ := Checked.exists_of_app h₃
  obtain ⟨_, _, h₁, -, rfl⟩ := Checked.exists_of_app h₂
  obtain ⟨_, _, h₀, -, rfl⟩ := Checked.exists_of_app h₁
  obtain rfl := Except.ok.inj h₀
  exact ⟨hanthropic, hopenRouter, htimeout, hcontext⟩

/-- Written out and read again, a section within its bounds gives the same, apart from its address. -/
theorem readOpenRouter_write {s : OpenRouterSettings} (h : s.InBounds) : readOpenRouter (writeOpenRouter s) =
    (Checked.under "base_url" (readBaseUrl (.text s.baseUrl))).map fun address => { s with baseUrl := address } := by
  have hkey : readNonEmpty (.text s.apiKey) = .ok s.apiKey := readNonEmpty_eq_ok_iff.mpr ⟨rfl, h.apiKey⟩
  have htop : readDoubleUpTo (.int 1) (.real s.topP) = .ok s.topP := readDoubleUpTo_eq_ok_iff.mpr ⟨rfl, h.topP⟩
  have htimeout : readDoubleUpTo (.int 600) (.real s.requestTimeout) = .ok s.requestTimeout :=
    readDoubleUpTo_eq_ok_iff.mpr ⟨rfl, h.requestTimeout⟩
  have hattempts : readIntWithin 1 10 (.int s.maxAttempts) = .ok s.maxAttempts :=
    readIntWithin_eq_ok_iff.mpr ⟨rfl, h.maxAttempts⟩
  simp only [readOpenRouter, writeOpenRouter, readSection]
  rw [fieldNeeded_of_get? rfl, fieldOr_of_get? rfl, fieldOr_of_get? rfl, fieldOr_of_get? rfl, fieldOr_of_get? rfl,
    fieldOr_of_get? rfl, fieldOr_of_get? rfl, fieldOr_of_get? rfl, fieldOr_of_get? rfl, fieldOr_of_get? rfl]
  rw [hkey, htop, htimeout, hattempts]
  cases readBaseUrl (.text s.baseUrl) <;> rfl

theorem readAnthropic_write {s : AnthropicSettings} (h : s.apiKey ≠ []) : readAnthropic (writeAnthropic s) = .ok s := by
  have hkey : readNonEmpty (.text s.apiKey) = .ok s.apiKey := readNonEmpty_eq_ok_iff.mpr ⟨rfl, h⟩
  simp only [readAnthropic, writeAnthropic, readSection]
  rw [fieldNeeded_of_get? rfl, fieldOr_of_get? rfl, fieldOr_of_get? rfl, fieldOr_of_get? rfl, hkey]
  rfl

/-- Written out and read again, a section of the assistant within its bounds gives the same, apart from the section of
the second service. -/
theorem readAi_write {s : AiSettings} (h : s.InBounds) : readAi (writeAi s) =
    (Checked.under "openrouter" (readOptional readOpenRouter (writeOptional writeOpenRouter s.openRouter))).map
      fun openRouter => { s with openRouter := openRouter } := by
  have hanthropic : readOptional readAnthropic (writeOptional writeAnthropic s.anthropic) = .ok s.anthropic := by
    cases ha : s.anthropic with
    | none => rfl
    | some a =>
        rw [writeOptional, readOptional_of_ne_null (v := writeAnthropic a) nofun, readAnthropic_write (h.anthropic a ha)]
        rfl
  have htimeout : readDoubleUpTo (.int 300) (.real s.timeout) = .ok s.timeout :=
    readDoubleUpTo_eq_ok_iff.mpr ⟨rfl, h.timeout⟩
  have hcontext : readIntWithin 0 50 (.int s.contextLines) = .ok s.contextLines :=
    readIntWithin_eq_ok_iff.mpr ⟨rfl, h.contextLines⟩
  simp only [readAi, writeAi, readSection]
  rw [fieldOr_of_get? rfl, fieldOr_of_get? rfl, fieldOr_of_get? rfl, fieldOr_of_get? rfl, fieldOr_of_get? rfl,
    fieldOr_of_get? rfl]
  rw [readChoice_serviceName, hanthropic, htimeout, hcontext]
  cases readOptional readOpenRouter (writeOptional writeOpenRouter s.openRouter) <;> rfl

end Sections

/-! ## What was accepted -/

/-- The data are a record in which a field is given and its value is as `P` says. -/
def HasField (name : Text) (P : Value → Prop) (v : Value) : Prop :=
  ∃ fields given, v = .record fields ∧ Fields.get? name fields = some given ∧ P given

/-- The data of a section of the second service give an address that names no host. -/
def GivesNoHost : Value → Prop :=
  HasField "base_url" NamesNoHost

/-- The data of the assistant hold a section that gives an address without a host. -/
def HoldsNoHost : Value → Prop :=
  HasField "openrouter" GivesNoHost

section Accepted

variable {v : Value} {fields : Fields}

theorem apiKey_ne_of_readAnthropic {s : AnthropicSettings} (h : readAnthropic v = .ok s) : s.apiKey ≠ [] := by
  cases v with
  | record fields =>
      obtain ⟨_, -, hread⟩ := exists_of_fieldNeeded (fields_of_readAnthropic h)
      exact (readNonEmpty_eq_ok_iff.mp hread).2
  | _ => cases h

theorem inBounds_of_readOpenRouter {s : OpenRouterSettings} (h : readOpenRouter v = .ok s) : s.InBounds := by
  cases v with
  | record fields =>
      obtain ⟨hkey, -, htop, htimeout, hattempts⟩ := fields_of_readOpenRouter h
      obtain ⟨_, -, hread⟩ := exists_of_fieldNeeded hkey
      have hone : UpTo (.int 1) (.ofDecimal false 9 (-1)) := by unfold UpTo; decide +kernel
      have hminute : UpTo (.int 600) (.ofDecimal false 60 0) := by unfold UpTo; decide +kernel
      have hthree : Within 1 10 3 := by unfold Within; decide
      exact ⟨(readNonEmpty_eq_ok_iff.mp hread).2, upTo_of_fieldOr hone htop, upTo_of_fieldOr hminute htimeout,
        within_of_fieldOr hthree hattempts⟩
  | _ => cases h

theorem inBounds_of_readAi {s : AiSettings} (h : readAi v = .ok s) : s.InBounds := by
  cases v with
  | record fields =>
      obtain ⟨hanthropic, hopenRouter, htimeout, hcontext⟩ := fields_of_readAi h
      have hhalf : UpTo (.int 300) (.ofDecimal false 30 0) := by unfold UpTo; decide +kernel
      have hfive : Within 0 50 5 := by unfold Within; decide
      exact ⟨fun _ => of_optional_fieldOr (fun _ _ => apiKey_ne_of_readAnthropic) hanthropic,
        fun _ => of_optional_fieldOr (fun _ _ => inBounds_of_readOpenRouter) hopenRouter,
        upTo_of_fieldOr hhalf htimeout, within_of_fieldOr hfive hcontext⟩
  | _ => cases h

theorem hasField_record_iff {name : Text} {P : Value → Prop} :
    HasField name P (.record fields) ↔ ∃ given, Fields.get? name fields = some given ∧ P given := by
  constructor
  · rintro ⟨_, given, ⟨⟩, hget, hgiven⟩
    exact ⟨given, hget, hgiven⟩
  · rintro ⟨given, hget, hgiven⟩
    exact ⟨fields, given, rfl, hget, hgiven⟩

/-- An accepted section keeps the secure scheme unless its data name no host, and then it keeps nothing else. -/
theorem baseUrl_cases {s : OpenRouterSettings} (h : readOpenRouter v = .ok s) : s.baseUrl.getLast? ≠ some '/' ∧
    ((secureScheme <+: s.baseUrl ∧ ¬ GivesNoHost v) ∨ (s.baseUrl = bareScheme ∧ GivesNoHost v)) := by
  cases v with
  | record fields =>
      obtain ⟨-, haddress, -⟩ := fields_of_readOpenRouter h
      rw [GivesNoHost, hasField_record_iff]
      cases hgiven : Fields.get? "base_url" fields with
      | none =>
          rw [fieldOr, hgiven] at haddress
          rw [← Except.ok.inj haddress]
          exact ⟨by decide, .inl ⟨by decide, nofun⟩⟩
      | some given =>
          rw [fieldOr_of_get? hgiven, Checked.under_eq_ok_iff] at haddress
          simp only [Option.some.injEq, exists_eq_left']
          exact ⟨getLast?_ne_of_readBaseUrl haddress, readBaseUrl_cases haddress⟩
  | _ => cases h

/-- The section of the second service is the one that the data of the assistant hold, or neither is there. -/
theorem openRouter_cases {s : AiSettings} (h : readAi v = .ok s) : (s.openRouter = none ∧ ¬ HoldsNoHost v) ∨
    ∃ inner o, s.openRouter = some o ∧ readOpenRouter inner = .ok o ∧ (HoldsNoHost v ↔ GivesNoHost inner) := by
  cases v with
  | record fields =>
      obtain ⟨-, hopenRouter, -⟩ := fields_of_readAi h
      rw [HoldsNoHost, hasField_record_iff]
      cases hgiven : Fields.get? "openrouter" fields with
      | none =>
          rw [fieldOr, hgiven] at hopenRouter
          exact .inl ⟨(Except.ok.inj hopenRouter).symm, nofun⟩
      | some inner =>
          rw [fieldOr_of_get? hgiven, Checked.under_eq_ok_iff] at hopenRouter
          simp only [Option.some.injEq, exists_eq_left']
          cases hsection : s.openRouter with
          | none =>
              rw [hsection] at hopenRouter
              refine .inl ⟨rfl, ?_⟩
              rintro ⟨data, _, rfl, -⟩
              exact readOptional_record_ne hopenRouter
          | some o =>
              rw [hsection] at hopenRouter
              exact .inr ⟨inner, o, rfl, readOptional_eq_ok_some hopenRouter, Iff.rfl⟩
  | _ => cases h

end Accepted

/-- The issue of an address that is not secure. -/
def insecureIssue (path : List Text) : Issue :=
  ⟨path, .valueError "OpenRouter base_url must use https"⟩

/-- A section that is written out is read back as the same, unless its address has `lost` its host: then it is refused
for what stands at `path`, and for nothing else. -/
structure ReadsBackUnless {α : Type} (lost : Prop) (read : Reader α) (write : α → Value) (path : List Text) (s : α) :
    Prop where
  same : ¬ lost → read (write s) = .ok s
  refused : lost → read (write s) = .error [insecureIssue path]

section ReadBack

variable {v : Value}

theorem readsBack_openRouter {s : OpenRouterSettings} (h : readOpenRouter v = .ok s) :
    ReadsBackUnless (GivesNoHost v) readOpenRouter writeOpenRouter ["base_url"] s := by
  have hwrite := readOpenRouter_write (inBounds_of_readOpenRouter h)
  obtain ⟨hlast, ⟨hsecure, hhost⟩ | ⟨hbare, hnone⟩⟩ := baseUrl_cases h
  · refine ⟨fun _ => ?_, fun hnone => absurd hnone hhost⟩
    rw [hwrite, readBaseUrl_text hsecure hlast]
    rfl
  · refine ⟨fun hhost => absurd hnone hhost, fun _ => ?_⟩
    rw [hwrite, hbare]
    rfl

theorem readsBack_ai {s : AiSettings} (h : readAi v = .ok s) :
    ReadsBackUnless (HoldsNoHost v) readAi writeAi ["openrouter", "base_url"] s := by
  have hwrite := readAi_write (inBounds_of_readAi h)
  obtain ⟨hsection, hhost⟩ | ⟨inner, o, hsection, hinner, hiff⟩ := openRouter_cases h
  · refine ⟨fun _ => ?_, fun hnone => absurd hnone hhost⟩
    rw [hwrite, hsection]
    cases s
    subst hsection
    rfl
  · have hread : readOptional readOpenRouter (writeOptional writeOpenRouter s.openRouter) =
        (readOpenRouter (writeOpenRouter o)).map some := by
      rw [hsection, writeOptional, readOptional_of_ne_null (v := writeOpenRouter o) nofun]
    obtain ⟨hsame, hrefused⟩ := readsBack_openRouter hinner
    rw [← hiff] at hsame hrefused
    constructor
    · intro hhost
      rw [hwrite, hread, hsame hhost]
      cases s
      subst hsection
      rfl
    · intro hnone
      rw [hwrite, hread, hrefused hnone]
      rfl

end ReadBack

/-- An accepted section keeps its bounds, and its address ends with no slash. Written out with all its fields and read
again it is accepted as the same, in the section of the assistant too, except if an address was given that names no
host: of that one only the scheme is left, and the section is refused for it. -/
theorem sections_read_back (v : Value) :
    (∀ s, readOpenRouter v = .ok s → s.InBounds ∧ s.baseUrl.getLast? ≠ some '/' ∧
      (secureScheme <+: s.baseUrl ↔ ¬ GivesNoHost v) ∧
      ReadsBackUnless (GivesNoHost v) readOpenRouter writeOpenRouter ["base_url"] s) ∧
    ∀ s, readAi v = .ok s → s.InBounds ∧
      (∀ o, s.openRouter = some o → o.baseUrl.getLast? ≠ some '/' ∧ (secureScheme <+: o.baseUrl ↔ ¬ HoldsNoHost v)) ∧
      ReadsBackUnless (HoldsNoHost v) readAi writeAi ["openrouter", "base_url"] s := by
  have haddress {v : Value} {s : OpenRouterSettings} (h : readOpenRouter v = .ok s) :
      s.baseUrl.getLast? ≠ some '/' ∧ (secureScheme <+: s.baseUrl ↔ ¬ GivesNoHost v) := by
    obtain ⟨hlast, ⟨hsecure, hhost⟩ | ⟨hbare, hnone⟩⟩ := baseUrl_cases h
    · exact ⟨hlast, iff_of_true hsecure hhost⟩
    · have hlost : ¬ secureScheme <+: s.baseUrl := by
        rw [hbare]
        decide
      exact ⟨hlast, iff_of_false hlost (not_not_intro hnone)⟩
  refine ⟨fun s h => ⟨inBounds_of_readOpenRouter h, (haddress h).1, (haddress h).2, readsBack_openRouter h⟩,
    fun s h => ⟨inBounds_of_readAi h, ?_, readsBack_ai h⟩⟩
  intro o ho
  obtain ⟨hsection, -⟩ | ⟨inner, o', hsection, hinner, hiff⟩ := openRouter_cases h
  · rw [hsection] at ho
    cases ho
  · rw [hsection] at ho
    obtain rfl := Option.some.inj ho
    rw [hiff]
    exact haddress hinner

/-- Data of a section with fields that are coerced. -/
def serviceData (address : Text) : Value :=
  .record [("api_key", .text "k"), ("base_url", .text address), ("max_attempts", .text " 4 "), ("top_p", .bool true)]

/-- The section that such data give. -/
def service (address : Text) : OpenRouterSettings :=
  { apiKey := "k", baseUrl := address, maxAttempts := 4, topP := .ofInt 1 }

/-- Texts, truth values and integers are coerced, slashes are taken off, and what comes out is read back. -/
theorem sections_read_back_coerced :
    let data : Value :=
      .record [("enabled", .text "yes"), ("timeout", .int 20), ("openrouter", serviceData "https://example.com/api//")]
    let s : AiSettings :=
      { enabled := true, timeout := .ofInt 20, openRouter := some (service "https://example.com/api") }
    readOpenRouter (serviceData "https://example.com/api//") = .ok (service "https://example.com/api") ∧
      readOpenRouter (writeOpenRouter (service "https://example.com/api")) = .ok (service "https://example.com/api") ∧
      readAi data = .ok s ∧ readAi (writeAi s) = .ok s := by
  intro data s
  have hservice : readOpenRouter (serviceData "https://example.com/api//") =
      .ok (service "https://example.com/api") := by decide +kernel
  have hai : readAi data = .ok s := by decide +kernel
  obtain ⟨-, -, hsecure, hback⟩ := (sections_read_back _).1 _ hservice
  obtain ⟨-, haddress, hwhole⟩ := (sections_read_back data).2 s hai
  have hscheme : secureScheme <+: (service "https://example.com/api").baseUrl := by decide
  exact ⟨hservice, hback.same (hsecure.mp hscheme), hai, hwhole.same ((haddress _ rfl).2.mp hscheme)⟩

/-- An address of nothing but the scheme and slashes is accepted, but what is left of it is neither secure nor accepted
again. -/
theorem bare_address_not_read_back :
    readOpenRouter (serviceData "https://") = .ok (service "https:") ∧
      ¬ secureScheme <+: (service "https:").baseUrl ∧
      readOpenRouter (writeOpenRouter (service "https:")) = .error [insecureIssue ["base_url"]] := by
  decide +kernel

end TexMend.Settings
