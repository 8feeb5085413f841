import TexMend.Journal.Entry
import TexMend.Proofs.Secret.StandardRedactor

/-!
# What an entry holds

Every field of an entry comes from the call, from the bound values, from a trace or from the library itself. Masking
keeps the keys, masks each text by itself and leaves it to the values whether a trace is asked for.
-/

namespace TexMend

namespace Fields

variable {P : Text × Value → Prop} {key other : Text} {value : Value} {fields news : Fields}

theorem forall_put (hfields : ∀ field ∈ fields, P field) (hnew : P (key, value)) :
    ∀ field ∈ put key value fields, P field := by
  induction fields with
  | nil =>
      rw [put, List.forall_mem_singleton]
      exact hnew
  | cons first rest ih =>
      obtain ⟨k, v⟩ := first
      rw [List.forall_mem_cons] at hfields
      rw [put]
      split
      · next hkey =>
          rw [List.forall_mem_cons, hkey]
          exact ⟨hnew, hfields.2⟩
      · rw [List.forall_mem_cons]
        exact ⟨hfields.1, ih hfields.2⟩

theorem forall_putDefault (hfields : ∀ field ∈ fields, P field) (hnew : P (key, value)) :
    ∀ field ∈ putDefault key value fields, P field := by
  unfold putDefault
  split
  · exact hfields
  · exact forall_put hfields hnew

theorem forall_foldl {add : Fields → Text × Value → Fields}
    (hadd : ∀ acc new, (∀ field ∈ acc, P field) → P new → ∀ field ∈ add acc new, P field)
    (hfields : ∀ field ∈ fields, P field) (hnews : ∀ new ∈ news, P new) :
    ∀ field ∈ news.foldl add fields, P field := by
  induction news generalizing fields with
  | nil => exact hfields
  | cons new news ih =>
      rw [List.forall_mem_cons] at hnews
      exact ih (hadd fields new hfields hnews.1) hnews.2

theorem forall_putAll (hfields : ∀ field ∈ fields, P field) (hnews : ∀ new ∈ news, P new) :
    ∀ field ∈ putAll fields news, P field :=
  forall_foldl (fun _ _ hacc hnew => forall_put hacc hnew) hfields hnews

theorem forall_eraseAll (keys : List Text) (hfields : ∀ field ∈ fields, P field) :
    ∀ field ∈ keys.foldl (fun acc k => erase k acc) fields, P field := by
  induction keys generalizing fields with
  | nil => exact hfields
  | cons k keys ih => exact ih fun field hfield => hfields field (List.mem_filter.mp hfield).1

theorem forall_erase (h : ∀ field ∈ fields, field.1 ≠ key → P field) : ∀ field ∈ erase key fields, P field := by
  intro field hfield
  obtain ⟨hmem, hne⟩ := List.mem_filter.mp hfield
  exact h field hmem (by simpa using hne)

@[simp] theorem get?_put_self : get? key (put key value fields) = some value := by
  induction fields with
  | nil => simp [put, get?]
  | cons first rest ih =>
      obtain ⟨k, v⟩ := first
      by_cases hkey : k = key
      · simp [put, get?, hkey]
      · simp [put, get?, hkey, ih]

theorem get?_put_of_ne (h : other ≠ key) : get? other (put key value fields) = get? other fields := by
  induction fields with
  | nil => simp [put, get?, h.symm]
  | cons first rest ih =>
      obtain ⟨k, v⟩ := first
      by_cases hkey : k = key
      · simp [put, get?, hkey, h.symm]
      · simp [put, get?, hkey, ih]

theorem get?_erase_of_ne (h : other ≠ key) : get? other (erase key fields) = get? other fields := by
  induction fields with
  | nil => rfl
  | cons first rest ih =>
      obtain ⟨k, v⟩ := first
      rw [erase] at ih ⊢
      by_cases hkey : k = key
      · simp [get?, hkey, h.symm, ih]
      · simp [get?, hkey, ih]

theorem mem_of_get? (h : get? key fields = some value) : (key, value) ∈ fields := by
  induction fields with
  | nil => cases h
  | cons first rest ih =>
      obtain ⟨k, v⟩ := first
      rw [get?] at h
      split at h
      · next hkey =>
          obtain rfl := Option.some.inj h
          rw [hkey]
          exact List.mem_cons_self
      · exact List.mem_cons_of_mem _ (ih h)

end Fields

namespace Journal

variable {P : Text × Value → Prop} {bound values entry : Fields} {event logger timestamp : Text} {level : Level}

/-- What is true of every field that an entry is made of is true of every field of the entry. -/
theorem forall_assemble (hbound : ∀ field ∈ bound, P field) (hvalues : ∀ field ∈ values, P field)
    (hevent : P ("event", .text event)) (hservice : P ("service", .text serviceName))
    (hversion : P ("version", .text version)) (hlogger : P ("logger", .text logger))
    (hlevel : P ("level", .text level.name)) (htimestamp : P ("timestamp", .text timestamp)) :
    ∀ field ∈ assemble bound values event logger level timestamp, P field := by
  have hown := Fields.forall_put hvalues hevent
  have hall : ∀ field ∈ bound.foldl (fun acc new => Fields.putDefault new.1 new.2 acc)
      (Fields.put "event" (.text event) values), P field :=
    Fields.forall_foldl (fun _ _ hacc hnew => Fields.forall_putDefault hacc hnew) hown hbound
  have hserved := Fields.forall_putDefault (Fields.forall_putDefault hall hservice) hversion
  exact Fields.forall_put (Fields.forall_put (Fields.forall_put hserved hlogger) hlevel) htimestamp

section Trace

variable {request shown other trace : Text} {traced : Option Text}

/-- A trace takes the place of the field that asks for it. -/
theorem forall_putTrace (hentry : ∀ field ∈ entry, field.1 ≠ request → P field)
    (htrace : asks request entry = true → ∀ t, traced = some t → P (shown, .text t)) :
    ∀ field ∈ putTrace request shown traced entry, P field := by
  have hrest := Fields.forall_erase hentry
  unfold putTrace
  cases traced with
  | none => exact hrest
  | some t =>
      dsimp only
      split
      · next hasks => exact Fields.forall_put hrest (htrace hasks t rfl)
      · exact hrest

theorem get?_putTrace_of_asks (h : asks request entry = true) :
    Fields.get? shown (putTrace request shown (some trace) entry) = some (.text trace) := by
  rw [putTrace, if_pos h, Fields.get?_put_self]

/-- Asking for one trace says nothing about the other. -/
theorem asks_putTrace (hrequest : other ≠ request) (hshown : other ≠ shown) :
    asks other (putTrace request shown traced entry) = asks other entry := by
  have hrest : Fields.get? other (Fields.erase request entry) = Fields.get? other entry :=
    Fields.get?_erase_of_ne hrequest
  unfold putTrace asks
  cases traced with
  | none => rw [hrest]
  | some t =>
      dsimp only
      split
      · rw [Fields.get?_put_of_ne hshown, hrest]
      · rw [hrest]

end Trace

/-- Masking keeps the keys and masks the values one by one. -/
theorem maskFields_eq_map (fields : Fields) :
    maskFields fields = fields.map fun field => (field.1, maskValue field.2) := by
  induction fields with
  | nil => rfl
  | cons field fields ih => rw [maskFields, ih, List.map_cons]

theorem get?_maskFields (key : Text) (fields : Fields) :
    Fields.get? key (maskFields fields) = (Fields.get? key fields).map maskValue := by
  induction fields with
  | nil => rfl
  | cons field fields ih =>
      obtain ⟨k, v⟩ := field
      rw [maskFields, Fields.get?, Fields.get?]
      split
      · rfl
      · exact ih

theorem isEmpty_maskStandard (t : Text) : (Secret.Redactor.maskStandard t).isEmpty = t.isEmpty := by
  have hmasks := Secret.Redactor.maskStandard_masks t
  generalize Secret.Redactor.maskStandard t = masked at hmasks ⊢
  cases hmasks with
  | nil => rfl
  | keep => rfl
  | mask hsecret =>
      obtain ⟨c, rest, rfl⟩ := List.exists_cons_of_ne_nil hsecret.1
      rfl

/-- Masking makes nothing of a value void. -/
theorem isVoid_maskValue (v : Value) : (maskValue v).isVoid = v.isVoid := by
  cases v with
  | text t => exact isEmpty_maskStandard t
  | list items => cases items <;> rfl
  | tuple items => cases items <;> rfl
  | record fields => cases fields <;> rfl
  | null | bool b | int n | real x => rfl

theorem asks_maskFields (request : Text) (entry : Fields) : asks request (maskFields entry) = asks request entry := by
  rw [asks, asks, get?_maskFields, Option.any_map]
  congr 1
  funext v
  exact congrArg not (isVoid_maskValue v)

/-- The trace of a failure is asked for before the texts are masked. -/
theorem asks_failure (m : Moment) (entry : Fields) :
    asks "exc_info" (maskFields (putTrace "stack_info" "stack" (some m.calls) entry)) = asks "exc_info" entry := by
  rw [asks_maskFields, asks_putTrace (by decide) (by decide)]

/-- A trace of a failure is shown as it is. -/
theorem get?_finish_of_asks {m : Moment} {trace : Text} (h : asks "exc_info" entry = true)
    (hfailure : m.failure = some trace) : Fields.get? "exception" (finish m entry) = some (.text trace) := by
  rw [finish, hfailure]
  exact get?_putTrace_of_asks ((asks_failure m entry).trans h)

end Journal

end TexMend
