import Mathlib.Data.List.Forall2
import TexMend.Proofs.Journal.Entry
import TexMend.Proofs.Secret.Clear

/-!
# What masking does to a value

A value holds texts at any depth. Masking rewrites each of them by itself and keeps everything around them. So the
laws of masking a text carry over to values: no secret is left, a second run changes nothing, and the first one
changes nothing exactly where there was no secret.
-/

namespace TexMend

open Secret (Clear Redactor)

namespace Value

/-- A value is built from its leaves through lists, tuples and records. -/
@[elab_as_elim]
theorem induction {motive : Value → Prop} (null : motive .null) (bool : ∀ b, motive (.bool b))
    (int : ∀ n, motive (.int n)) (real : ∀ x, motive (.real x)) (text : ∀ t, motive (.text t))
    (list : ∀ items, (∀ item ∈ items, motive item) → motive (.list items))
    (tuple : ∀ items, (∀ item ∈ items, motive item) → motive (.tuple items))
    (record : ∀ fields, (∀ field ∈ fields, motive field.2) → motive (.record fields)) (v : Value) :
    motive v := by
  refine Value.rec (motive_1 := motive) (motive_2 := fun items => ∀ item ∈ items, motive item)
    (motive_3 := fun fields => ∀ field ∈ fields, motive field.2) (motive_4 := fun field => motive field.2)
    null bool int real text list tuple record ?_ ?_ ?_ ?_ ?_ v
  · exact List.forall_mem_nil _
  · exact fun _ _ hfirst hrest => List.forall_mem_cons.mpr ⟨hfirst, hrest⟩
  · exact List.forall_mem_nil _
  · exact fun _ _ hfirst hrest => List.forall_mem_cons.mpr ⟨hfirst, hrest⟩
  · exact fun _ _ hvalue => hvalue

/-- A text that the value holds, at any depth. The keys of records are not among them. -/
inductive HasText (t : Text) : Value → Prop
  | text : HasText t (.text t)
  | list {items : List Value} {item : Value} (mem : item ∈ items) (h : HasText t item) : HasText t (.list items)
  | tuple {items : List Value} {item : Value} (mem : item ∈ items) (h : HasText t item) : HasText t (.tuple items)
  | record {fields : Fields} {field : Text × Value} (mem : field ∈ fields) (h : HasText t field.2) :
      HasText t (.record fields)

/-- The same value but for its texts: each gives way to a text that `R` relates to it. Leaves of other kinds, the
kind and the length of every list and tuple, and the keys of every record in their order stay as they are. -/
inductive Rewrites (R : Text → Text → Prop) : Value → Value → Prop
  | null : Rewrites R .null .null
  | bool (b : Bool) : Rewrites R (.bool b) (.bool b)
  | int (n : Int) : Rewrites R (.int n) (.int n)
  | real (x : Double) : Rewrites R (.real x) (.real x)
  | text {old new : Text} (related : R old new) : Rewrites R (.text old) (.text new)
  | list {olds news : List Value} (items : List.Forall₂ (Rewrites R) olds news) :
      Rewrites R (.list olds) (.list news)
  | tuple {olds news : List Value} (items : List.Forall₂ (Rewrites R) olds news) :
      Rewrites R (.tuple olds) (.tuple news)
  | record {olds news : Fields} (keys : news.map Prod.fst = olds.map Prod.fst)
      (values : List.Forall₂ (Rewrites R) (olds.map Prod.snd) (news.map Prod.snd)) :
      Rewrites R (.record olds) (.record news)

section HasText

variable {t : Text} {items : List Value} {fields : Fields}

@[simp] theorem hasText_text_iff {held : Text} : HasText t (.text held) ↔ t = held :=
  ⟨fun h => by cases h; rfl, fun h => h ▸ .text⟩

@[simp] theorem hasText_list_iff : HasText t (.list items) ↔ ∃ item ∈ items, HasText t item :=
  ⟨fun h => by cases h with | list mem h => exact ⟨_, mem, h⟩, fun ⟨_, mem, h⟩ => .list mem h⟩

@[simp] theorem hasText_tuple_iff : HasText t (.tuple items) ↔ ∃ item ∈ items, HasText t item :=
  ⟨fun h => by cases h with | tuple mem h => exact ⟨_, mem, h⟩, fun ⟨_, mem, h⟩ => .tuple mem h⟩

@[simp] theorem hasText_record_iff :
    HasText t (.record fields) ↔ ∃ value ∈ fields.map Prod.snd, HasText t value := by
  simp only [List.mem_map, exists_exists_and_eq_and]
  exact ⟨fun h => by cases h with | record mem h => exact ⟨_, mem, h⟩, fun ⟨_, mem, h⟩ => .record mem h⟩

end HasText

end Value

namespace Journal

open Value (HasText Rewrites)

/-- The second text is what the standard redactor makes of the first. -/
def Redacts (old new : Text) : Prop :=
  Redactor.standard.redact old = .ok new

/-- The second value is the first with every text redacted, and nothing of a standard kind is left in its texts. They
are the same value exactly if nothing was there to detect. -/
structure IsMasked (v masked : Value) : Prop where
  rewrites : Rewrites Redacts v masked
  clear : ∀ t, HasText t masked → Clear t ∧ Redactor.standard.detect t = []
  unchanged_iff : masked = v ↔ ∀ t, HasText t v → Redactor.standard.detect t = []

section Masking

variable {v : Value} {t : Text}

theorem maskItems_eq_map (items : List Value) : maskItems items = items.map maskValue := by
  induction items with
  | nil => rfl
  | cons item items ih => rw [maskItems, ih, List.map_cons]

theorem map_fst_maskFields (fields : Fields) : (maskFields fields).map Prod.fst = fields.map Prod.fst := by
  rw [maskFields_eq_map, List.map_map]
  rfl

theorem map_snd_maskFields (fields : Fields) :
    (maskFields fields).map Prod.snd = (fields.map Prod.snd).map maskValue := by
  rw [maskFields_eq_map, List.map_map, List.map_map]
  rfl

/-- Masking rewrites every text to what the standard redactor makes of it, and changes nothing else. -/
theorem rewrites_maskValue (v : Value) : Rewrites Redacts v (maskValue v) := by
  have hitems {items : List Value} (ih : ∀ item ∈ items, Rewrites Redacts item (maskValue item)) :
      List.Forall₂ (Rewrites Redacts) items (items.map maskValue) :=
    List.forall₂_map_right_iff.mpr (List.forall₂_same.mpr ih)
  induction v using Value.induction with
  | null => exact .null
  | bool b => exact .bool b
  | int n => exact .int n
  | real x => exact .real x
  | text t => exact .text (Redactor.redact_standard t)
  | list items ih =>
      rw [maskValue, maskItems_eq_map]
      exact .list (hitems ih)
  | tuple items ih =>
      rw [maskValue, maskItems_eq_map]
      exact .tuple (hitems ih)
  | record fields ih =>
      refine .record (map_fst_maskFields fields) ?_
      rw [map_snd_maskFields]
      exact hitems (List.forall_mem_map.mpr ih)

/-- The texts of a masked value are the masked texts of the value. -/
theorem hasText_maskValue_iff :
    HasText t (maskValue v) ↔ ∃ held, HasText held v ∧ t = Redactor.maskStandard held := by
  have hitems {items : List Value} (ih : ∀ item ∈ items,
      (HasText t (maskValue item) ↔ ∃ held, HasText held item ∧ t = Redactor.maskStandard held)) :
      (∃ item ∈ items.map maskValue, HasText t item) ↔
        ∃ held, (∃ item ∈ items, HasText held item) ∧ t = Redactor.maskStandard held := by
    simp only [List.mem_map, exists_exists_and_eq_and]
    constructor
    · rintro ⟨item, hitem, h⟩
      obtain ⟨held, hheld, rfl⟩ := (ih item hitem).mp h
      exact ⟨held, ⟨item, hitem, hheld⟩, rfl⟩
    · rintro ⟨held, ⟨item, hitem, hheld⟩, rfl⟩
      exact ⟨item, hitem, (ih item hitem).mpr ⟨held, hheld, rfl⟩⟩
  induction v using Value.induction with
  | null | bool | int | real =>
      constructor
      · intro h
        cases h
      · rintro ⟨_, h, _⟩
        cases h
  | text held => simp [maskValue]
  | list items ih | tuple items ih =>
      simp only [maskValue, maskItems_eq_map, Value.hasText_list_iff, Value.hasText_tuple_iff]
      exact hitems ih
  | record fields ih =>
      simp only [maskValue, Value.hasText_record_iff, map_snd_maskFields]
      exact hitems (List.forall_mem_map.mpr ih)

/-- No text of a masked value holds a secret. -/
theorem clear_of_hasText_maskValue (h : HasText t (maskValue v)) : Clear t := by
  obtain ⟨held, -, rfl⟩ := hasText_maskValue_iff.mp h
  exact Secret.clear_maskStandard held

theorem map_eq_self_iff {α : Type} {f : α → α} {items : List α} :
    items.map f = items ↔ ∀ item ∈ items, f item = item := by
  have h := List.map_inj_left (l := items) (f := f) (g := id)
  rwa [List.map_id] at h

/-- Masking leaves the keys, so a record stays as it is exactly when its values do. -/
theorem maskFields_eq_self_iff {fields : Fields} :
    maskFields fields = fields ↔ (fields.map Prod.snd).map maskValue = fields.map Prod.snd := by
  simp only [maskFields_eq_map, map_eq_self_iff, List.forall_mem_map, Prod.ext_iff, true_and]

/-- A value stays as it is exactly when nothing is detected in its texts. -/
theorem maskValue_eq_self_iff :
    maskValue v = v ↔ ∀ t, HasText t v → Redactor.standard.detect t = [] := by
  have hitems {items : List Value}
      (ih : ∀ item ∈ items, (maskValue item = item ↔ ∀ t, HasText t item → Redactor.standard.detect t = [])) :
      items.map maskValue = items ↔ ∀ t, (∃ item ∈ items, HasText t item) → Redactor.standard.detect t = [] := by
    rw [map_eq_self_iff]
    constructor
    · rintro h t ⟨item, hitem, ht⟩
      exact (ih item hitem).mp (h item hitem) t ht
    · exact fun h item hitem => (ih item hitem).mpr fun t ht => h t ⟨item, hitem, ht⟩
  induction v using Value.induction with
  | null | bool | int | real => exact ⟨fun _ => nofun, fun _ => rfl⟩
  | text held => simp [maskValue, Redactor.maskStandard_eq_self_iff]
  | list items ih | tuple items ih =>
      simp only [maskValue, maskItems_eq_map, Value.list.injEq, Value.tuple.injEq, Value.hasText_list_iff,
        Value.hasText_tuple_iff]
      exact hitems ih
  | record fields ih =>
      simp only [maskValue, Value.record.injEq, maskFields_eq_self_iff, Value.hasText_record_iff]
      exact hitems (List.forall_mem_map.mpr ih)

/-- Masking twice is masking once. -/
theorem maskValue_idem (v : Value) : maskValue (maskValue v) = maskValue v :=
  maskValue_eq_self_iff.mpr fun _ h => Secret.clear_iff_detect.mp (clear_of_hasText_maskValue h)

theorem isMasked_maskValue (v : Value) : IsMasked v (maskValue v) where
  rewrites := rewrites_maskValue v
  clear _ h := ⟨clear_of_hasText_maskValue h, Secret.clear_iff_detect.mp (clear_of_hasText_maskValue h)⟩
  unchanged_iff := maskValue_eq_self_iff

end Masking

/-- Whatever a value is built from, masking it redacts each text at its place and changes nothing else. No secret is
left, a second run changes nothing, and the first one changes nothing exactly where no text held a secret. The fields of
an entry are masked in the same way. -/
theorem values_and_entries_masked :
    (∀ v : Value, IsMasked v (maskValue v) ∧ maskValue (maskValue v) = maskValue v) ∧
      ∀ entry : Fields, IsMasked (.record entry) (.record (maskFields entry)) ∧
        maskFields (maskFields entry) = maskFields entry := by
  refine ⟨fun v => ⟨isMasked_maskValue v, maskValue_idem v⟩, fun entry => ⟨isMasked_maskValue (.record entry), ?_⟩⟩
  exact Value.record.inj (maskValue_idem (.record entry))

/-- An entry with a text inside a list inside a tuple. -/
def nestedEntry (inner : Text) : Fields :=
  [("event", .text "login"), ("token=", .tuple [.int 7, .list [.text "ghp_", .text inner], .null])]

/-- The nested secret is found and masked; the key and the neighbours stay. -/
theorem values_and_entries_masked_nested :
    HasText "token=ABCDEFGHIJKLMNOP" (.record (nestedEntry "token=ABCDEFGHIJKLMNOP")) ∧
      Redactor.standard.detect "token=ABCDEFGHIJKLMNOP" ≠ [] ∧
      maskFields (nestedEntry "token=ABCDEFGHIJKLMNOP") = nestedEntry "[REDACTED]" ∧
      HasText "[REDACTED]" (.record (nestedEntry "[REDACTED]")) ∧ Clear "[REDACTED]" ∧
      maskFields (nestedEntry "token=ABCDEFGHIJKLMNOP") ≠ nestedEntry "token=ABCDEFGHIJKLMNOP" := by
  obtain ⟨hmasked, -⟩ := values_and_entries_masked.2 (nestedEntry "token=ABCDEFGHIJKLMNOP")
  have hheld (inner : Text) : HasText inner (.record (nestedEntry inner)) := by simp [nestedEntry]
  have hdetect : Redactor.standard.detect "token=ABCDEFGHIJKLMNOP" ≠ [] := by decide +kernel
  have hplain : Redactor.maskStandard "login" = "login".toList ∧ Redactor.maskStandard "ghp_" = "ghp_".toList := by
    decide +kernel
  have hsecret : Redactor.maskStandard "token=ABCDEFGHIJKLMNOP" = "[REDACTED]".toList := by decide +kernel
  have hresult : maskFields (nestedEntry "token=ABCDEFGHIJKLMNOP") = nestedEntry "[REDACTED]" := by
    simp only [nestedEntry, maskFields, maskValue, maskItems, hplain, hsecret]
  refine ⟨hheld _, hdetect, hresult, hheld _, (hmasked.clear _ (hresult ▸ hheld _)).1, ?_⟩
  intro hsame
  exact hdetect (hmasked.unchanged_iff.mp (congrArg Value.record hsame) _ (hheld _))

end Journal

end TexMend
