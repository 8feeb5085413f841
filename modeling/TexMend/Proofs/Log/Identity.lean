import Mathlib.Data.List.Nodup
import TexMend.Proofs.Log.Site
import TexMend.Proofs.Text.Numeral

/-!
# Records told apart

The ids of the records of a log are all different, so a search for an id finds the one record that has it.
Errors and warnings share no kind of diagnostic for which there is a rule.
-/

namespace TexMend

/-- Where no two items have the same key, a search for a key finds the item that has it. -/
theorem find?_key_eq_some_iff {α : Type} {key : α → Text} {items : List α} (h : (items.map key).Nodup)
    {k : Text} {a : α} : items.find? (fun b => key b = k) = some a ↔ a ∈ items ∧ key a = k := by
  induction items with
  | nil => simp
  | cons b rest ih =>
      obtain ⟨hb, hrest⟩ := List.nodup_cons.mp h
      by_cases hk : key b = k
      · have hother : ∀ c ∈ rest, key c ≠ k := by
          intro c hc hck
          exact hb (List.mem_map.mpr ⟨c, hc, hck.trans hk.symm⟩)
        rw [List.find?_cons_of_pos (by simpa using hk), Option.some.injEq, List.mem_cons]
        constructor
        · rintro rfl
          exact ⟨Or.inl rfl, hk⟩
        · rintro ⟨rfl | ha, hak⟩
          · rfl
          · exact absurd hak (hother a ha)
      · rw [List.find?_cons_of_neg (by simpa using hk), ih hrest, List.mem_cons]
        constructor
        · rintro ⟨ha, hak⟩
          exact ⟨Or.inr ha, hak⟩
        · rintro ⟨rfl | ha, hak⟩
          · exact absurd hak hk
          · exact ⟨ha, hak⟩

theorem Record.idOf_inj {m n : Nat} : Record.idOf m = Record.idOf n ↔ m = n := by
  rw [Record.idOf, Record.idOf, List.append_cancel_left_eq, Text.ofNat_inj]

namespace Log

variable {options : Options} {log : Text} {r : Record}

namespace ListsById

variable {parsed : ParsedLog} {all : List Record}

/-- The ids are the first ones that there are. -/
theorem map_id (h : ListsById parsed all) :
    all.map Record.id = (List.range all.length).map fun n => Record.idOf (n + 1) := by
  apply List.ext_getElem
  · simp
  · intro n hn _
    rw [List.length_map] at hn
    simp [h.id n hn]

/-- Records that are numbered have different ids. -/
theorem nodup (h : ListsById parsed all) : (parsed.records.map Record.id).Nodup := by
  rw [← (h.perm.map Record.id).nodup_iff, h.map_id]
  apply List.Nodup.map _ List.nodup_range
  intro j k hjk
  exact Nat.succ.inj (Record.idOf_inj.mp hjk)

end ListsById

theorem nodup_ids (options : Options) (log : Text) :
    ((parse options log).records.map Record.id).Nodup :=
  (parse_listsById options log).nodup

/-- A search for an id finds the one record that has it. -/
theorem find?_eq_some_iff {id : Text} :
    (parse options log).find? id = some r ↔ r ∈ (parse options log).records ∧ r.id = id :=
  find?_key_eq_some_iff (nodup_ids options log)

/-- What a warning can be about. -/
def warningCategories : List Category :=
  [.overfullBox, .underfullBox, .fontWarning, .citationWarning, .referenceWarning, .generalWarning]

theorem warningCategory_mem (warning : Text) : warningCategory warning ∈ warningCategories := by
  unfold warningCategory
  dsimp only
  repeat' split
  all_goals decide

theorem Site.category_mem_of_warning {s : Site} {total : Nat} {id : Text}
    (h : (s.record options total id).severity = .warning) :
    (s.record options total id).category ∈ warningCategories := by
  unfold record at h ⊢
  cases htrigger : s.trigger with
  | block => rw [htrigger] at h; cases h
  | located file line message => rw [htrigger] at h; cases h
  | warning => exact warningCategory_mem _
  | box =>
      change (if _ then Category.overfullBox else Category.underfullBox) ∈ _
      split <;> decide

theorem category_mem_warningCategories (h : r ∈ (parse options log).warnings) :
    r.category ∈ warningCategories := by
  obtain ⟨hr, hseverity⟩ := List.mem_filter.mp h
  obtain ⟨s, id, rfl⟩ := exists_site_of_mem_records hr
  exact s.category_mem_of_warning (by simpa using hseverity)

end Log

end TexMend
