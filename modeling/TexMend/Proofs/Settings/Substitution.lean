import Mathlib.Data.List.Basic
import TexMend.Settings.Substitution
import TexMend.Proofs.Text.Occurrence

/-!
# Placeholders give way to values

A template is a text cut at its placeholders. Written out and read again it falls into the same pieces, whatever
characters its names hold. So each placeholder gives way to the value of its name and nothing else changes, or the names
that are not set are told, each once and in their order.
-/

namespace TexMend.Settings

/-- A placeholder, by its name, and the text behind it. The name ends where it should, and the text begins no other
placeholder. -/
structure Hole where
  name : Text
  text : Text
  name_ne_nil : name ≠ []
  brace_not_mem_name : '}' ∉ name
  dollar_not_mem_text : '$' ∉ text

/-- A text with placeholders. -/
structure Template where
  lead : Text
  holes : List Hole
  dollar_not_mem_lead : '$' ∉ lead

/-- The placeholder as it is written, and the text behind it. -/
def Hole.write (hole : Hole) : Text :=
  '$' :: '{' :: (hole.name ++ '}' :: hole.text)

namespace Template

/-- The template as it is written. -/
def write (t : Template) : Text :=
  t.lead ++ t.holes.flatMap Hole.write

/-- The names of the placeholders, in order and as often as they are written. -/
def names (t : Template) : List Text :=
  t.holes.map Hole.name

/-- The template with values in the place of its placeholders. -/
def fill (value : Text → Text) (t : Template) : Text :=
  t.lead ++ t.holes.flatMap fun hole => value hole.name ++ hole.text

end Template

/-- The unset ones of some names, each once, in the order in which the names first appear. -/
structure ListsUnset (env : List (Text × Text)) (names listed : List Text) : Prop where
  mem_iff : ∀ name, name ∈ listed ↔ name ∈ names ∧ env.lookup name = none
  once : listed.Nodup
  ordered : listed.Pairwise fun a b => names.idxOf a < names.idxOf b

section Reading

variable {name text rest : Text}

/-- A placeholder reaches up to the first closing brace; its name may hold any other character. -/
theorem placeholderAt?_placeholder (hname : name ≠ []) (hbrace : '}' ∉ name) (rest : Text) :
    placeholderAt? ('$' :: '{' :: (name ++ '}' :: rest)) = some (name, name.length + 3) := by
  have hopen : Text.after? "$\x7b" ('$' :: '{' :: (name ++ '}' :: rest)) = some (name ++ '}' :: rest) :=
    Text.after?_append "$\x7b" _
  have hempty : name.isEmpty = false := List.isEmpty_eq_false_iff.mpr hname
  simp only [placeholderAt?, hopen, Text.cutAt?_append hbrace, hempty]
  rfl

theorem placeholderAt?_cons_of_ne {c : Char} (hc : c ≠ '$') (rest : Text) : placeholderAt? (c :: rest) = none := by
  have hnot : ¬ ("$\x7b" : Text) <+: c :: rest := fun h => hc (List.cons_prefix_cons.mp h).1.symm
  rw [placeholderAt?, Text.after?_eq_none hnot]

theorem fragmentsFrom_skip (skipped rest : Text) :
    fragmentsFrom skipped.length (skipped ++ rest) = fragmentsFrom 0 rest := by
  induction skipped with
  | nil => rfl
  | cons c cs ih => exact ih

/-- Text without dollar signs is read character by character. -/
theorem fragmentsFrom_plain (h : '$' ∉ text) (rest : Text) :
    fragmentsFrom 0 (text ++ rest) = text.map .char ++ fragmentsFrom 0 rest := by
  induction text with
  | nil => rfl
  | cons c cs ih =>
      have hc : c ≠ '$' := fun heq => h (heq ▸ List.mem_cons_self)
      have hcs : '$' ∉ cs := fun hm => h (List.mem_cons_of_mem c hm)
      rw [List.cons_append, fragmentsFrom, placeholderAt?_cons_of_ne hc]
      simp only [ih hcs, List.map_cons, List.cons_append]

/-- A placeholder is read as one piece, and the text behind it as plain. -/
theorem fragmentsFrom_hole (hole : Hole) (rest : Text) :
    fragmentsFrom 0 (hole.write ++ rest) =
      .placeholder hole.name :: (hole.text.map .char ++ fragmentsFrom 0 rest) := by
  have hwritten : hole.write ++ rest = '$' :: ('{' :: hole.name ++ ['}'] ++ (hole.text ++ rest)) := by
    simp [Hole.write]
  have hfound : placeholderAt? ('$' :: ('{' :: hole.name ++ ['}'] ++ (hole.text ++ rest))) =
      some (hole.name, ('{' :: hole.name ++ ['}']).length + 1) := by
    have h := placeholderAt?_placeholder hole.name_ne_nil hole.brace_not_mem_name (hole.text ++ rest)
    simpa using h
  rw [hwritten, fragmentsFrom, hfound]
  simp only [Nat.add_sub_cancel]
  rw [fragmentsFrom_skip, fragmentsFrom_plain hole.dollar_not_mem_text]

/-- A written template is read as its own pieces. -/
theorem fragments_write (t : Template) : fragments t.write =
    t.lead.map .char ++ t.holes.flatMap fun hole => .placeholder hole.name :: hole.text.map .char := by
  have hholes (holes : List Hole) : fragmentsFrom 0 (holes.flatMap Hole.write) =
      holes.flatMap fun hole => .placeholder hole.name :: hole.text.map .char := by
    induction holes with
    | nil => rfl
    | cons hole more ih =>
        rw [List.flatMap_cons, List.flatMap_cons, fragmentsFrom_hole, ih]
        rfl
  rw [fragments, Template.write, fragmentsFrom_plain t.dollar_not_mem_lead, hholes]

end Reading

section Names

theorem placeholderNames_chars (text : Text) : placeholderNames (text.map .char) = [] := by
  simp [placeholderNames]

theorem placeholderNames_append (first second : List Fragment) :
    placeholderNames (first ++ second) = placeholderNames first ++ placeholderNames second :=
  List.filterMap_append

theorem placeholderNames_write (t : Template) : placeholderNames (fragments t.write) = t.names := by
  have hholes (holes : List Hole) :
      placeholderNames (holes.flatMap fun hole => .placeholder hole.name :: hole.text.map .char) =
        holes.map Hole.name := by
    induction holes with
    | nil => rfl
    | cons hole more ih =>
        rw [List.flatMap_cons, List.cons_append]
        change hole.name :: placeholderNames (hole.text.map .char ++ _) = _
        rw [placeholderNames_append, placeholderNames_chars, ih]
        rfl
  rw [fragments_write, placeholderNames_append, placeholderNames_chars, hholes]
  rfl

theorem flatMap_expand_chars (env : List (Text × Text)) (text : Text) :
    (text.map .char).flatMap (Fragment.expand env) = text := by
  induction text with
  | nil => rfl
  | cons c cs ih => exact congrArg (c :: ·) ih

/-- The pieces of a written template expand to the values of their names. -/
theorem expand_write (env : List (Text × Text)) (t : Template) :
    (fragments t.write).flatMap (Fragment.expand env) = t.fill fun name => (env.lookup name).getD [] := by
  have hhole (hole : Hole) :
      (Fragment.placeholder hole.name :: hole.text.map .char).flatMap (Fragment.expand env) =
        (env.lookup hole.name).getD [] ++ hole.text := by
    rw [List.flatMap_cons, flatMap_expand_chars]
    rfl
  rw [fragments_write, List.flatMap_append, flatMap_expand_chars, List.flatMap_assoc, Template.fill]
  simp only [hhole]

@[simp] theorem mem_firstOccurrences {name : Text} {names : List Text} :
    name ∈ firstOccurrences names ↔ name ∈ names := by
  induction names with
  | nil => rfl
  | cons first rest ih =>
      by_cases hfirst : name = first <;> simp [firstOccurrences, hfirst, ih]

theorem nodup_firstOccurrences (names : List Text) : (firstOccurrences names).Nodup := by
  induction names with
  | nil => exact List.nodup_nil
  | cons first rest ih =>
      rw [firstOccurrences, List.nodup_cons]
      exact ⟨by simp, ih.filter _⟩

/-- Names are told in the order in which they first appear, also among others. -/
theorem ordered_firstOccurrences (p : Text → Bool) (names : List Text) :
    (firstOccurrences (names.filter p)).Pairwise fun a b => names.idxOf a < names.idxOf b := by
  induction names with
  | nil => exact List.Pairwise.nil
  | cons first rest ih =>
      have hlater {name : Text} (h : name ≠ first) : (first :: rest).idxOf name = rest.idxOf name + 1 :=
        List.idxOf_cons_ne rest h.symm
      cases hp : p first with
      | true =>
          rw [List.filter_cons_of_pos hp, firstOccurrences, List.pairwise_cons]
          constructor
          · intro name hname
            have hne : name ≠ first := by simpa using (List.mem_filter.mp hname).2
            rw [List.idxOf_cons_self, hlater hne]
            exact Nat.succ_pos _
          · apply (ih.filter _).imp_of_mem
            intro a b ha hb hab
            have hane : a ≠ first := by simpa using (List.mem_filter.mp ha).2
            have hbne : b ≠ first := by simpa using (List.mem_filter.mp hb).2
            rw [hlater hane, hlater hbne]
            exact Nat.succ_lt_succ hab
      | false =>
          rw [List.filter_cons_of_neg (by simp [hp])]
          apply ih.imp_of_mem
          intro a b ha hb hab
          have hne {name : Text} (h : name ∈ firstOccurrences (rest.filter p)) : name ≠ first := by
            rintro rfl
            simp [hp] at h
          rw [hlater (hne ha), hlater (hne hb)]
          exact Nat.succ_lt_succ hab

theorem listsUnset_firstOccurrences (env : List (Text × Text)) (names : List Text) :
    ListsUnset env names (firstOccurrences (names.filter fun name => (env.lookup name).isNone)) where
  mem_iff := by simp
  once := nodup_firstOccurrences _
  ordered := ordered_firstOccurrences _ names

end Names

/-- If all names of a template are set, each placeholder gives way to the value of its name, which is not read again.
Else the unset names are told. -/
theorem substitute_write (env : List (Text × Text)) (t : Template) :
    (∀ value : Text → Text, (∀ name ∈ t.names, env.lookup name = some (value name)) →
      substitute env t.write = .ok (t.fill value)) ∧
    ((∃ name ∈ t.names, env.lookup name = none) → ∃ listed, ListsUnset env t.names listed ∧
      substitute env t.write = .error ⟨listed⟩ ∧ UnsetError.message ⟨listed⟩ =
        "Environment variable " ++ Text.joinWith ", " listed ++ " not found") := by
  have hnames := placeholderNames_write t
  have hexpand := expand_write env t
  constructor
  · intro value hset
    have hnone : t.names.filter (fun name => (env.lookup name).isNone) = [] := by
      rw [List.filter_eq_nil_iff]
      intro name hname
      simp [hset name hname]
    have hfill : (t.fill fun name => (env.lookup name).getD []) = t.fill value := by
      rw [Template.fill, Template.fill, List.append_cancel_left_eq]
      apply List.flatMap_congr
      intro hole hhole
      rw [hset hole.name (List.mem_map_of_mem hhole), Option.getD_some]
    simp only [substitute, hnames, hnone, hexpand, hfill]
  · rintro ⟨name, hname, hunset⟩
    refine ⟨_, listsUnset_firstOccurrences env t.names, ?_, rfl⟩
    have hsome : t.names.filter (fun name => (env.lookup name).isNone) ≠ [] := by
      rw [Ne, List.filter_eq_nil_iff]
      exact fun h => h name hname (by simp [hunset])
    cases hlist : t.names.filter fun name => (env.lookup name).isNone with
    | nil => exact absurd hlist hsome
    | cons first rest => simp only [substitute, hnames, hlist]

/-- A template that repeats a name, and has another one that looks like a placeholder within. -/
def oddTemplate : Template where
  lead := "a "
  holes :=
    [⟨"X", " b ", by decide, by decide, by decide⟩, ⟨"$\x7bY", " c ", by decide, by decide, by decide⟩,
      ⟨"X", "", by decide, by decide, by decide⟩]
  dollar_not_mem_lead := by decide

def oddValue (name : Text) : Text :=
  if name = "X".toList then "$\x7bX\x7d" else "\\1"

/-- A value that looks like a placeholder is put in as it is; and of three unset placeholders two names are told. -/
theorem substitute_write_odd :
    substitute [("X", "$\x7bX\x7d"), ("$\x7bY", "\\1")] oddTemplate.write =
        .ok "a $\x7bX\x7d b \\1 c $\x7bX\x7d".toList ∧
      ∃ listed, ListsUnset [] oddTemplate.names listed ∧ substitute [] oddTemplate.write = .error ⟨listed⟩ := by
  constructor
  · exact (substitute_write [("X", "$\x7bX\x7d"), ("$\x7bY", "\\1")] oddTemplate).1 oddValue (by decide)
  · obtain ⟨listed, hlists, herror, -⟩ := (substitute_write [] oddTemplate).2 (by decide)
    exact ⟨listed, hlists, herror⟩

end TexMend.Settings
