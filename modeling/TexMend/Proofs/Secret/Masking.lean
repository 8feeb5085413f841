import TexMend.Secret.Redactor
import TexMend.Proofs.Secret.Takes

/-!
# What masking leaves

The kinds of secret are masked one after the other, each on the text that the passes before it left. The
placeholder stands between two characters that no secret holds, so a later match lies in characters that
were kept, and a shape that is masked once never occurs again.
-/

namespace TexMend.Secret

/-- The second text is the first with disjoint stretches replaced by `new` and every other character kept
in its place. `goes` holds of each stretch, `stays` of what follows each place where a character is kept. -/
inductive Masked (new : Text) (stays goes : Text → Prop) : Text → Text → Prop
  | nil : Masked new stays goes [] []
  | keep {c text masked} (hs : stays (c :: text)) (tail : Masked new stays goes text masked) :
      Masked new stays goes (c :: text) (c :: masked)
  | mask {secret text masked} (hg : goes secret) (tail : Masked new stays goes text masked) :
      Masked new stays goes (secret ++ text) (new ++ masked)

/-- A text that is not empty and of which some kind takes every character. -/
def IsSecret (kinds : List Kind) (text : Text) : Prop :=
  text ≠ [] ∧ ∃ kind ∈ kinds, kind.shape.Takes text

/-- Disjoint secrets are replaced by `new`, and nothing else changes. -/
abbrev MasksSecrets (new : Text) (kinds : List Kind) : Text → Text → Prop :=
  Masked new (fun _ => True) (IsSecret kinds)

/-- One pass: the shape matches at no place where a character is kept. -/
abbrev Swept (new : Text) (shape : Shape) : Text → Text → Prop :=
  Masked new (fun place => shape.after? place = none) fun secret => secret ≠ [] ∧ shape.Takes secret

theorem Masked.mono {new : Text} {stays stays' goes goes' : Text → Prop} {text masked : Text}
    (h : Masked new stays goes text masked) (hs : ∀ place, stays place → stays' place)
    (hg : ∀ secret, goes secret → goes' secret) : Masked new stays' goes' text masked := by
  induction h with
  | nil => exact .nil
  | keep hk _ ih => exact .keep (hs _ hk) ih
  | mask hm _ ih => exact .mask (hg _ hm) ih

/-- A text without anything to replace stays. -/
theorem Masked.eq_self {new : Text} {stays goes : Text → Prop} {text masked : Text}
    (h : Masked new stays goes text masked) (hg : ∀ secret, goes secret → ¬ secret <:+: text) :
    masked = text := by
  induction h with
  | nil => rfl
  | keep _ _ ih => rw [ih fun secret hs hi => hg secret hs (List.infix_cons hi)]
  | @mask secret rest _ hs _ _ =>
      exact absurd (List.prefix_append secret rest).isInfix (hg secret hs)

/-- A placeholder between two end characters. -/
structure Frame where
  left : Char
  inner : Text
  right : Char

namespace Frame

def text (f : Frame) : Text :=
  f.left :: (f.inner ++ [f.right])

/-- A text that cannot touch the placeholder: it holds neither end and does not lie between them. -/
structure Apart (f : Frame) (secret : Text) : Prop where
  ne_nil : secret ≠ []
  left : f.left ∉ secret
  right : f.right ∉ secret
  inner : ¬ secret <:+: f.inner

end Frame

/-- A shape of which no text touches the placeholder. -/
structure Shape.Clears (shape : Shape) (f : Frame) : Prop where
  left : shape.admits f.left = false
  right : shape.admits f.right = false
  inner : shape.occurs f.inner = false
  ne_nil : shape.after? [] = none

theorem Shape.Clears.apart {shape : Shape} {f : Frame} (h : shape.Clears f) {secret : Text}
    (ht : shape.Takes secret) : f.Apart secret where
  ne_nil := by
    rintro rfl
    simpa [h.ne_nil] using ht.isSome_after? []
  left := fun hc => by simpa [h.left] using ht.admits_of_mem hc
  right := fun hc => by simpa [h.right] using ht.admits_of_mem hc
  inner := fun hi => Shape.occurs_eq_false_iff.mp h.inner secret hi ht

section Replace

variable {shape : Shape} {fill : Text → Text} {new : Text}

/-- A match at the start of a text takes as many characters as its length says, and not none. -/
theorem Shape.matchLength?_spec (hne : shape.after? [] = none) {text : Text} {n : Nat}
    (h : shape.matchLength? text = some n) : text.take n ≠ [] ∧ shape.Takes (text.take n) := by
  obtain ⟨rest, hr, hn⟩ := Option.map_eq_some_iff.mp h
  obtain ⟨taken, ht, rfl⟩ := takes_of_after? hr
  have hlen : n = taken.length := by
    rw [← hn, List.length_append]
    omega
  rw [hlen, List.take_left]
  refine ⟨?_, ht⟩
  rintro rfl
  simpa [hne] using ht.isSome_after? []

theorem Shape.replaceFrom_nil (hne : shape.after? [] = none) (skip : Nat) :
    shape.replaceFrom fill skip [] = [] := by
  cases skip <;> simp [replaceFrom, matchLength?, hne]

/-- The replacement walks once over the text, past what a match took. -/
theorem Shape.replaceFrom_swept (hne : shape.after? [] = none) (hfill : ∀ secret, fill secret = new)
    (skip : Nat) (text : Text) :
    Swept new shape (text.drop skip) (shape.replaceFrom fill skip text) := by
  induction text generalizing skip with
  | nil =>
      rw [replaceFrom_nil hne, List.drop_nil]
      exact .nil
  | cons c cs ih =>
      cases skip with
      | succ skip => exact ih skip
      | zero =>
          cases hm : shape.matchLength? (c :: cs) with
          | none =>
              have hkeep : shape.after? (c :: cs) = none := Option.map_eq_none_iff.mp hm
              simp only [replaceFrom, hm, List.drop_zero]
              exact .keep hkeep (ih 0)
          | some n =>
              obtain ⟨hne', ht⟩ := matchLength?_spec hne hm
              cases n with
              | zero => simp at hne'
              | succ n =>
                  have hcut : c :: cs = (c :: cs).take (n + 1) ++ cs.drop n :=
                    (List.take_append_drop (n + 1) (c :: cs)).symm
                  simp only [replaceFrom, hm, hfill, List.drop_zero]
                  rw [hcut]
                  exact .mask ⟨hne', ht⟩ (ih n)

theorem Shape.replaceAll_swept (hne : shape.after? [] = none) (hfill : ∀ secret, fill secret = new)
    (text : Text) : Swept new shape text (shape.replaceAll fill text) :=
  replaceFrom_swept hne hfill 0 text

end Replace

section Framed

variable {f : Frame} {stays goes : Text → Prop}

/-- What stands in the masked text without the left end was kept. -/
theorem Masked.of_append {text part rest : Text} (h : Masked f.text stays goes text (part ++ rest))
    (hl : f.left ∉ part) : ∃ before, text = part ++ before ∧ Masked f.text stays goes before rest := by
  induction part generalizing text with
  | nil => exact ⟨text, rfl, h⟩
  | cons c part ih =>
      generalize hw : c :: part ++ rest = whole at h
      cases h with
      | nil => simp at hw
      | keep _ tail =>
          obtain ⟨rfl, rfl⟩ := List.cons.inj hw
          obtain ⟨before, rfl, hb⟩ := ih tail fun hm => hl (List.mem_cons_of_mem c hm)
          exact ⟨before, rfl, hb⟩
      | mask _ _ =>
          obtain ⟨rfl, _⟩ := List.cons.inj hw
          exact absurd List.mem_cons_self hl

/-- A secret that is apart from the placeholder does not begin between its ends. -/
theorem Masked.kept_inner {part text masked : Text}
    (h : Masked f.text stays goes (part ++ f.right :: text) masked)
    (hg : ∀ secret, goes secret → f.Apart secret) (hp : part <:+: f.inner) :
    ∃ rest, masked = part ++ f.right :: rest ∧ Masked f.text stays goes text rest := by
  generalize hw : part ++ f.right :: text = whole at h
  induction part generalizing masked whole with
  | nil =>
      cases h with
      | nil => simp at hw
      | keep _ tail =>
          obtain ⟨rfl, rfl⟩ := List.cons.inj hw
          exact ⟨_, rfl, tail⟩
      | @mask secret after _ hs _ =>
          have hpre : secret <+: f.right :: text := ⟨after, hw.symm⟩
          have hnil := (Text.prefix_cons_iff_of_not_mem (hg secret hs).right).mp hpre
          exact absurd hnil (hg secret hs).ne_nil
  | cons c part ih =>
      cases h with
      | nil => simp at hw
      | keep _ tail =>
          obtain ⟨rfl, rfl⟩ := List.cons.inj hw
          obtain ⟨rest, rfl, hr⟩ := ih ((List.suffix_cons c part).isInfix.trans hp) _ rfl tail
          exact ⟨rest, rfl, hr⟩
      | @mask secret after _ hs _ =>
          have hpre : secret <+: c :: part ++ f.right :: text := ⟨after, hw.symm⟩
          have hin := Text.prefix_of_prefix_append_cons (hg secret hs).right hpre
          exact absurd (hin.isInfix.trans hp) (hg secret hs).inner

/-- A pass for secrets that are apart from the placeholder leaves every placeholder whole. -/
theorem Masked.of_placeholder {text masked : Text} (h : Masked f.text stays goes (f.text ++ text) masked)
    (hg : ∀ secret, goes secret → f.Apart secret) :
    ∃ rest, masked = f.text ++ rest ∧ Masked f.text stays goes text rest := by
  generalize hw : f.text ++ text = whole at h
  have hparts : f.left :: (f.inner ++ f.right :: text) = whole := by
    rw [← hw]
    simp [Frame.text]
  cases h with
  | nil => simp at hparts
  | keep _ tail =>
      obtain ⟨rfl, rfl⟩ := List.cons.inj hparts
      obtain ⟨rest, rfl, hr⟩ := tail.kept_inner hg List.infix_rfl
      exact ⟨rest, by simp [Frame.text], hr⟩
  | @mask secret after _ hs _ =>
      obtain ⟨c, cs, rfl⟩ := List.exists_cons_of_ne_nil (hg secret hs).ne_nil
      obtain ⟨rfl, _⟩ := List.cons.inj hparts
      exact absurd List.mem_cons_self (hg _ hs).left

/-- A text that is apart from the placeholder and occurs in the masked text begins at a place that was
kept. -/
theorem Masked.stays_of_infix {text masked part : Text} (h : Masked f.text stays goes text masked)
    (ha : f.Apart part) (hi : part <:+: masked) :
    ∃ after, part ++ after <:+ text ∧ stays (part ++ after) := by
  induction h with
  | nil => exact absurd (List.infix_nil.mp hi) ha.ne_nil
  | @keep c rest masked hs tail ih =>
      rcases List.infix_cons_iff.mp hi with ⟨after, hp⟩ | hi
      · obtain ⟨before, hb, _⟩ := (hp ▸ Masked.keep hs tail).of_append ha.left
        exact ⟨before, hb ▸ List.suffix_rfl, hb ▸ hs⟩
      · obtain ⟨after, hsuffix, hstays⟩ := ih hi
        exact ⟨after, hsuffix.trans (List.suffix_cons c rest), hstays⟩
  | @mask secret rest masked _ _ ih =>
      have hw : f.text ++ masked = [] ++ f.left :: (f.inner ++ f.right :: masked) := by
        simp [Frame.text]
      rw [hw, Text.infix_append_cons_iff ha.left, Text.infix_append_cons_iff ha.right] at hi
      rcases hi with hnil | hin | hi
      · exact absurd (List.infix_nil.mp hnil) ha.ne_nil
      · exact absurd hin ha.inner
      · obtain ⟨after, hsuffix, hstays⟩ := ih hi
        exact ⟨after, hsuffix.trans (List.suffix_append secret rest), hstays⟩

/-- Masking brings nothing about that is apart from the placeholder. -/
theorem Masked.infix_of_infix {text masked part : Text} (h : Masked f.text stays goes text masked)
    (ha : f.Apart part) (hi : part <:+: masked) : part <:+: text := by
  obtain ⟨after, hsuffix, _⟩ := h.stays_of_infix ha hi
  exact (List.prefix_append part after).isInfix.trans hsuffix.isInfix

/-- Two passes are one: what the second replaces was kept by the first. -/
theorem Masked.trans {stays' : Text → Prop} {text middle masked : Text}
    (h : Masked f.text stays goes text middle) (h' : Masked f.text stays' goes middle masked)
    (hg : ∀ secret, goes secret → f.Apart secret) :
    Masked f.text (fun _ => True) goes text masked := by
  -- A stretch of the second pass swallows several steps of the first: the induction is on the length.
  induction hn : text.length using Nat.strongRecOn generalizing text middle masked with
  | ind n ih =>
      cases h with
      | nil =>
          generalize hw : ([] : Text) = whole at h'
          cases h' with
          | nil => exact .nil
          | keep _ _ => cases hw
          | mask hs _ => exact absurd (List.append_eq_nil_iff.mp hw.symm).1 (hg _ hs).ne_nil
      | @mask secret rest middle hs tail =>
          obtain ⟨after, rfl, hr⟩ := h'.of_placeholder hg
          have hlen : 0 < secret.length := List.length_pos_iff.mpr (hg _ hs).ne_nil
          exact .mask hs (ih rest.length (by simp at hn; omega) tail hr rfl)
      | @keep c rest middle hs tail =>
          generalize hw : c :: middle = whole at h'
          cases h' with
          | nil => cases hw
          | keep _ tail' =>
              obtain ⟨rfl, rfl⟩ := List.cons.inj hw
              exact .keep trivial (ih rest.length (by simp at hn; omega) tail tail' rfl)
          | @mask secret after masked hs' tail' =>
              obtain ⟨before, hb, hr⟩ := (hw ▸ Masked.keep hs tail).of_append (hg _ hs').left
              have hlen : 0 < secret.length := List.length_pos_iff.mpr (hg _ hs').ne_nil
              have hlt : before.length < n := by
                rw [← hn, hb, List.length_append]
                omega
              rw [hb]
              exact .mask hs' (ih before.length hlt hr tail' rfl)

/-- A shape that clears the placeholder does not occur after its own pass. -/
theorem Swept.not_occurs {shape : Shape} {text masked : Text} (h : Swept f.text shape text masked)
    (hc : shape.Clears f) : shape.occurs masked = false := by
  rw [Shape.occurs_eq_false_iff]
  intro taken hi ht
  obtain ⟨after, _, hnone⟩ := h.stays_of_infix (hc.apart ht) hi
  simpa [hnone] using ht.isSome_after? after

end Framed

namespace Redactor

theorem fill_map_char (placeholder secret : Text) :
    Template.fill (placeholder.map .char) secret = placeholder := by
  induction placeholder with
  | nil => rfl
  | cons c rest ih => simpa [Template.fill] using ih

section Kinds

variable {f : Frame} {kinds : List Kind}

/-- All passes together mask disjoint secrets, and none of the kinds occurs afterwards. -/
theorem mask_spec (hk : ∀ kind ∈ kinds, kind.shape.Clears f) (text : Text) :
    MasksSecrets f.text kinds text (mask kinds (f.text.map .char) text) ∧
      ∀ kind ∈ kinds, kind.shape.occurs (mask kinds (f.text.map .char) text) = false := by
  induction kinds generalizing text with
  | nil =>
      refine ⟨?_, by simp⟩
      induction text with
      | nil => exact .nil
      | cons c cs ih => exact .keep trivial ih
  | cons kind rest ih =>
      have hc : kind.shape.Clears f := hk kind List.mem_cons_self
      have hsecret : ∀ secret, IsSecret (kind :: rest) secret → f.Apart secret := by
        rintro secret ⟨_, other, ho, ht⟩
        exact (hk other ho).apart ht
      have hpass : Swept f.text kind.shape text (kind.shape.replaceAll _ text) :=
        Shape.replaceAll_swept hc.ne_nil (fill_map_char f.text) text
      obtain ⟨hm, hnone⟩ := ih (fun other ho => hk other (List.mem_cons_of_mem kind ho))
        (kind.shape.replaceAll (Template.fill (f.text.map .char)) text)
      have hfirst : MasksSecrets f.text (kind :: rest) text _ := hpass.mono (fun _ _ => trivial)
        fun secret hs => ⟨hs.1, kind, List.mem_cons_self, hs.2⟩
      have hlater : MasksSecrets f.text (kind :: rest) _ _ := hm.mono (fun _ h => h)
        fun secret ⟨hne, other, ho, ht⟩ => ⟨hne, other, List.mem_cons_of_mem kind ho, ht⟩
      refine ⟨hfirst.trans hlater hsecret, ?_⟩
      intro other ho
      rcases List.mem_cons.mp ho with rfl | ho
      · -- The later passes bring back nothing of a kind that is gone.
        rw [Shape.occurs_eq_false_iff]
        intro taken hi ht
        have hback := hlater.infix_of_infix (hc.apart ht) hi
        exact Shape.occurs_eq_false_iff.mp (hpass.not_occurs hc) taken hback ht
      · exact hnone other ho

/-- Masking changes a text exactly when some kind occurs in it. -/
theorem mask_eq_self_iff (hk : ∀ kind ∈ kinds, kind.shape.Clears f) (text : Text) :
    mask kinds (f.text.map .char) text = text ↔ ∀ kind ∈ kinds, kind.shape.occurs text = false := by
  constructor
  · intro h
    have hnone := (mask_spec hk text).2
    rwa [h] at hnone
  · intro h
    apply (mask_spec hk text).1.eq_self
    rintro secret ⟨_, kind, hkind, ht⟩ hi
    exact Shape.occurs_eq_false_iff.mp (h kind hkind) secret hi ht

end Kinds

end Redactor

end TexMend.Secret
