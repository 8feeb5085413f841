import TexMend.Proofs.Secret.Ends
import TexMend.Proofs.Secret.StandardRedactor

/-!
# Texts without a secret

A text is clear if no secret of a standard kind stands in it. Two clear texts may make a secret where they meet;
they do not if they meet at a character that no secret holds, or at one that none can begin or end with. An equals
sign, a colon or a quote comes only in an assignment, whose parts are known.
-/

namespace TexMend.Secret

/-- No secret of a standard kind stands in the text. -/
def Clear (text : Text) : Prop :=
  ∀ secret, IsSecret standardKinds secret → ¬ secret <:+: text

theorem clear_iff_detect {text : Text} : Clear text ↔ Redactor.standard.detect text = [] := by
  have hempty : ∀ kind ∈ standardKinds, kind.shape.after? [] = none := by decide
  rw [Redactor.detect_standard_eq_nil_iff]
  constructor
  · intro h kind hk
    rw [Shape.occurs_eq_false_iff]
    intro secret hi ht
    refine h secret ⟨?_, kind, hk, ht⟩ hi
    rintro rfl
    simpa [hempty kind hk] using ht.isSome_after? []
  · rintro h secret ⟨-, kind, hk, ht⟩ hi
    exact Shape.occurs_eq_false_iff.mp (h kind hk) secret hi ht

theorem clear_nil : Clear [] := clear_iff_detect.mpr rfl

theorem clear_maskStandard (text : Text) : Clear (Redactor.maskStandard text) :=
  clear_iff_detect.mpr (Redactor.detect_maskStandard text)

theorem Clear.within {text part : Text} (h : Clear text) (hi : part <:+: text) : Clear part :=
  fun secret hs hp => h secret hs (hp.trans hi)

/-- A clear text is clear on both sides of each character. -/
theorem Clear.sides {before after : Text} {c : Char} (h : Clear (before ++ c :: after)) :
    Clear before ∧ Clear after := by
  constructor
  · exact h.within (List.prefix_append before _).isInfix
  · exact h.within ((List.suffix_cons c after).trans (List.suffix_append before _)).isInfix

section Kinds

variable {kinds : List Kind} {secret : Text}

theorem IsSecret.not_mem {c : Char} (h : IsSecret kinds secret)
    (hc : ∀ kind ∈ kinds, kind.shape.admits c = false) : c ∉ secret := by
  obtain ⟨_, kind, hk, ht⟩ := h
  intro hmem
  simpa [hc kind hk] using ht.admits_of_mem hmem

theorem IsSecret.not_begins {start rest : Text} (h : IsSecret kinds secret)
    (hs : ∀ kind ∈ kinds, kind.shape.admitsStart start = false) : ¬ secret <+: start ++ rest := by
  obtain ⟨_, kind, hk, ht⟩ := h
  intro hp
  simpa [hs kind hk] using ht.admitsStart_of_begins hp

theorem IsSecret.getLast?_ne {c : Char} (h : IsSecret kinds secret)
    (hc : ∀ kind ∈ kinds, kind.shape.admitsEnd c = false) : secret.getLast? ≠ some c := by
  obtain ⟨_, kind, hk, ht⟩ := h
  intro hlast
  simpa [hc kind hk] using ht.admitsEnd_of_getLast? hlast

end Kinds

/-- Every secret has sixteen characters at least. -/
theorem IsSecret.sixteen_le_length {secret : Text} (h : IsSecret standardKinds secret) : 16 ≤ secret.length := by
  have hleast : ∀ kind ∈ standardKinds, 16 ≤ kind.shape.least := by decide
  obtain ⟨_, kind, hk, ht⟩ := h
  exact Nat.le_trans (hleast kind hk) ht.least_le

section Meeting

variable {before after text : Text} {c : Char}

/-- A character that no secret begins with may stand in front. -/
theorem clear_cons_iff (hc : ∀ kind ∈ standardKinds, kind.shape.admitsStart [c] = false) :
    Clear (c :: text) ↔ Clear text := by
  refine ⟨fun h => h.within (List.suffix_cons c text).isInfix, ?_⟩
  intro h secret hs hi
  rcases List.infix_cons_iff.mp hi with hp | hi
  · have hp : secret <+: [c] ++ text := hp
    exact hs.not_begins hc hp
  · exact h secret hs hi

/-- A character that no secret ends with may stand behind. -/
theorem clear_concat_iff (hc : ∀ kind ∈ standardKinds, kind.shape.admitsEnd c = false) :
    Clear (text ++ [c]) ↔ Clear text := by
  refine ⟨fun h => h.within (List.prefix_append text [c]).isInfix, ?_⟩
  intro h secret hs hi
  rcases Text.infix_append_cons_cases hi with ht | hn | ⟨left, right, rfl, -, hr⟩
  · exact h secret hs ht
  · exact hs.1 (List.infix_nil.mp hn)
  · obtain rfl := List.prefix_nil.mp hr
    exact hs.getLast?_ne hc (List.getLast?_concat ..)

/-- A character that no secret holds keeps what stands before it from what stands behind it. -/
theorem clear_append_cons_iff (hc : ∀ kind ∈ standardKinds, kind.shape.admits c = false) :
    Clear (before ++ c :: after) ↔ Clear before ∧ Clear after := by
  refine ⟨Clear.sides, ?_⟩
  rintro ⟨hb, ha⟩ secret hs hi
  rcases (Text.infix_append_cons_iff (hs.not_mem hc)).mp hi with hi | hi
  · exact hb secret hs hi
  · exact ha secret hs hi

end Meeting

/-- A word that announces a credential, a sign, perhaps a quote, and a long run, with blanks around the sign. -/
inductive IsAssignment : Text → Prop
  | mk {announced gap gap' quote run : Text} {sign : Char}
      (hannounced : ∃ word ∈ announcements, word.Spells announced)
      (hgap : ∀ c ∈ gap, Text.isBlank c = true) (hsign : sign = '=' ∨ sign = ':')
      (hgap' : ∀ c ∈ gap', Text.isBlank c = true) (hquote : quote = [] ∨ quote = ['"'] ∨ quote = ['\''])
      (hrun : ∀ c ∈ run, isTokenChar c = true) (hlength : 16 ≤ run.length) :
      IsAssignment (announced ++ (gap ++ sign :: (gap' ++ (quote ++ run))))

theorem isAssignment_of_takes {secret : Text} (h : genericAssignment.Takes secret) : IsAssignment secret := by
  obtain _ | _ | _ | ⟨word, announced, hword, hannounced, h⟩ := h
  obtain _ | _ | ⟨gap, hgap, -, h⟩ := h
  obtain _ | ⟨hsign, h⟩ := h
  obtain _ | _ | ⟨gap', hgap', -, h⟩ := h
  obtain _ | _ | _ | ⟨word', quote, hword', hquote, h⟩ := h
  obtain _ | _ | ⟨run, hrun, hlength, h⟩ := h
  cases h
  rw [List.append_nil]
  refine .mk ⟨word, hword, hannounced⟩ hgap (by simpa using hsign) hgap' ?_ hrun hlength
  simp only [List.mem_cons, List.not_mem_nil, or_false] at hword'
  rcases hword' with rfl | rfl
  · obtain _ | ⟨hc, hquote⟩ := hquote
    cases hquote
    right
    simpa using hc
  · cases hquote
    exact .inl rfl

/-- A secret with a character that only assignments hold is an assignment. -/
theorem IsSecret.isAssignment {secret : Text} {c : Char} (h : IsSecret standardKinds secret) (hmem : c ∈ secret)
    (hc : ∀ kind ∈ standardKinds.tail, kind.shape.admits c = false) : IsAssignment secret := by
  obtain ⟨_, kind, hk, ht⟩ := h
  rcases List.mem_cons.mp hk with rfl | hk
  · exact isAssignment_of_takes ht
  · have hadmits := ht.admits_of_mem hmem
    rw [hc kind hk] at hadmits
    cases hadmits

/-- Only assignments and the first lines of private keys hold spaces. -/
theorem IsSecret.isAssignment_or_privateKey {secret : Text} (h : IsSecret standardKinds secret)
    (hmem : ' ' ∈ secret) : IsAssignment secret ∨ privateKey.Takes secret := by
  have hothers : ∀ kind ∈ standardKinds.tail.dropLast, kind.shape.admits ' ' = false := by decide
  obtain ⟨_, kind, hk, ht⟩ := h
  rcases List.mem_cons.mp hk with rfl | hk
  · exact .inl (isAssignment_of_takes ht)
  · have hk : kind ∈ standardKinds.tail.dropLast ++ [⟨"private key", privateKey⟩] := hk
    rcases List.mem_append.mp hk with hk | hk
    · have hadmits := ht.admits_of_mem hmem
      rw [hothers kind hk] at hadmits
      cases hadmits
    · obtain rfl := List.mem_singleton.mp hk
      exact .inr ht

/-- Where the codes of blanks lie: the first code of each stretch, and how many there are. -/
def blankStretches : List (Nat × Nat) :=
  [(9, 5), (28, 5), (0x85, 1), (0xA0, 1), (0x1680, 1), (0x2000, 11), (0x2028, 2), (0x202F, 1), (0x205F, 1),
    (0x3000, 1)]

/-- A word character is no blank. -/
theorem isBlank_eq_false_of_isWord {c : Char} (h : Text.isWord c = true) : Text.isBlank c = false := by
  have hwords : ∀ stretch ∈ blankStretches, ∀ k < stretch.2,
      Text.inRanges (stretch.1 + k) Text.wordRanges = false := by decide +kernel
  rw [Bool.eq_false_iff]
  intro hblank
  obtain ⟨stretch, hmem, hlow, hhigh⟩ :
      ∃ stretch ∈ blankStretches, stretch.1 ≤ c.toNat ∧ c.toNat < stretch.1 + stretch.2 := by
    simp only [Text.isBlank, Bool.or_eq_true, Bool.and_eq_true, decide_eq_true_eq, beq_iff_eq] at hblank
    simp only [blankStretches, List.mem_cons, exists_eq_or_imp, List.not_mem_nil, or_false, exists_eq_left]
    omega
  have hword := hwords stretch hmem (c.toNat - stretch.1) (by omega)
  rw [Nat.add_sub_cancel' hlow] at hword
  rw [Text.isWord, hword] at h
  cases h

section Parts

variable {secret announced before after : Text} {c : Char}

/-- The first line of a private key ends with a hyphen. -/
theorem eq_hyphen_of_privateKey {secret : Text} {c : Char} (h : privateKey.Takes secret)
    (hc : secret.getLast? = some c) : c = '-' := by
  simpa [privateKey, Shape.admitsEnd, Shape.literal, Shape.least, Piece.least, Piece.admits] using
    h.admitsEnd_of_getLast? hc

/-- A character that stands in no announcing word. -/
theorem not_mem_announced (h : ∃ word ∈ announcements, word.Spells announced)
    (hc : ∀ word ∈ announcements, word.any (fun allowed => allowed c) = false) : c ∉ announced := by
  obtain ⟨word, hword, hs⟩ := h
  intro hmem
  simpa [hc word hword] using hs.any_of_mem hmem

theorem not_mem_of_all {allowed : Char → Bool} {part : Text} (h : ∀ d ∈ part, allowed d = true)
    (hc : allowed c = false) : c ∉ part := by
  intro hmem
  rw [h c hmem] at hc
  cases hc

/-- Behind a double quote in an assignment stands a token character. -/
theorem IsAssignment.behind_quote (h : IsAssignment secret) (hquote : secret = before ++ '"' :: after) :
    ∃ d rest, after = d :: rest ∧ isTokenChar d = true := by
  cases h with
  | @mk announced gap gap' quote run sign hannounced hgap hsign hgap' hq hrun hlength =>
      have hhead : '"' ∉ announced ++ (gap ++ sign :: gap') := by
        have hne : '"' ≠ sign := by rcases hsign with rfl | rfl <;> decide
        simp only [List.mem_append, List.mem_cons, not_or]
        exact ⟨not_mem_announced hannounced (by decide), not_mem_of_all hgap (by decide), hne,
          not_mem_of_all hgap' (by decide)⟩
      have hparts : (announced ++ (gap ++ sign :: gap')) ++ (quote ++ run) = before ++ '"' :: after := by
        simpa using hquote
      obtain ⟨between, -, hbehind⟩ := Text.eq_append_of_not_mem hparts hhead
      rcases Text.append_eq_append_cons_cases hbehind with ⟨later, -, hlater⟩ | ⟨right, hleft, hright⟩
      · exact absurd (by simp [hlater]) (not_mem_of_all (c := '"') hrun (by decide))
      · have hone : quote.length ≤ 1 := by rcases hq with rfl | rfl | rfl <;> simp
        obtain rfl : right = [] := by
          rw [hleft, List.length_append, List.length_cons] at hone
          exact List.length_eq_zero_iff.mp (by omega)
        cases run with
        | nil => simp at hlength
        | cons d rest => exact ⟨d, rest, hright, hrun d List.mem_cons_self⟩

/-- In front of an equals sign in an assignment stands an announcing word, perhaps with blanks behind it. -/
theorem IsAssignment.before_equals (h : IsAssignment secret) (hequals : secret = before ++ '=' :: after) :
    ∃ announced gap, before = announced ++ gap ∧ (∃ word ∈ announcements, word.Spells announced) ∧
      ∀ c ∈ gap, Text.isBlank c = true := by
  cases h with
  | @mk announced gap gap' quote run sign hannounced hgap hsign hgap' hq hrun hlength =>
      have hhead : '=' ∉ announced ++ gap := by
        rw [List.mem_append, not_or]
        exact ⟨not_mem_announced hannounced (by decide), not_mem_of_all hgap (by decide)⟩
      have htail : '=' ∉ gap' ++ (quote ++ run) := by
        have hquote : '=' ∉ quote := by rcases hq with rfl | rfl | rfl <;> decide
        simp only [List.mem_append, not_or]
        exact ⟨not_mem_of_all hgap' (by decide), hquote, not_mem_of_all hrun (by decide)⟩
      have hparts : (announced ++ gap) ++ sign :: (gap' ++ (quote ++ run)) = before ++ '=' :: after := by
        simpa using hequals
      obtain ⟨between, rfl, hbehind⟩ := Text.eq_append_of_not_mem hparts hhead
      cases between with
      | nil => exact ⟨announced, gap, List.append_nil _, hannounced, hgap⟩
      | cons d between =>
          have hmem : '=' ∈ gap' ++ (quote ++ run) := by
            rw [(List.cons.inj hbehind).2]
            simp
          exact absurd hmem htail

/-- Behind a space in an assignment, a word character begins the long run. -/
theorem IsAssignment.behind_space (h : IsAssignment secret) (hspace : secret = before ++ ' ' :: c :: after)
    (hc : Text.isWord c = true) : (∀ d ∈ c :: after, isTokenChar d = true) ∧ 16 ≤ (c :: after).length := by
  have hblank : Text.isBlank c = false := isBlank_eq_false_of_isWord hc
  have hother {d : Char} (hd : Text.isWord d = false) : c ≠ d := by
    rintro rfl
    rw [hc] at hd
    cases hd
  -- A gap with the space in it ends there, because a word character is no blank.
  have hgapEnds {gap rest before : Text} (hgap : ∀ c ∈ gap, Text.isBlank c = true)
      (hparts : gap ++ rest = before ++ ' ' :: c :: after) :
      (∃ before, rest = before ++ ' ' :: c :: after) ∨ rest = c :: after := by
    rcases Text.append_eq_append_cons_cases hparts with ⟨later, -, hlater⟩ | ⟨right, hleft, hright⟩
    · exact .inl ⟨later, hlater⟩
    · cases right with
      | nil => exact .inr hright.symm
      | cons d right =>
          obtain ⟨rfl, -⟩ := List.cons.inj hright
          have hmem : c ∈ gap := by simp [hleft]
          rw [hgap c hmem] at hblank
          cases hblank
  cases h with
  | @mk announced gap gap' quote run sign hannounced hgap hsign hgap' hq hrun hlength =>
      obtain ⟨between, -, hbehind⟩ :=
        Text.eq_append_of_not_mem hspace (not_mem_announced hannounced (by decide))
      have hsignNe : sign ≠ ' ' ∧ c ≠ sign := by
        rcases hsign with rfl | rfl
        · exact ⟨by decide, hother (by decide)⟩
        · exact ⟨by decide, hother (by decide)⟩
      rcases hgapEnds hgap hbehind with ⟨between, hbehind⟩ | hbehind
      · cases between with
        | nil => exact absurd (List.cons.inj hbehind).1 hsignNe.1
        | cons d between =>
            rcases hgapEnds hgap' (List.cons.inj hbehind).2 with ⟨between, hbehind⟩ | hbehind
            · have hmem : ' ' ∈ quote ++ run := by simp [hbehind]
              have hquote : ' ' ∉ quote := by rcases hq with rfl | rfl | rfl <;> decide
              rcases List.mem_append.mp hmem with hmem | hmem
              · exact absurd hmem hquote
              · exact absurd hmem (not_mem_of_all hrun (by decide))
            · rcases hq with rfl | rfl | rfl
              · rw [List.nil_append] at hbehind
                exact hbehind ▸ ⟨hrun, hlength⟩
              · exact absurd (List.cons.inj hbehind).1.symm (hother (by decide))
              · exact absurd (List.cons.inj hbehind).1.symm (hother (by decide))
      · exact absurd (List.cons.inj hbehind).1.symm hsignNe.2

end Parts

/-- A double quote that no token character follows keeps what stands before it from what stands behind it. -/
theorem clear_append_quote_iff {before after : Text} (ha : ∀ c, after.head? = some c → isTokenChar c = false) :
    Clear (before ++ '"' :: after) ↔ Clear before ∧ Clear after := by
  refine ⟨Clear.sides, ?_⟩
  rintro ⟨hb, hafter⟩ secret hs hi
  rcases Text.infix_append_cons_cases hi with hi | hi | ⟨left, right, hsecret, -, more, rfl⟩
  · exact hb secret hs hi
  · exact hafter secret hs hi
  · have hassignment := hs.isAssignment (c := '"') (by simp [hsecret]) (by decide)
    obtain ⟨d, rest, rfl, hd⟩ := hassignment.behind_quote hsecret
    rw [ha d rfl] at hd
    cases hd

end TexMend.Secret
