import TexMend.Proofs.Text.Count
import TexMend.Proofs.Repair.Rounds
import TexMend.Proofs.Repair.SharedLine
import TexMend.Proofs.Repair.Place

/-!
# Environments that balance

A marker ends with the only closing brace in it, so no two occurrences overlap, and neither marker of an
environment occurs in the other one. A round adds one marker of the kind that is missing, which closes the gap
between beginnings and ends by one; so there are as many rounds as markers are missing, wherever they are put.
-/

namespace TexMend.Repair

open Edit

section Markers

variable {name other : Text}

/-- A name that is read off a marker ends at the first closing brace. -/
theorem brace_not_mem_name {text : Text} {marker : Log.EnvironmentMarker}
    (h : Log.firstMarker? text = some marker) : '}' ∉ marker.name := by
  have hat {lead place : Text} (h : Log.markerAt? lead place = some marker) : '}' ∉ marker.name := by
    unfold Log.markerAt? at h
    split at h
    · obtain ⟨name, hname, rfl⟩ := Option.map_eq_some_iff.mp h
      unfold Log.bracedName? at hname
      split at hname
      · next before after hcut =>
          split at hname
          · cases hname
          · obtain rfl := Option.some.inj hname
            exact (Text.eq_append_of_cutAt?_eq_some hcut).2
      · cases hname
    · cases h
  obtain ⟨place, -, hplace⟩ := Text.exists_of_firstAt?_eq_some h
  split at hplace
  · next found hbegin =>
      obtain rfl := Option.some.inj hplace
      exact hat hbegin
  · exact hat hplace

/-- Both markers of an environment close with their only closing brace, so one is a part of the other only if its
lead ends the other one's. -/
theorem not_marker_infix {lead lead' : Text} (hlead : ¬ lead <:+ lead') (hbrace : '}' ∉ lead') (hname : '}' ∉ name) :
    ¬ lead ++ name ++ ['}'] <:+: lead' ++ name ++ ['}'] := by
  intro h
  have hclosing : '}' ∈ lead ++ name ++ ['}'] := List.mem_append_right _ List.mem_cons_self
  have hbefore : '}' ∉ lead' ++ name := List.not_mem_append hbrace hname
  rcases Text.infix_append_cons_cases h with hinner | hnil | ⟨left, right, heq, hleft, hright⟩
  · exact hbefore (hinner.subset hclosing)
  · exact absurd (hnil.subset hclosing) List.not_mem_nil
  · obtain rfl := List.prefix_nil.mp hright
    obtain rfl : lead ++ name = left := List.append_cancel_right heq
    obtain ⟨before, hsplit⟩ := hleft
    rw [← List.append_assoc] at hsplit
    exact hlead ⟨before, List.append_cancel_right hsplit⟩

theorem not_beginMarker_infix_endMarker (hname : '}' ∉ name) : ¬ beginMarker name <:+: endMarker name :=
  not_marker_infix (by decide) (by decide) hname

theorem not_endMarker_infix_beginMarker (hname : '}' ∉ name) : ¬ endMarker name <:+: beginMarker name :=
  not_marker_infix (by decide) (by decide) hname

/-- Where a backslash comes only at the front, a part that begins with one can only be there. -/
theorem prefix_of_infix_backslash {part text : Text} (h : '\\' :: part <:+: '\\' :: text) (htext : '\\' ∉ text) :
    part <+: text := by
  rcases List.infix_cons_iff.mp h with hp | hi
  · exact (List.cons_prefix_cons.mp hp).2
  · exact absurd (hi.subset List.mem_cons_self) htext

/-- Of two texts that close with a brace, the second has no other one: the first begins it only if they are equal. -/
theorem eq_of_closed_prefix {first second : Text} (h : first ++ ['}'] <+: second ++ ['}']) (hsecond : '}' ∉ second) :
    first = second := by
  rcases List.prefix_concat_iff.mp h with heq | hbefore
  · exact List.append_cancel_right heq
  · exact absurd (hbefore.subset (List.mem_append_right first List.mem_cons_self)) hsecond

/-- The marker of a name without backslashes holds no marker but itself. -/
theorem eq_of_infix_marker {lead lead' : Text} (hlead : '\\' ∉ lead' ∧ '}' ∉ lead') (hbackslash : '\\' ∉ name)
    (hname : '}' ∉ name) (h : '\\' :: (lead ++ other ++ ['}']) <:+: '\\' :: (lead' ++ name ++ ['}'])) :
    lead ++ other = lead' ++ name := by
  have htext : '\\' ∉ lead' ++ name ++ ['}'] :=
    List.not_mem_append (List.not_mem_append hlead.1 hbackslash) (by decide)
  exact eq_of_closed_prefix (prefix_of_infix_backslash h htext) (List.not_mem_append hlead.2 hname)

/-- Neither marker of an environment is a part of a marker of another one whose name has no backslash. -/
theorem countOf_markers_eq_zero (hbackslash : '\\' ∉ name) (hname : '}' ∉ name) (hne : other ≠ name) :
    (Text.countOf (beginMarker other) (beginMarker name) = 0 ∧
      Text.countOf (beginMarker other) (endMarker name) = 0) ∧
    Text.countOf (endMarker other) (beginMarker name) = 0 ∧
      Text.countOf (endMarker other) (endMarker name) = 0 := by
  have hbegin : '\\' ∉ ("begin\x7b" : Text) ∧ '}' ∉ ("begin\x7b" : Text) := by decide
  have hend : '\\' ∉ ("end\x7b" : Text) ∧ '}' ∉ ("end\x7b" : Text) := by decide
  refine ⟨⟨?_, ?_⟩, ?_, ?_⟩
  · refine Text.countOf_eq_zero fun h => hne ?_
    exact List.append_cancel_left (eq_of_infix_marker hbegin hbackslash hname h)
  · refine Text.countOf_eq_zero fun h => ?_
    have heq : ("begin\x7b" : Text) ++ other = "end\x7b" ++ name := eq_of_infix_marker hend hbackslash hname h
    cases heq
  · refine Text.countOf_eq_zero fun h => ?_
    have heq : ("end\x7b" : Text) ++ other = "begin\x7b" ++ name := eq_of_infix_marker hbegin hbackslash hname h
    cases heq
  · refine Text.countOf_eq_zero fun h => hne ?_
    exact List.append_cancel_left (eq_of_infix_marker hend hbackslash hname h)

end Markers

section Counts

variable {name marker new : Text} {lines next : Document}

/-- One line is added, and all others stay as they are. -/
def AddsLine (new : Text) (lines next : Document) : Prop :=
  ∃ before after, lines = before ++ after ∧ next = before ++ new :: after

/-- The places at which a marker begins, over all lines. -/
def markerPlaces (marker : Text) (lines : Document) : Nat :=
  lines.foldr (fun line n => Text.placesOf marker line + n) 0

theorem occurrences_append (marker : Text) (before after : Document) :
    occurrences marker (before ++ after) = occurrences marker before + occurrences marker after := by
  induction before with
  | nil => simp [occurrences]
  | cons line before ih =>
      simp only [occurrences, List.cons_append, List.foldr_cons] at ih ⊢
      rw [ih, Nat.add_assoc]

theorem AddsLine.occurrences_eq (h : AddsLine new lines next) (marker : Text) :
    occurrences marker next = occurrences marker lines + Text.countOf marker new := by
  obtain ⟨before, after, rfl, rfl⟩ := h
  have hnew : occurrences marker (new :: after) = Text.countOf marker new + occurrences marker after := rfl
  rw [occurrences_append, occurrences_append, hnew]
  omega

theorem AddsLine.extends (h : AddsLine new lines next) : Extends [new] lines next := by
  obtain ⟨before, after, rfl, rfl⟩ := h
  exact (Extends.cons new after).append_left before

theorem AddsLine.length_eq (h : AddsLine new lines next) : next.length = lines.length + 1 := by
  obtain ⟨before, after, rfl, rfl⟩ := h
  simp only [List.length_append, List.length_cons]
  omega

/-- What counts as an occurrence of a marker is every place at which it begins. -/
theorem occurrences_eq_markerPlaces {lead : Text} (hlead : '}' ∉ lead) (hname : '}' ∉ name) (lines : Document) :
    occurrences (lead ++ name ++ "\x7d") lines = markerPlaces (lead ++ name ++ "\x7d") lines := by
  have hcount : Text.countOf (lead ++ name ++ "\x7d") = Text.placesOf (lead ++ name ++ "\x7d") :=
    funext (Text.countOf_eq_placesOf (List.not_mem_append hlead hname))
  rw [occurrences, markerPlaces, hcount]

end Counts

section Gap

variable {name : Text} {lines next : Document}

/-- How many markers of an environment are missing. -/
def gap (name : Text) (lines : Document) : Nat :=
  let balance := EnvironmentBalance.of lines name
  ((balance.begins : Int) - balance.ends).natAbs

/-- The marker of an environment that is missing, if one is. -/
def missingMarker (name : Text) (lines : Document) : Text :=
  let balance := EnvironmentBalance.of lines name
  if balance.ends < balance.begins then endMarker name else beginMarker name

theorem missingMarker_of_lt (h : occurrences (endMarker name) lines < occurrences (beginMarker name) lines) :
    missingMarker name lines = endMarker name :=
  if_pos h

theorem missingMarker_of_le (h : occurrences (beginMarker name) lines ≤ occurrences (endMarker name) lines) :
    missingMarker name lines = beginMarker name :=
  if_neg (Nat.not_lt.mpr h)

theorem gap_eq_natAbs (name : Text) (lines : Document) : gap name lines =
    ((occurrences (beginMarker name) lines : Int) - occurrences (endMarker name) lines).natAbs :=
  rfl

/-- A missing marker closes the gap by one, and as long as the gap is open the same marker is missing. -/
theorem gap_of_addsLine (hname : '}' ∉ name) (hgap : 0 < gap name lines)
    (h : AddsLine (missingMarker name lines) lines next) :
    gap name lines = gap name next + 1 ∧ (0 < gap name next → missingMarker name next = missingMarker name lines) := by
  have hbegins := h.occurrences_eq (beginMarker name)
  have hends := h.occurrences_eq (endMarker name)
  have hbegin : Text.countOf (beginMarker name) (beginMarker name) = 1 := Text.countOf_self nofun
  have hend : Text.countOf (endMarker name) (endMarker name) = 1 := Text.countOf_self nofun
  rw [gap_eq_natAbs] at hgap
  rw [gap_eq_natAbs, gap_eq_natAbs]
  rcases Nat.lt_or_ge (occurrences (endMarker name) lines) (occurrences (beginMarker name) lines) with hopen | hclosed
  · rw [missingMarker_of_lt hopen, Text.countOf_eq_zero (not_beginMarker_infix_endMarker hname)] at hbegins
    rw [missingMarker_of_lt hopen, hend] at hends
    refine ⟨by omega, ?_⟩
    intro hleft
    rw [missingMarker_of_lt hopen, missingMarker_of_lt (by omega)]
  · rw [missingMarker_of_le hclosed, hbegin] at hbegins
    rw [missingMarker_of_le hclosed, Text.countOf_eq_zero (not_endMarker_infix_beginMarker hname)] at hends
    refine ⟨by omega, ?_⟩
    intro hleft
    rw [missingMarker_of_le hclosed, missingMarker_of_le (by omega)]

/-- The markers of other environments stay as many, if the name has no backslash. -/
theorem occurrences_of_addsLine {other : Text} (hname : '}' ∉ name) (hbackslash : '\\' ∉ name) (hne : other ≠ name)
    (h : AddsLine (missingMarker name lines) lines next) :
    occurrences (beginMarker other) next = occurrences (beginMarker other) lines ∧
      occurrences (endMarker other) next = occurrences (endMarker other) lines := by
  obtain ⟨⟨hbegin, hbegin'⟩, hend, hend'⟩ := countOf_markers_eq_zero hbackslash hname hne
  rw [h.occurrences_eq, h.occurrences_eq]
  rcases Nat.lt_or_ge (occurrences (endMarker name) lines) (occurrences (beginMarker name) lines) with hopen | hclosed
  · rw [missingMarker_of_lt hopen, hbegin', hend']
    exact ⟨rfl, rfl⟩
  · rw [missingMarker_of_le hclosed, hbegin, hend]
    exact ⟨rfl, rfl⟩

end Gap

section Rule

variable {r : Record} {lines next : Document} {marker : Log.EnvironmentMarker} {s : Suggestion}

theorem addsLine_of_insertAt {position : Nat} {new : Text} (h : insertAt position new lines = .ok next) :
    AddsLine new lines next := by
  unfold insertAt at h
  split at h
  · obtain rfl := Except.ok.inj h
    exact ⟨_, _, (List.take_append_drop position lines).symm, rfl⟩
  · cases h

theorem fix?_environment (hcategory : r.category = .unclosedEnvironment)
    (hnames : (token? r).bind Log.firstMarker? = some marker) :
    fix? r lines =
      let balance := EnvironmentBalance.of lines marker.name
      if balance.ends < balance.begins then
        some (suggest r ("Add missing " ++ endMarker marker.name) 80
          (addAfter ((namedLine? r).getD (balance.lastBegin.getD lines.length)) (endMarker marker.name)))
      else if balance.begins < balance.ends then
        some (suggest r ("Add missing " ++ beginMarker marker.name) 70
          (addBefore ((namedLine? r).getD (balance.lastEnd.getD 1)) (beginMarker marker.name)))
      else none := by
  simp only [fix?, hcategory, fixEnvironment?, hnames]

theorem fix?_eq_none_iff_gap (hcategory : r.category = .unclosedEnvironment)
    (hnames : (token? r).bind Log.firstMarker? = some marker) :
    fix? r lines = none ↔ gap marker.name lines = 0 := by
  rw [fix?_environment hcategory hnames]
  dsimp only [gap]
  split
  · simp only [reduceCtorEq, false_iff]
    omega
  · split
    · simp only [reduceCtorEq, false_iff]
      omega
    · simp only [true_iff]
      omega

/-- A fix inserts the missing marker, at the line that the record names or next to a line of the document. -/
theorem exists_insertAt (hcategory : r.category = .unclosedEnvironment)
    (hnames : (token? r).bind Log.firstMarker? = some marker) (hfix : fix? r lines = some s) :
    ∃ position, s.edit.apply lines = insertAt position (missingMarker marker.name lines) lines ∧
      position ≤ max 1 ((namedLine? r).getD lines.length) := by
  have hplace {place : Nat} (h : place ≤ max 1 lines.length) :
      (namedLine? r).getD place ≤ max 1 ((namedLine? r).getD lines.length) := by
    cases namedLine? r with
    | none => exact h
    | some number => exact Nat.le_max_right 1 number
  rw [fix?_environment hcategory hnames] at hfix
  dsimp only at hfix
  split at hfix
  · next hopen =>
      obtain rfl := Option.some.inj hfix
      have hlast := hplace (Nat.le_trans (lastLineWith?_getD_le (beginMarker marker.name) lines lines.length) (by omega))
      rw [missingMarker_of_lt hopen]
      exact ⟨_, rfl, Nat.max_le.mpr ⟨Nat.le_max_left .., hlast⟩⟩
  · split at hfix
    · next hclosed =>
        obtain rfl := Option.some.inj hfix
        have hlast := hplace (lastLineWith?_getD_le (endMarker marker.name) lines 1)
        rw [missingMarker_of_le (Nat.le_of_lt hclosed)]
        exact ⟨_, rfl, Nat.le_trans (Nat.sub_le ..) (Nat.max_le.mpr ⟨Nat.le_max_left .., hlast⟩)⟩
    · cases hfix

/-- A round adds the missing marker, and there was one missing. -/
theorem Round.addsMarker (h : Round r lines next) (hcategory : r.category = .unclosedEnvironment)
    (hnames : (token? r).bind Log.firstMarker? = some marker) :
    0 < gap marker.name lines ∧ AddsLine (missingMarker marker.name lines) lines next := by
  obtain ⟨s, hfix, happly⟩ := h
  obtain ⟨position, hinsert, -⟩ := exists_insertAt hcategory hnames hfix
  have hopen : gap marker.name lines ≠ 0 := by
    rw [Ne, ← fix?_eq_none_iff_gap hcategory hnames, hfix]
    exact Option.some_ne_none s
  exact ⟨Nat.pos_of_ne_zero hopen, addsLine_of_insertAt (hinsert.symm.trans happly)⟩

end Rule

section Rounds

variable {r : Record} {lines last : Document} {marker : Log.EnvironmentMarker} {count : Nat}

/-- What so many rounds come to: as many missing markers are added and the gap is closed by as many. -/
structure Closes (name : Text) (count : Nat) (lines last : Document) : Prop where
  gap_eq : count + gap name last = gap name lines
  still_missing : 0 < gap name last → missingMarker name last = missingMarker name lines
  adds : Extends (List.replicate count (missingMarker name lines)) lines last
  others_eq : '\\' ∉ name → ∀ other, other ≠ name →
    occurrences (beginMarker other) last = occurrences (beginMarker other) lines ∧
      occurrences (endMarker other) last = occurrences (endMarker other) lines

theorem Rounds.closes (h : Rounds r count lines last) (hcategory : r.category = .unclosedEnvironment)
    (hnames : (token? r).bind Log.firstMarker? = some marker) (hname : '}' ∉ marker.name) :
    Closes marker.name count lines last := by
  induction h with
  | done => exact ⟨Nat.zero_add _, fun _ => rfl, Extends.refl _, fun _ _ _ => ⟨rfl, rfl⟩⟩
  | @next count lines middle last first rest ih =>
      obtain ⟨hopen, hadds⟩ := first.addsMarker hcategory hnames
      obtain ⟨hgap, hmissing⟩ := gap_of_addsLine hname hopen hadds
      -- the marker that later rounds add is the same, since none is missing once the gap is closed
      have hsame : List.replicate count (missingMarker marker.name middle) =
          List.replicate count (missingMarker marker.name lines) := by
        rcases Nat.eq_zero_or_pos count with rfl | hcount
        · rfl
        · have hleft := ih.gap_eq
          rw [hmissing (by omega)]
      constructor
      · have hrest := ih.gap_eq
        omega
      · intro hleft
        have hrest := ih.gap_eq
        rw [ih.still_missing hleft, hmissing (by omega)]
      · exact hadds.extends.trans (hsame ▸ ih.adds)
      · intro hbackslash other hne
        obtain ⟨hbegins, hends⟩ := occurrences_of_addsLine hname hbackslash hne hadds
        obtain ⟨hbegins', hends'⟩ := ih.others_eq hbackslash other hne
        exact ⟨hbegins'.trans hbegins, hends'.trans hends⟩

theorem namedLine?_le (hline : ∀ n, r.line = some n → n ≤ positionLimit) {number : Nat}
    (h : namedLine? r = some number) : number ≤ positionLimit := by
  unfold namedLine? at h
  split at h
  · next n hn =>
      have hle := hline n hn
      split at h
      · obtain rfl := Option.some.inj h
        omega
      · cases h
  · cases h

/-- The rounds close the gap, if there is a position for each marker. -/
theorem exists_rounds_gap (hcategory : r.category = .unclosedEnvironment)
    (hnames : (token? r).bind Log.firstMarker? = some marker) (hname : '}' ∉ marker.name)
    (hnamed : ∀ number, namedLine? r = some number → number ≤ positionLimit)
    (hroom : namedLine? r = none → lines.length + gap marker.name lines ≤ positionLimit) :
    ∃ last, Rounds r (gap marker.name lines) lines last ∧ fix? r last = none := by
  have happlies : ∀ lines s, (namedLine? r = none → lines.length + gap marker.name lines ≤ positionLimit) →
      fix? r lines = some s → ∃ next, s.edit.apply lines = .ok next := by
    intro lines s hroom hfix
    obtain ⟨position, hinsert, hle⟩ := exists_insertAt hcategory hnames hfix
    have hone : 1 ≤ positionLimit := by decide
    have hposition : position ≤ positionLimit := by
      cases hline : namedLine? r with
      | none =>
          rw [hline, Option.getD_none] at hle
          have hfits := hroom hline
          omega
      | some number =>
          rw [hline, Option.getD_some] at hle
          have hfits := hnamed number hline
          omega
    rw [hinsert, insertAt, if_pos hposition]
    exact ⟨_, rfl⟩
  have hround : ∀ lines next, (namedLine? r = none → lines.length + gap marker.name lines ≤ positionLimit) →
      Round r lines next → (namedLine? r = none → next.length + gap marker.name next ≤ positionLimit) ∧
        gap marker.name next < gap marker.name lines := by
    intro lines next hroom hround
    obtain ⟨hopen, hadds⟩ := hround.addsMarker hcategory hnames
    obtain ⟨hgap, -⟩ := gap_of_addsLine hname hopen hadds
    have hlength := hadds.length_eq
    refine ⟨?_, by omega⟩
    intro hline
    have hfits := hroom hline
    omega
  obtain ⟨count, last, hrounds, hend⟩ := exists_last_round happlies hround hroom
  have hclosed := (hrounds.closes hcategory hnames hname).gap_eq
  rw [(fix?_eq_none_iff_gap hcategory hnames).mp hend, Nat.add_zero] at hclosed
  exact ⟨last, hclosed ▸ hrounds, hend⟩

/-- Rounds for an environment come to an end, and there are exactly as many as markers are missing, wherever the record
points: the rounds add the missing marker, each on a line of its own, until the environment is balanced. Markers are
counted at every place at which they begin. A name without backslash leaves all other environments as they are. (A
document has no more lines than there are positions, neither at first nor in the end.) -/
theorem environment_rounds_balance (hcategory : r.category = .unclosedEnvironment)
    (hnames : (token? r).bind Log.firstMarker? = some marker) (hline : ∀ n, r.line = some n → n ≤ positionLimit) :
    ((EnvironmentBalance.of lines marker.name).begins = markerPlaces (beginMarker marker.name) lines ∧
      (EnvironmentBalance.of lines marker.name).ends = markerPlaces (endMarker marker.name) lines) ∧
    ((namedLine? r = none → lines.length + gap marker.name lines ≤ positionLimit) →
      ∃ last, Rounds r (gap marker.name lines) lines last ∧ fix? r last = none) ∧
    ∀ count last, Rounds r count lines last →
      (fix? r last = none ↔ count = gap marker.name lines) ∧
      (fix? r last = none → (EnvironmentBalance.of last marker.name).balanced = true) ∧
      (∀ next, Round r last next → AddsLine (missingMarker marker.name lines) last next) ∧
      Extends (List.replicate count (missingMarker marker.name lines)) lines last ∧
      ('\\' ∉ marker.name → ∀ other, other ≠ marker.name →
        (EnvironmentBalance.of last other).begins = (EnvironmentBalance.of lines other).begins ∧
          (EnvironmentBalance.of last other).ends = (EnvironmentBalance.of lines other).ends) := by
  obtain ⟨token, -, hmarker⟩ := Option.bind_eq_some_iff.mp hnames
  have hname : '}' ∉ marker.name := brace_not_mem_name hmarker
  refine ⟨⟨?_, ?_⟩, ?_, ?_⟩
  · exact occurrences_eq_markerPlaces (by decide) hname lines
  · exact occurrences_eq_markerPlaces (by decide) hname lines
  · exact exists_rounds_gap hcategory hnames hname fun number => namedLine?_le hline
  · intro count last hrounds
    have hcloses := hrounds.closes hcategory hnames hname
    have hgap := hcloses.gap_eq
    have hend : fix? r last = none ↔ gap marker.name last = 0 := fix?_eq_none_iff_gap hcategory hnames
    refine ⟨?_, ?_, ?_, hcloses.adds, hcloses.others_eq⟩
    · rw [hend]
      omega
    · rw [hend, gap_eq_natAbs]
      intro hzero
      exact beq_iff_eq.mpr (show occurrences _ last = occurrences _ last by omega)
    · intro next hround
      obtain ⟨hopen, hadds⟩ := hround.addsMarker hcategory hnames
      exact hcloses.still_missing hopen ▸ hadds

/-- A record that names an environment, but no line. -/
def strayRecord : Record where
  id := "err_1"
  severity := .error
  category := .unclosedEnvironment
  message := "Environment mismatch: a"
  rawLog := "! LaTeX Error: \\begin\x7ba\x7d ended by \\end\x7bb\x7d."
  file := none
  line := none
  offendingText := some "\\begin\x7ba\x7d ended by \\end\x7bb\x7d".toList

/-- An environment that ends twice without a beginning; the place of the new ones moves down with each. -/
def strayLines : Document := ["\\end\x7ba\x7d", "\\end\x7ba\x7d"]

/-- Two beginnings are added, each before the last end. -/
theorem environment_rounds_balance_stray :
    strayRecord.category = .unclosedEnvironment ∧
      (token? strayRecord).bind Log.firstMarker? = some ⟨"\\begin\x7b", "a"⟩ ∧
      (∀ n, strayRecord.line = some n → n ≤ positionLimit) ∧
      strayLines.length + gap "a" strayLines ≤ positionLimit ∧ gap "a" strayLines = 2 ∧
      ∃ last, Rounds strayRecord 2 strayLines last ∧ fix? strayRecord last = none ∧
        (EnvironmentBalance.of last "a").balanced = true ∧
        Extends [beginMarker "a", beginMarker "a"] strayLines last := by
  have hnames : (token? strayRecord).bind Log.firstMarker? = some ⟨"\\begin\x7b", "a"⟩ := rfl
  have hline : ∀ n, strayRecord.line = some n → n ≤ positionLimit := nofun
  have hroom : strayLines.length + gap "a" strayLines ≤ positionLimit := by decide
  obtain ⟨-, hexists, hall⟩ := @environment_rounds_balance strayRecord strayLines _ rfl hnames hline
  obtain ⟨last, hrounds, hend⟩ := hexists fun _ => hroom
  obtain ⟨-, hbalanced, -, hadds, -⟩ := hall _ last hrounds
  exact ⟨rfl, hnames, hline, hroom, by decide, last, hrounds, hend, hbalanced hend, hadds⟩

end Rounds

end TexMend.Repair
