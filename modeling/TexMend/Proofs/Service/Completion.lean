import TexMend.Service.OpenRouter
import TexMend.Proofs.Service.Attempt
import TexMend.Proofs.Text.Stretch

/-!
# What an exchange comes to

The outcome of the last attempt settles what the caller gets: a text that fits, or one of the three failures
that are documented. One outcome comes to another failure. If the service refuses for a while and tells of
the time in digits that make no number, the reading of that header fails.
-/

namespace TexMend.Service.OpenRouter

/-! ## Outcomes of an attempt -/

/-- The header in which a service that refuses tells of the time. -/
def Response.delay (r : Response) : Text :=
  r.header "retry-after"

/-- The outcome is one of the transport: a response or a fault. -/
def FromTransport (outcome : Except Failure Response) : Prop :=
  ∀ f, outcome = .error f → ∃ fault message, f = .transport fault message

/-- The service refuses for a while, and tells of the time in the header. -/
def RefusedWith (header : Text) (outcome : Except Failure Response) : Prop :=
  ∃ r : Response, outcome = .ok r ∧ r.status = 429 ∧ r.delay = header

def TimedOut (outcome : Except Failure Response) : Prop :=
  ∃ fault message, outcome = .error (.transport fault message) ∧ fault.family = .timeout

section Outcome

variable {header message : Text} {r : Response} {fault : TransportFault} {f : Failure}

@[simp]
theorem refusedWith_ok : RefusedWith header (.ok r) ↔ r.status = 429 ∧ r.delay = header := by
  simp [RefusedWith]

@[simp]
theorem not_refusedWith_error : ¬ RefusedWith header (.error f) := by
  simp [RefusedWith]

@[simp]
theorem timedOut_fault : TimedOut (.error (.transport fault message)) ↔ fault.family = .timeout := by
  simp [TimedOut]

@[simp]
theorem not_timedOut_ok : ¬ TimedOut (.ok r) := by
  simp [TimedOut]

end Outcome

/-- The header is made of digits that are no number: some have the form of a digit but no value, or there
are too many. -/
def UnreadableDelay (header : Text) : Prop :=
  header ≠ [] ∧ (∀ c ∈ header, Text.isDigitInForm c = true) ∧
    ((∃ c ∈ header, Text.decimalValue? c = none) ∨ Text.digitLimit < header.length)

/-- All that the outcome of the last attempt can come to. -/
inductive ComesTo : Except Failure Response → Except Failure Text → Prop
  | timeout {fault : TransportFault} {message : Text} (hfamily : fault.family = .timeout) :
    ComesTo (.error (.transport fault message)) (.error (.timeout ("OpenRouter request timed out: " ++ message)))
  | fault {fault : TransportFault} {message : Text} (hfamily : fault.family ≠ .timeout) :
    ComesTo (.error (.transport fault message)) (.error (.service ("OpenRouter request failed: " ++ message)))
  | refused {r : Response} {seconds : Option Int} (hstatus : r.status = 429)
    (hdelay : ¬ UnreadableDelay r.delay) :
    ComesTo (.ok r) (.error (.rateLimit "OpenRouter rate limit exceeded" seconds))
  | refusedUnreadably {r : Response} (hstatus : r.status = 429)
    (hdelay : UnreadableDelay r.delay) : ComesTo (.ok r) (.error (.value "int"))
  | useless {r : Response} {message : Text} (hstatus : r.status ≠ 429) :
    ComesTo (.ok r) (.error (.service message))
  | reply {r : Response} {text : Text} (hstatus : r.status ≠ 429) (hlength : text.length ≤ 20000)
    (htrimmed : Text.Trimmed text) : ComesTo (.ok r) (.ok text)

/-! ## Lists that are read or checked member by member -/

section Lists

variable {α β ε : Type} {items : List α}

/-- A list cannot be read if one of its members cannot. -/
theorem mapM_eq_none_iff {read? : α → Option β} :
    items.mapM read? = none ↔ ∃ a ∈ items, read? a = none := by
  induction items with
  | nil => simp
  | cons a rest ih =>
      rw [List.mapM_cons]
      cases h : read? a with
      | none => simp [h]
      | some b => cases hrest : rest.mapM read? <;> simp [h, hrest, ← ih]

theorem length_of_mapM_eq_some {read? : α → Option β} {values : List β} (h : items.mapM read? = some values) :
    values.length = items.length := by
  induction items generalizing values with
  | nil =>
      obtain rfl := Option.some.inj h
      rfl
  | cons a rest ih =>
      rw [List.mapM_cons] at h
      obtain ⟨b, -, hrest⟩ := Option.bind_eq_some_iff.mp h
      obtain ⟨more, hmore, hvalues⟩ := Option.bind_eq_some_iff.mp hrest
      obtain rfl := Option.some.inj hvalues
      rw [List.length_cons, List.length_cons, ih hmore]

/-- A check of all members fails as the check of one of them does. -/
theorem exists_of_forM_eq_error {check : α → Except ε Unit} {e : ε} (h : items.forM check = .error e) :
    ∃ a ∈ items, check a = .error e := by
  induction items with
  | nil => cases h
  | cons a rest ih =>
      change (check a >>= fun _ => rest.forM check) = .error e at h
      cases ha : check a with
      | error e' =>
          rw [ha] at h
          exact ⟨a, List.mem_cons_self, ha.trans h⟩
      | ok u =>
          rw [ha] at h
          obtain ⟨b, hb, hcheck⟩ := ih h
          exact ⟨b, List.mem_cons_of_mem a hb, hcheck⟩

end Lists

/-! ## One outcome -/

/-- Reading the header fails on the digits that are no number, and on no other header. -/
theorem retryAfter?_cases (header : Text) :
    (UnreadableDelay header ∧ retryAfter? header = .error (.value "int")) ∨
      (¬ UnreadableDelay header ∧ ∃ seconds, retryAfter? header = .ok seconds) := by
  unfold retryAfter?
  split
  · next hform =>
      rw [Bool.or_eq_true, List.isEmpty_iff, Bool.not_eq_true', List.all_eq_false] at hform
      refine Or.inr ⟨?_, none, rfl⟩
      rintro ⟨hne, hdigits, -⟩
      rcases hform with hempty | ⟨c, hc, hform⟩
      · exact hne hempty
      · exact hform (hdigits c hc)
  · next hform =>
      obtain ⟨hne, hdigits⟩ : header ≠ [] ∧ ∀ c ∈ header, Text.isDigitInForm c = true := by
        simpa using hform
      split
      · next hnone => exact Or.inl ⟨⟨hne, hdigits, Or.inl (mapM_eq_none_iff.mp hnone)⟩, rfl⟩
      · next digits hvalues =>
          have hlength : digits.length = header.length := length_of_mapM_eq_some hvalues
          split
          · next hlong => exact Or.inl ⟨⟨hne, hdigits, Or.inr (hlength ▸ hlong)⟩, rfl⟩
          · next hshort =>
              refine Or.inr ⟨?_, _, rfl⟩
              rintro ⟨-, -, hnone | hlong⟩
              · rw [← mapM_eq_none_iff, hvalues] at hnone
                cases hnone
              · exact hshort (hlength ▸ hlong)

section Response

variable {r : Response}

theorem ofRefusal_comesTo (hstatus : r.status = 429) : ComesTo (.ok r) (ofRefusal r).1 := by
  rcases retryAfter?_cases r.delay with ⟨hdelay, hread⟩ | ⟨hdelay, seconds, hread⟩
  · rw [Response.delay] at hread
    simp only [ofRefusal, hread]
    exact .refusedUnreadably hstatus hdelay
  · rw [Response.delay] at hread
    simp only [ofRefusal, hread]
    exact .refused hstatus hdelay

theorem ofContent_comesTo (hstatus : r.status ≠ 429) (content : Option Text) :
    ComesTo (.ok r) (ofContent content).1 := by
  simp only [ofContent]
  split
  · exact .useless hstatus
  · next hlength => exact .reply hstatus (Nat.le_of_not_lt hlength) (Text.trimmed_strip _)

theorem ofResponse_comesTo (r : Response) : ComesTo (.ok r) (ofResponse r).1 := by
  unfold ofResponse
  split
  · next hstatus => exact ofRefusal_comesTo hstatus
  · next hstatus =>
      split
      · exact .useless hstatus
      · split
        · exact .useless hstatus
        · exact .reply hstatus (Nat.zero_le _) Text.trimmed_nil
        · exact ofContent_comesTo hstatus _

end Response

/-- Every outcome of the transport comes to something that is told of. -/
theorem ofOutcome_comesTo {outcome : Except Failure Response} (h : FromTransport outcome) :
    ComesTo outcome (ofOutcome outcome).1 := by
  cases outcome with
  | ok r => exact ofResponse_comesTo r
  | error f =>
      obtain ⟨fault, message, rfl⟩ := h f rfl
      simp only [ofOutcome, ofFault]
      split
      · next hfamily => exact .timeout hfamily
      · next hfamily => exact .fault hfamily

/-! ## The whole exchange -/

/-- What an exchange promises its caller, by the last outcome. -/
structure Settled (final : Except Failure Response) (result : Except Failure Text) : Prop where
  reply : ∀ text, result = .ok text → text.length ≤ 20000 ∧ Text.Trimmed text
  rateLimit_iff : (∃ message seconds, result = .error (.rateLimit message seconds)) ↔
    ∃ header, RefusedWith header final ∧ ¬ UnreadableDelay header
  timeout_iff : (∃ message, result = .error (.timeout message)) ↔ TimedOut final
  value_iff : (∃ message, result = .error (.value message)) ↔
    ∃ header, RefusedWith header final ∧ UnreadableDelay header
  service : ∀ f, result = .error f → (∀ header, ¬ RefusedWith header final) → ¬ TimedOut final →
    ∃ message, f = .service message

theorem ComesTo.settled {final : Except Failure Response} {result : Except Failure Text}
    (h : ComesTo final result) : Settled final result := by
  cases h with
  | timeout hfamily => constructor <;> simp [hfamily]
  | fault hfamily => constructor <;> simp [hfamily]
  | refused hstatus hdelay => constructor <;> simp [hstatus, hdelay]
  | refusedUnreadably hstatus hdelay => constructor <;> simp [hstatus, hdelay]
  | useless hstatus => constructor <;> simp [hstatus]
  | reply hstatus hlength htrimmed => constructor <;> simp [hstatus, hlength, htrimmed]

/-- A request that cannot be made fails in a way that is not foreseen. -/
theorem isForeseen_of_request_eq_error {s : Settings.OpenRouterSettings} {system user : Text} {f : Failure}
    (h : request s system user = .error f) : f.isForeseen = false := by
  unfold request at h
  split at h
  · obtain rfl := Except.error.inj h
    rfl
  · split at h
    · next f' hheaders =>
        obtain rfl := Except.error.inj h
        obtain ⟨⟨name, value⟩, -, hcheck⟩ := exists_of_forM_eq_error hheaders
        simp only [checkHeader] at hcheck
        split at hcheck
        · cases hcheck
        · obtain rfl := Except.error.inj hcheck
          rfl
    · split at h
      · next f' hnumbers =>
          obtain rfl := Except.error.inj h
          unfold checkNumbers at hnumbers
          split at hnumbers
          · cases hnumbers
          · obtain rfl := Except.error.inj hnumbers
            rfl
      · cases h

/-- An exchange stops where its attempts do, and the outcome there settles what the caller gets. A request
that cannot be made is not sent. -/
theorem converse_settles (s : Settings.OpenRouterSettings) (system user : Text)
    (outcome : Nat → Except Failure Response) (hmax : 1 ≤ s.maxAttempts)
    (htransport : ∀ n, FromTransport (outcome n)) :
    (∀ r, request s system user = .ok r →
      StopsAt outcome 1 s.maxAttempts.toNat (converse s system user outcome).1.attempts ∧
      Settled (outcome (converse s system user outcome).1.attempts)
        (converse s system user outcome).1.result) ∧
    ∀ f, request s system user = .error f →
      (converse s system user outcome).1.result = .error f ∧ f.isForeseen = false := by
  constructor
  · intro r hrequest
    have hpolicy : 1 ≤ (policy s).maxAttempts := hmax
    obtain ⟨hstops, hresult⟩ := RetryPolicy.run_stopsAt outcome hpolicy
    simp only [converse, hrequest, complete]
    rw [← hresult]
    refine ⟨hstops, (ofOutcome_comesTo ?_).settled⟩
    rw [hresult]
    exact htransport _
  · intro f hrequest
    simp only [converse, hrequest]
    exact ⟨trivial, isForeseen_of_request_eq_error hrequest⟩

/-- Settings with one credential and all else as it is by default. -/
def sampleSettings : Settings.OpenRouterSettings := { apiKey := "sk-or-test" }

/-- A response that refuses and tells of the time in the header. -/
def refusal (header : Text) : Response :=
  ⟨429, [("Retry-After", header)], []⟩

/-- A service that is not reached at first and then refuses. -/
def refusing (header : Text) : Nat → Except Failure Response
  | 1 => .error (.transport .connectError "down")
  | _ => .ok (refusal header)

/-- A refusal after a repeated attempt is told as one if its time is a number. -/
theorem converse_settles_refusal :
    1 ≤ sampleSettings.maxAttempts ∧ (∀ n, FromTransport (refusing "12" n)) ∧
      (converse sampleSettings "s" "u" (refusing "12")).1.attempts = 2 ∧
      ∃ message seconds, (converse sampleSettings "s" "u" (refusing "12")).1.result =
        .error (.rateLimit message seconds) := by
  have htransport : ∀ n, FromTransport (refusing "12" n) := by
    rintro (_ | _ | n) f hf
    · cases hf
    · exact ⟨_, _, (Except.error.inj hf).symm⟩
    · cases hf
  have hattempts : (converse sampleSettings "s" "u" (refusing "12")).1.attempts = 2 := by decide +kernel
  have hrefused : RefusedWith "12" (refusing "12" 2) := ⟨refusal "12", rfl, rfl, by decide +kernel⟩
  have hdelay : ¬ UnreadableDelay "12" := by
    rintro ⟨-, -, ⟨c, hc, hnone⟩ | hlong⟩
    · have hvalues : (("12" : Text).all fun d => (Text.decimalValue? d).isSome) = true := by decide
      have hvalue := List.all_eq_true.mp hvalues c hc
      rw [hnone] at hvalue
      cases hvalue
    · exact absurd hlong (by decide)
  obtain ⟨hsettles, -⟩ := converse_settles sampleSettings "s" "u" (refusing "12") (by decide) htransport
  cases hrequest : request sampleSettings "s" "u" with
  | error f =>
      have hresult : (request sampleSettings "s" "u").isOk = true := by decide +kernel
      rw [hrequest] at hresult
      cases hresult
  | ok r =>
      have hsettled := (hsettles r hrequest).2
      rw [hattempts] at hsettled
      exact ⟨by decide, htransport, hattempts, hsettled.rateLimit_iff.mpr ⟨"12", hrefused, hdelay⟩⟩

/-- A refusal that tells of the time in a digit without a value is told as something else. -/
theorem refusal_not_rateLimit :
    RefusedWith "²" (.ok (refusal "²")) ∧
      (converse { sampleSettings with maxAttempts := 1 } "s" "u" fun _ => .ok (refusal "²")).1.result =
        .error (.value "int") :=
  ⟨⟨refusal "²", rfl, rfl, by decide +kernel⟩, by rfl⟩

end TexMend.Service.OpenRouter
