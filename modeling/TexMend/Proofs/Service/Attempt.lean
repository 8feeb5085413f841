import TexMend.Service.Attempt

/-!
# Where a run of attempts stops

A run goes on while its outcomes are worth another attempt and attempts are left, and its result is the
outcome at which it stops. That is so of any loop that keeps the rules it is given, and the loop here does.
-/

namespace TexMend.Service

variable {α : Type}

/-- A loop of attempts that keeps its rules: `loop n` is what comes of the attempts from `n` on. -/
structure KeepsRules (rules : RetryRules α) (outcome : Nat → Except Failure α) (loop : Nat → Run α) : Prop where
  /-- An outcome that is not worth another attempt is the result. -/
  accepts : ∀ n, rules.repeats (outcome n) = false → loop n = ⟨outcome n, n, [], []⟩
  /-- At the last attempt the outcome comes out as it is, whatever it is worth. -/
  reraises : ∀ n, rules.repeats (outcome n) = true → rules.stops n = true → loop n = ⟨outcome n, n, [], []⟩
  /-- After any other attempt there is a pause, which is told before, and the next attempt. -/
  goesOn : ∀ n, rules.repeats (outcome n) = true → rules.stops n = false → loop n =
    { loop (n + 1) with
      pauses := rules.pause n :: (loop (n + 1)).pauses
      events := rules.told n (outcome n) (rules.pause n) ++ (loop (n + 1)).events }

/-- The outcome of an attempt that is repeated if it may be. -/
def WorthRepeating (outcome : Except Failure α) : Prop :=
  ∃ f, outcome = .error f ∧ f.isTransient = true

/-- Of the attempts from `first` to `last`, the one at which a run stops. -/
structure StopsAt (outcome : Nat → Except Failure α) (first last stop : Nat) : Prop where
  first_le : first ≤ stop
  le_last : stop ≤ last
  repeated : ∀ i, first ≤ i → i < stop → WorthRepeating (outcome i)
  stopped : stop = last ∨ ¬ WorthRepeating (outcome stop)

section Stop

variable {outcome : Nat → Except Failure α} {first last stop : Nat}

theorem StopsAt.here (hlast : first ≤ last) (h : first = last ∨ ¬ WorthRepeating (outcome first)) :
    StopsAt outcome first last first :=
  ⟨Nat.le_refl first, hlast, fun _ hle hlt => absurd hlt (Nat.not_lt.mpr hle), h⟩

/-- A repeated attempt leaves it to those after it where the run stops. -/
theorem StopsAt.later (hfirst : WorthRepeating (outcome first)) (h : StopsAt outcome (first + 1) last stop) :
    StopsAt outcome first last stop where
  first_le := Nat.le_of_succ_le h.first_le
  le_last := h.le_last
  repeated := by
    intro i hle hlt
    rcases Nat.eq_or_lt_of_le hle with rfl | hnext
    · exact hfirst
    · exact h.repeated i hnext hlt
  stopped := h.stopped

/-- A run stops at one attempt only. -/
theorem StopsAt.unique {other : Nat} (h : StopsAt outcome first last stop)
    (h' : StopsAt outcome first last other) : stop = other := by
  rcases Nat.lt_trichotomy stop other with hlt | heq | hlt
  · rcases h.stopped with rfl | hstopped
    · exact absurd h'.le_last (Nat.not_le.mpr hlt)
    · exact absurd (h'.repeated stop h.first_le hlt) hstopped
  · exact heq
  · rcases h'.stopped with rfl | hstopped
    · exact absurd h.le_last (Nat.not_le.mpr hlt)
    · exact absurd (h.repeated other h'.first_le hlt) hstopped

end Stop

theorem failedInPassing_iff {outcome : Except Failure α} : failedInPassing outcome = true ↔ WorthRepeating outcome := by
  cases outcome with
  | ok a => simp [failedInPassing, WorthRepeating]
  | error f => simp [failedInPassing, WorthRepeating]

section Loop

variable {p : RetryPolicy} {outcome : Nat → Except Failure α} {loop : Nat → Run α}

/-- What is true of an attempt at which a loop ends, and of any other if it is true of the next one, is true of all
attempts up to the last one that a policy allows. -/
theorem KeepsRules.induction (h : KeepsRules p.rules outcome loop) {motive : Nat → Run α → Prop} {last : Nat}
    (hlast : p.maxAttempts.toNat = last)
    (ends : ∀ n ≤ last, n = last ∨ ¬ WorthRepeating (outcome n) → motive n ⟨outcome n, n, [], []⟩)
    (goesOn : ∀ n run, n < last → WorthRepeating (outcome n) → motive (n + 1) run →
      motive n { run with
        pauses := p.pause n :: run.pauses
        events := toldRetry n (outcome n) (p.pause n) ++ run.events })
    {attempt : Nat} (hle : attempt ≤ last) : motive attempt (loop attempt) := by
  induction hleft : last - attempt generalizing attempt with
  | zero =>
      obtain rfl : attempt = last := by omega
      have hend : loop attempt = ⟨outcome attempt, attempt, [], []⟩ := by
        cases hrepeats : p.rules.repeats (outcome attempt) with
        | false => exact h.accepts attempt hrepeats
        | true => exact h.reraises attempt hrepeats (decide_eq_true (by omega))
      rw [hend]
      exact ends attempt hle (.inl rfl)
  | succ left ih =>
      cases hrepeats : p.rules.repeats (outcome attempt) with
      | false =>
          rw [h.accepts attempt hrepeats]
          refine ends attempt hle (.inr fun hworth => ?_)
          exact absurd (failedInPassing_iff.mpr hworth) (Bool.eq_false_iff.mp hrepeats)
      | true =>
          rw [h.goesOn attempt hrepeats (decide_eq_false (by omega))]
          exact goesOn attempt _ (by omega) (failedInPassing_iff.mp hrepeats) (ih (by omega) (by omega))

/-- The result of a loop that keeps the rules of a policy is the outcome of its last attempt, and there it stops. -/
theorem KeepsRules.stopsAt (h : KeepsRules p.rules outcome loop) {attempt last : Nat} (hle : attempt ≤ last)
    (hlast : p.maxAttempts.toNat = last) :
    StopsAt outcome attempt last (loop attempt).attempts ∧
      (loop attempt).result = outcome (loop attempt).attempts := by
  refine h.induction (motive := fun n run =>
    StopsAt outcome n last run.attempts ∧ run.result = outcome run.attempts) hlast ?_ ?_ hle
  · exact fun n hn hend => ⟨.here hn hend, rfl⟩
  · rintro n run - hworth ⟨hstops, hresult⟩
    exact ⟨hstops.later hworth, hresult⟩

end Loop

namespace RetryPolicy

variable (p : RetryPolicy) (outcome : Nat → Except Failure α)

/-- The loop here keeps its rules. -/
theorem keepsRules_runFrom : KeepsRules p.rules outcome (p.runFrom outcome) where
  accepts := by
    intro n hlasting
    rw [runFrom]
    cases (p.maxAttempts - n).toNat with
    | zero => rfl
    | succ left => rw [RetryRules.runFrom, hlasting, Bool.false_and]; rfl
  reraises := by
    intro n _ hstops
    have hleft : (p.maxAttempts - n).toNat = 0 := by
      have hle : p.maxAttempts ≤ n := of_decide_eq_true hstops
      omega
    rw [runFrom, hleft, RetryRules.runFrom]
  goesOn := by
    intro n hrepeats hstops
    have hlt : ¬ p.maxAttempts ≤ n := of_decide_eq_false hstops
    have hleft : (p.maxAttempts - n).toNat = (p.maxAttempts - (n + 1 : Nat)).toNat + 1 := by omega
    rw [runFrom, hleft, RetryRules.runFrom, hrepeats, hstops]
    rfl

variable {p}

theorem run_stopsAt (h : 1 ≤ p.maxAttempts) :
    StopsAt outcome 1 p.maxAttempts.toNat (p.run outcome).attempts ∧
      (p.run outcome).result = outcome (p.run outcome).attempts :=
  (p.keepsRules_runFrom outcome).stopsAt (by omega) rfl

end RetryPolicy

end TexMend.Service
