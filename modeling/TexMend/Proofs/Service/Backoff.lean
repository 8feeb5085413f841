import Mathlib.Data.List.Forall2
import TexMend.Proofs.Service.Attempt

/-!
# Pauses between attempts

Only a timeout or a fault of the network is worth another attempt. Between two attempts there is one pause and
one entry in the journal; the pauses double from one second up to half a minute.
-/

namespace TexMend.Service

variable {α : Type}

/-- A timeout or a fault of the network, with what it says. -/
inductive Passing : Failure → Prop
  | timeout {fault : TransportFault} {message : Text} (h : fault.family = .timeout) :
      Passing (.transport fault message)
  | network {fault : TransportFault} {message : Text} (h : fault.family = .network) :
      Passing (.transport fault message)

theorem passing_iff {f : Failure} : Passing f ↔ f.isTransient = true := by
  constructor
  · rintro (h | h) <;> simp [Failure.isTransient, h]
  · intro h
    cases f with
    | transport fault message =>
        cases hfamily : fault.family with
        | timeout => exact .timeout hfamily
        | network => exact .network hfamily
        | other => simp [Failure.isTransient, hfamily] at h
    | _ => cases h

/-- The seconds of the pause after an attempt: they double up to half a minute. -/
def backoff (attempt : Nat) : Nat :=
  min 30 (Nat.pow 2 (attempt - 1))

section Pause

/-- The shortest pause is one second. -/
theorem lt_second_iff {n : Nat} : (Number.decimal 10 1).lt (.int n) = true ↔ 1 < n := by
  have hvalue : Number.decimal 10 1 = .real (.finite false (2 ^ 52) (-52)) := by decide +kernel
  have hcompare : (Number.real (.finite false (2 ^ 52) (-52))).lt (.int n) =
      !decide ((n : Int) * 4503599627370496 ≤ 4503599627370496) := rfl
  rw [hvalue, hcompare, Bool.not_eq_true', decide_eq_false_iff_not]
  omega

/-- The longest pause is half a minute. -/
theorem lt_halfMinute_iff {n : Nat} : (Number.decimal 300 1).lt (.int n) = true ↔ 30 < n := by
  have hvalue : Number.decimal 300 1 = .real (.finite false (30 * 2 ^ 48) (-48)) := by decide +kernel
  have hcompare : (Number.real (.finite false (30 * 2 ^ 48) (-48))).lt (.int n) =
      !decide ((n : Int) * 281474976710656 ≤ 8444249301319680) := rfl
  rw [hvalue, hcompare, Bool.not_eq_true', decide_eq_false_iff_not]
  omega

/-- A whole number of seconds is kept between the shortest and the longest pause. -/
theorem toDouble_clamped {n : Nat} (h : 1 ≤ n) :
    (greater (greater (.int 0) (.decimal 10 1)) (lesser (.int n) (.decimal 300 1))).toDouble =
      .ofInt (min 30 n : Nat) := by
  have hfloor : greater (.int 0) (.decimal 10 1) = .decimal 10 1 := by decide +kernel
  rw [hfloor]
  by_cases hlong : 30 < n
  · rw [lesser, if_pos (lt_halfMinute_iff.mpr hlong), Nat.min_eq_left (Nat.le_of_lt hlong)]
    decide +kernel
  · rw [lesser, if_neg (mt lt_halfMinute_iff.mp hlong), Nat.min_eq_right (Nat.le_of_not_lt hlong)]
    by_cases hone : 1 < n
    · rw [greater, if_pos (lt_second_iff.mpr hone)]
      rfl
    · obtain rfl : n = 1 := by omega
      decide +kernel

theorem pause_eq_backoff (m : Int) (attempt : Nat) :
    ({ maxAttempts := m } : RetryPolicy).pause attempt = .ofInt (backoff attempt) :=
  toDouble_clamped (Nat.pow_pos (by decide))

end Pause

/-- The course of a run with up to `m` attempts: timeouts and faults of the network are repeated and nothing
else is, and between two attempts there is one pause and one entry in the journal. -/
structure BacksOff (m : Nat) (outcome : Nat → Except Failure α) (run : Run α) : Prop where
  one_le_attempts : 1 ≤ run.attempts
  attempts_le : run.attempts ≤ m
  repeated : ∀ i, 1 ≤ i → i < run.attempts → ∃ f, outcome i = .error f ∧ Passing f
  stopped : run.attempts < m → ∀ f, outcome run.attempts = .error f → ¬ Passing f
  result : run.result = outcome run.attempts
  pauses : run.pauses = (List.range' 1 (run.attempts - 1)).map fun i => .ofInt (backoff i)
  events : List.Forall₂
    (fun i entry => ∃ f, outcome i = .error f ∧ Passing f ∧ entry = .retrying i f (.ofInt (backoff i)))
    (List.range' 1 (run.attempts - 1)) run.events

namespace RetryPolicy

/-- What is written to the journal between an attempt and the next one. -/
def Told (p : RetryPolicy) (outcome : Nat → Except Failure α) (attempt : Nat) (entry : Event) : Prop :=
  ∃ f, outcome attempt = .error f ∧ Passing f ∧ entry = .retrying attempt f (p.pause attempt)

variable {outcome : Nat → Except Failure α} {loop : Nat → Run α}

/-- A loop that keeps the rules of a policy pauses once after each attempt but the last, and tells of it. -/
theorem pauses_of_keepsRules {p : RetryPolicy} (h : KeepsRules p.rules outcome loop) {attempt : Nat}
    (hle : attempt ≤ p.maxAttempts.toNat) :
    (loop attempt).pauses = (List.range' attempt ((loop attempt).attempts - attempt)).map p.pause ∧
      List.Forall₂ (p.Told outcome) (List.range' attempt ((loop attempt).attempts - attempt)) (loop attempt).events := by
  refine (h.induction (motive := fun n run => n ≤ run.attempts ∧
    run.pauses = (List.range' n (run.attempts - n)).map p.pause ∧
      List.Forall₂ (p.Told outcome) (List.range' n (run.attempts - n)) run.events) rfl ?_ ?_ hle).2
  · intro n _ _
    simp
  · rintro n run - ⟨f, hf, htransient⟩ ⟨hfirst, hpauses, hevents⟩
    have hlength : run.attempts - n = run.attempts - (n + 1) + 1 := by omega
    have htold : toldRetry n (outcome n) (p.pause n) = [.retrying n f (p.pause n)] := by
      rw [hf]
      rfl
    refine ⟨Nat.le_of_succ_le hfirst, ?_, ?_⟩
    · rw [hlength, List.range'_succ, List.map_cons, hpauses]
    · rw [hlength, List.range'_succ, htold]
      exact .cons ⟨f, hf, passing_iff.mpr htransient, rfl⟩ hevents

theorem backsOff_of_keepsRules {m : Nat} (hm : 1 ≤ m)
    (h : KeepsRules ({ maxAttempts := m } : RetryPolicy).rules outcome loop) : BacksOff m outcome (loop 1) := by
  obtain ⟨hstops, hresult⟩ := h.stopsAt hm (Int.toNat_natCast m)
  have hone : 1 ≤ ({ maxAttempts := m } : RetryPolicy).maxAttempts.toNat := hm
  obtain ⟨hpauses, hevents⟩ := pauses_of_keepsRules h hone
  refine ⟨hstops.first_le, hstops.le_last, ?_, ?_, hresult, ?_, ?_⟩
  · intro i hi hlt
    obtain ⟨f, hf, htransient⟩ := hstops.repeated i hi hlt
    exact ⟨f, hf, passing_iff.mpr htransient⟩
  · intro hlt f hf hpassing
    rcases hstops.stopped with hlast | hlasting
    · exact absurd hlast (Nat.ne_of_lt hlt)
    · exact hlasting ⟨f, hf, passing_iff.mp hpassing⟩
  · exact hpauses.trans (List.map_congr_left fun i _ => pause_eq_backoff m i)
  · apply hevents.imp
    rintro i entry ⟨f, hf, hpassing, rfl⟩
    exact ⟨f, hf, hpassing, by rw [pause_eq_backoff]⟩

/-- A loop that keeps the rules of a policy with the usual pauses stops at the first outcome that is neither a timeout
nor a fault of the network, or at the last attempt that is allowed, and its result is the outcome there, unchanged. So
does the loop here. -/
theorem run_backsOff {m : Nat} (hm : 1 ≤ m) (outcome : Nat → Except Failure α) :
    (∀ loop, KeepsRules ({ maxAttempts := m } : RetryPolicy).rules outcome loop → BacksOff m outcome (loop 1)) ∧
      BacksOff m outcome (({ maxAttempts := m } : RetryPolicy).run outcome) :=
  ⟨fun _ hloop => backsOff_of_keepsRules hm hloop, backsOff_of_keepsRules hm (keepsRules_runFrom _ outcome)⟩

/-- A service that is not reached, then too slow, then refuses for good. -/
def faltering : Nat → Except Failure Unit
  | 1 => .error (.transport .connectError "down")
  | 2 => .error (.transport .readTimeout "slow")
  | _ => .error (.service "refused")

/-- Two faults in passing are repeated after one second and two, and the failure after them is not. -/
theorem run_backsOff_faltering :
    let policy : RetryPolicy := { maxAttempts := (5 : Nat) }
    1 ≤ 5 ∧ KeepsRules policy.rules faltering (policy.runFrom faltering) ∧ (policy.run faltering).attempts = 3 ∧
      (policy.run faltering).result = .error (.service "refused") ∧
      (policy.run faltering).pauses = [.ofInt 1, .ofInt 2] := by
  intro policy
  have hkeeps := policy.keepsRules_runFrom faltering
  have hcourse := (run_backsOff (m := 5) (by decide) faltering).1 _ hkeeps
  have hattempts : (policy.run faltering).attempts = 3 := by rfl
  refine ⟨by decide, hkeeps, hattempts, ?_, ?_⟩
  · exact hcourse.result
  · exact hcourse.pauses

end RetryPolicy

end TexMend.Service
