import Mathlib.Data.List.Induction
import TexMend.Session
import TexMend.Proofs.Assist.Consultation
import TexMend.Proofs.Diagnosis.Lookup

/-!
# Requests

A request for the fix of one record agrees with the diagnosis: on the source that was diagnosed it gives the
fix that the diagnosis has, and the assistant is asked only where there is none. However many logs are
diagnosed and fixes are asked for, nothing is sent but about a record for which no rule proposes a fix. The
same holds of everything that is sent during a session.
-/

namespace TexMend

open Assist

namespace Diagnoser

/-- A call of a diagnoser. -/
inductive Call where
  | diagnose (log source : Text)
  /-- Ask for the fix of a record on a source, in one of the diagnoses so far, which count from zero. -/
  | request (number : Nat) (id source : Text)

/-- A request and what came of it. -/
structure Request where
  diagnosis : Diagnosis
  id : Text
  source : Text
  answer : Consultation

/-- What is known after some calls: the provider as it is then, and all diagnoses and requests. -/
structure Course where
  provider : Provider
  diagnoses : List Diagnosis := []
  requests : List Request := []

namespace Course

/-- Everything that was sent. -/
def sent (c : Course) : List Text :=
  c.requests.flatMap fun q => q.answer.sent

/-- One more call. A request in a diagnosis that was not made is none. -/
def step (d : Diagnoser) (c : Course) : Call → Course
  | .diagnose log source => { c with diagnoses := c.diagnoses ++ [d.diagnose log source] }
  | .request number id source =>
    match c.diagnoses[number]? with
    | none => c
    | some diagnosis =>
      let answer := d.requestFix c.provider diagnosis id source
      { c with
        provider := answer.provider
        requests := c.requests ++ [⟨diagnosis, id, source, answer⟩] }

/-- Some calls, one after the other. -/
def run (d : Diagnoser) (c : Course) (calls : List Call) : Course :=
  calls.foldl (step d) c

end Course

/-- The prompt of a request was masked by the assistant, and is about a record of the diagnosis for which no
rule proposes a fix on the source of the request. -/
def Request.Justifies (d : Diagnoser) (q : Request) (text : Text) : Prop :=
  ∃ r ∈ q.diagnosis.parsed.records, r.id = q.id ∧ Repair.fix? r (Text.splitLines q.source) = none ∧
    ∃ a, d.assistant = some a ∧
      a.redactor.redact (prompt a.contextLines r (Text.splitLines q.source)) = .ok text

variable {d : Diagnoser} {p : Provider} {diagnosis : Diagnosis} {log source id text : Text} {r : Record}

/-! ## One request -/

/-- The rules come first. -/
theorem outcome_requestFix_of_fix? {s : Suggestion} (hr : diagnosis.parsed.find? id = some r)
    (h : Repair.fix? r (Text.splitLines source) = some s) :
    (d.requestFix p diagnosis id source).outcome = (.answered (some s), [], p) := by
  simp only [requestFix, hr, h]
  rfl

theorem outcome_requestFix_of_find?_eq_none (h : diagnosis.parsed.find? id = none) :
    (d.requestFix p diagnosis id source).outcome = (.answered none, [], p) := by
  simp only [requestFix, h]
  rfl

/-- Where no rule applies, the assistant is asked. -/
theorem outcome_requestFix_of_fix?_eq_none (hr : diagnosis.parsed.find? id = some r)
    (h : Repair.fix? r (Text.splitLines source) = none) :
    (d.requestFix p diagnosis id source).outcome =
      match d.assistant with
      | some a => (a.consult p r (Text.splitLines source)).outcome
      | none => (.answered none, [], p) := by
  simp only [requestFix, hr, h]
  cases d.assistant <;> rfl

/-- Nothing happens to the provider, or one prompt is sent, about a known record to which no rule applies. -/
theorem requestFix_cases (d : Diagnoser) (p : Provider) (diagnosis : Diagnosis) (id source : Text) :
    let answer := d.requestFix p diagnosis id source
    (answer.sent = [] ∧ answer.provider = p) ∨
      ∃ text, answer.sent = [text] ∧ answer.provider = p.call.2 ∧
        Request.Justifies d ⟨diagnosis, id, source, answer⟩ text := by
  intro answer
  have hquiet : ∀ {upshot : Upshot}, answer.outcome = (upshot, [], p) →
      answer.sent = [] ∧ answer.provider = p :=
    fun h => Prod.mk.inj (Prod.mk.inj h).2
  cases hfind : diagnosis.parsed.find? id with
  | none => exact Or.inl (hquiet (outcome_requestFix_of_find?_eq_none hfind))
  | some r =>
      cases hfix : Repair.fix? r (Text.splitLines source) with
      | some s => exact Or.inl (hquiet (outcome_requestFix_of_fix? hfind hfix))
      | none =>
          have houtcome := outcome_requestFix_of_fix?_eq_none (d := d) (p := p) hfind hfix
          cases hassistant : d.assistant with
          | none =>
              rw [hassistant] at houtcome
              exact Or.inl (hquiet houtcome)
          | some a =>
              rw [hassistant] at houtcome
              rcases Assistant.called_at_most_once (a := a) (p := p) with hnone | ⟨masked, hredact, hcall⟩
              · exact Or.inl (hquiet (houtcome.trans hnone))
              · obtain ⟨hsent, hprovider⟩ := Prod.mk.inj (Prod.mk.inj houtcome).2
                have hid : r.id = id := by simpa using List.find?_some hfind
                exact Or.inr ⟨masked, hsent.trans hcall.1, hprovider.trans hcall.2, r,
                  List.mem_of_find?_eq_some hfind, hid, hfix, a, hassistant, hredact⟩

/-! ## Any number of calls -/

theorem replies_call (p : Provider) : p.call.2.replies = p.replies.drop 1 := by
  unfold Provider.call
  split
  · next hnil => rw [hnil]; rfl
  · next hcons => rw [hcons]; rfl

/-- What holds of a course after some calls: its diagnoses and requests are those that were called for, every
prompt is justified by its request, and each reply that is used up answers a prompt. -/
structure Accounts (d : Diagnoser) (p : Provider) (calls : List Call) (c : Course) : Prop where
  diagnosed : ∀ diagnosis ∈ c.diagnoses, ∃ log source,
    Call.diagnose log source ∈ calls ∧ diagnosis = d.diagnose log source
  requested : ∀ q ∈ c.requests, q.diagnosis ∈ c.diagnoses ∧
    ∃ number, Call.request number q.id q.source ∈ calls
  justified : ∀ q ∈ c.requests, ∀ text ∈ q.answer.sent, q.Justifies d text
  replies : c.provider.replies = p.replies.drop c.sent.length

variable {calls : List Call} {c : Course}

theorem Accounts.start (d : Diagnoser) (p : Provider) : Accounts d p [] { provider := p } := by
  refine ⟨?_, ?_, ?_, rfl⟩ <;> simp

/-- Further calls spoil nothing. -/
theorem Accounts.mono {more : List Call} (h : Accounts d p calls c) (hmore : calls ⊆ more) :
    Accounts d p more c where
  diagnosed := by
    intro diagnosis hdiagnosis
    obtain ⟨log, source, hcall, heq⟩ := h.diagnosed diagnosis hdiagnosis
    exact ⟨log, source, hmore hcall, heq⟩
  requested := by
    intro q hq
    obtain ⟨hdiagnosis, number, hcall⟩ := h.requested q hq
    exact ⟨hdiagnosis, number, hmore hcall⟩
  justified := h.justified
  replies := h.replies

theorem Accounts.diagnose (h : Accounts d p calls c) {log source : Text}
    (hcall : Call.diagnose log source ∈ calls) :
    Accounts d p calls (c.step d (.diagnose log source)) where
  diagnosed := by
    intro diagnosis hdiagnosis
    rcases List.mem_append.mp hdiagnosis with hold | hnew
    · exact h.diagnosed diagnosis hold
    · exact ⟨log, source, hcall, List.mem_singleton.mp hnew⟩
  requested := by
    intro q hq
    obtain ⟨hdiagnosis, hrequest⟩ := h.requested q hq
    exact ⟨List.mem_append_left _ hdiagnosis, hrequest⟩
  justified := h.justified
  replies := h.replies

theorem Accounts.request (h : Accounts d p calls c) {number : Nat} {id source : Text}
    (hcall : Call.request number id source ∈ calls) :
    Accounts d p calls (c.step d (.request number id source)) := by
  cases hdiagnosis : c.diagnoses[number]? with
  | none => simpa only [Course.step, hdiagnosis] using h
  | some diagnosis =>
      simp only [Course.step, hdiagnosis]
      have hcases := requestFix_cases d c.provider diagnosis id source
      refine ⟨h.diagnosed, ?_, ?_, ?_⟩
      · intro q hq
        rcases List.mem_append.mp hq with hold | hnew
        · exact h.requested q hold
        · obtain rfl := List.mem_singleton.mp hnew
          exact ⟨List.mem_of_getElem? hdiagnosis, number, hcall⟩
      · intro q hq text htext
        rcases List.mem_append.mp hq with hold | hnew
        · exact h.justified q hold text htext
        · obtain rfl := List.mem_singleton.mp hnew
          rcases hcases with ⟨hsent, _⟩ | ⟨asked, hsent, _, hjustifies⟩
          · rw [hsent] at htext
            cases htext
          · rw [hsent] at htext
            obtain rfl := List.mem_singleton.mp htext
            exact hjustifies
      · have hlength : (c.sent ++ (d.requestFix c.provider diagnosis id source).sent).length = _ :=
          List.length_append
        simp only [Course.sent, List.flatMap_append, List.flatMap_singleton] at hlength ⊢
        rw [hlength, ← List.drop_drop, ← Course.sent, ← h.replies]
        rcases hcases with ⟨hsent, hprovider⟩ | ⟨asked, hsent, hprovider, _⟩
        · rw [hsent, hprovider]
          rfl
        · rw [hsent, hprovider, replies_call]
          rfl

/-- One more call keeps the accounts. -/
theorem Accounts.step (h : Accounts d p calls c) (call : Call) :
    Accounts d p (calls ++ [call]) (c.step d call) := by
  have hcall : call ∈ calls ++ [call] := List.mem_append_right _ (List.mem_singleton_self call)
  have hmore := h.mono (List.subset_append_left calls [call])
  cases call with
  | diagnose log source => exact hmore.diagnose hcall
  | request number id source => exact hmore.request hcall

/-- So do any number of calls. -/
theorem accounts_run (d : Diagnoser) (p : Provider) (calls : List Call) :
    Accounts d p calls (Course.run d { provider := p } calls) := by
  induction calls using List.reverseRecOn with
  | nil => exact Accounts.start d p
  | append_singleton calls call ih =>
      rw [Course.run, List.foldl_append]
      exact ih.step call

/-! ## The diagnosis and the request -/

theorem fixFor?_diagnose (d : Diagnoser) (log source id : Text) : (d.diagnose log source).fixFor? id =
    ((d.diagnose log source).parsed.find? id).bind fun r => Repair.fix? r (Text.splitLines source) :=
  Diagnosis.fixFor?_of d.options log source id

theorem find?_diagnose_eq_some_iff : (d.diagnose log source).parsed.find? id = some r ↔
    r ∈ (d.diagnose log source).parsed.records ∧ r.id = id :=
  Log.find?_eq_some_iff

theorem fixFor?_of_warning (h : r ∈ (d.diagnose log source).parsed.warnings) :
    (d.diagnose log source).fixFor? r.id = none := by
  rw [fixFor?_diagnose, find?_diagnose_eq_some_iff.mpr ⟨List.mem_append_right _ h, rfl⟩]
  exact Repair.fix?_eq_none_of_mem_warningCategories (Log.category_mem_warningCategories h)

/-- On the source that was diagnosed, a request gives the fix that the diagnosis has, and then no provider
is called; none is called for an unknown id either. For a record without a fix, such as any warning, the
assistant is asked about that record, if there is one. Over any number of diagnoses and requests on any
sources, a prompt is sent only for a request about a record of a diagnosis that was made, where no rule
proposes a fix on the source of the request, and no reply of the provider is used up otherwise. -/
theorem request_agrees_with_diagnosis (d : Diagnoser) (p : Provider) :
    (∀ log source id, let diagnosis := d.diagnose log source
      let answer := d.requestFix p diagnosis id source
      (∀ s, diagnosis.fixFor? id = some s → answer.outcome = (.answered (some s), [], p)) ∧
        ((∀ r ∈ diagnosis.parsed.records, r.id ≠ id) → answer.outcome = (.answered none, [], p)) ∧
        (∀ r ∈ diagnosis.parsed.records, r.id = id → diagnosis.fixFor? id = none →
          answer.outcome =
            match d.assistant with
            | some a => (a.consult p r (Text.splitLines source)).outcome
            | none => (.answered none, [], p)) ∧
        ∀ r ∈ diagnosis.parsed.warnings, diagnosis.fixFor? r.id = none) ∧
      ∀ calls, Accounts d p calls (Course.run d { provider := p } calls) := by
  refine ⟨?_, accounts_run d p⟩
  intro log source id diagnosis answer
  refine ⟨?_, ?_, ?_, fun r hr => fixFor?_of_warning hr⟩
  · intro s hs
    rw [fixFor?_diagnose, Option.bind_eq_some_iff] at hs
    obtain ⟨r, hr, hfix⟩ := hs
    exact outcome_requestFix_of_fix? hr hfix
  · intro hunknown
    apply outcome_requestFix_of_find?_eq_none
    refine Option.eq_none_iff_forall_not_mem.mpr fun r hr => ?_
    obtain ⟨hmem, hid⟩ := find?_diagnose_eq_some_iff.mp hr
    exact hunknown r hmem hid
  · intro r hr hid hnone
    have hfind := find?_diagnose_eq_some_iff.mpr ⟨hr, hid⟩
    rw [fixFor?_diagnose, hfind] at hnone
    exact outcome_requestFix_of_fix?_eq_none hfind hnone

/-- A log with an error that a rule mends, one that none mends, and a warning. -/
def mixedLog : Text :=
  "! Undefined control sequence.\nl.1 \\mathbb\n! Failed.\n\nLaTeX Warning: Odd.".toList

/-- The first error is answered by its fix, an unknown id by nothing, and the assistant is asked about the
second error and would be about the warning. -/
theorem request_agrees_with_mixed_diagnosis :
    let d : Diagnoser := { assistant := some {} }
    let p : Provider := ⟨.ok "model", []⟩
    let source : Text := "\\mathbb"
    let diagnosis := d.diagnose mixedLog source
    (∃ s, diagnosis.fixFor? "err_1" = some s ∧
        (d.requestFix p diagnosis "err_1" source).outcome = (.answered (some s), [], p)) ∧
      (d.requestFix p diagnosis "err_4" source).outcome = (.answered none, [], p) ∧
      (∃ r ∈ diagnosis.parsed.errors, r.id = "err_2" ∧ (d.requestFix p diagnosis "err_2" source).outcome =
        (({} : Assistant).consult p r (Text.splitLines source)).outcome) ∧
      ∃ r ∈ diagnosis.parsed.warnings, r.id = "err_3" ∧ diagnosis.fixFor? "err_3" = none := by
  intro d p source diagnosis
  have hagrees := (request_agrees_with_diagnosis d p).1 mixedLog source
  have hfixed : (diagnosis.fixFor? "err_1").isSome = true := by decide +kernel
  obtain ⟨s, hs⟩ := Option.isSome_iff_exists.mp hfixed
  refine ⟨⟨s, hs, (hagrees "err_1").1 s hs⟩, (hagrees "err_4").2.1 (by decide +kernel), ?_, ?_⟩
  · have herror : diagnosis.parsed.errors[1]? = some _ := rfl
    have hmem := List.mem_of_getElem? herror
    exact ⟨_, hmem, rfl, (hagrees "err_2").2.2.1 _ (List.mem_append_left _ hmem) rfl rfl⟩
  · have hwarning : diagnosis.parsed.warnings[0]? = some _ := rfl
    have hmem := List.mem_of_getElem? hwarning
    exact ⟨_, hmem, rfl, (hagrees "err_3").2.2.2 _ hmem⟩

end Diagnoser

/-! ## Sessions -/

namespace Session

/-- The state after some steps. -/
def run (s : Session) (steps : List Step) : Session :=
  steps.foldl (fun s step => (s.step step).session) s

/-- The request for a fix that a session can make, with its answer. -/
def request (s : Session) (id : Text) : Diagnoser.Request :=
  ⟨s.diagnosis, id, s.source, s.diagnoser.requestFix s.provider s.diagnosis id s.source⟩

variable (s : Session)

theorem sent_updateSource (new : Except ApplyError Text) : (s.updateSource new).session.sent = s.sent := by
  cases new <;> rfl

/-- A step of a session sends nothing, or it asks for a fix and sends one prompt that its request justifies. -/
theorem sent_step (step : Step) : (s.step step).session.sent = s.sent ∨
    ∃ id text, step = .requestFix id ∧ (s.step step).session.sent = s.sent ++ [text] ∧
      (s.request id).Justifies s.diagnoser text := by
  cases step with
  | requestFix id =>
      have hsent : (s.step (.requestFix id)).session.sent =
          s.sent ++ (s.diagnoser.requestFix s.provider s.diagnosis id s.source).sent := rfl
      rw [hsent]
      rcases Diagnoser.requestFix_cases s.diagnoser s.provider s.diagnosis id s.source with
        ⟨hnone, _⟩ | ⟨text, hone, _, hjustifies⟩
      · rw [hnone]
        exact Or.inl (List.append_nil _)
      · rw [hone]
        exact Or.inr ⟨id, text, rfl, rfl, hjustifies⟩
  | keep given =>
      refine Or.inl ?_
      simp only [Session.step]
      cases given.or s.lastSuggestion <;> rfl
  | applyAll => exact Or.inl (s.sent_updateSource _)
  | applyOne id => exact Or.inl (s.sent_updateSource _)
  | setSource source => exact Or.inl rfl
  | diagnose log => exact Or.inl rfl
  | fixFor id => exact Or.inl rfl
  | find id => exact Or.inl rfl
  | dump => exact Or.inl rfl

/-- Whatever was sent during a session was sent by one of its steps, and justified there. -/
theorem justified_of_mem_sent_run {text : Text} {steps : List Step} (h : text ∈ (s.run steps).sent) :
    text ∈ s.sent ∨ ∃ before id after, steps = before ++ .requestFix id :: after ∧
      ((s.run before).request id).Justifies (s.run before).diagnoser text := by
  induction steps using List.reverseRecOn with
  | nil => exact Or.inl h
  | append_singleton steps step ih =>
      have hrun : s.run (steps ++ [step]) = ((s.run steps).step step).session := List.foldl_append
      have hearlier : text ∈ (s.run steps).sent → text ∈ s.sent ∨
          ∃ before id after, steps ++ [step] = before ++ .requestFix id :: after ∧
            ((s.run before).request id).Justifies (s.run before).diagnoser text := by
        intro hmem
        refine (ih hmem).imp_right ?_
        rintro ⟨before, id, after, rfl, hjustifies⟩
        exact ⟨before, id, after ++ [step], by simp, hjustifies⟩
      rw [hrun] at h
      rcases sent_step (s.run steps) step with hsame | ⟨id, asked, rfl, hsent, hjustifies⟩
      · exact hearlier (hsame ▸ h)
      · rw [hsent] at h
        rcases List.mem_append.mp h with hold | hnew
        · exact hearlier hold
        · obtain rfl := List.mem_singleton.mp hnew
          exact Or.inr ⟨steps, id, [], rfl, hjustifies⟩

end Session

end TexMend
