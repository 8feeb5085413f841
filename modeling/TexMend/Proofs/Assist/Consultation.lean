import TexMend.Assist.Assistant
import TexMend.Proofs.Secret.StandardRedactor
import TexMend.Proofs.Text.Stretch

/-!
# Consultations

A consultation has several stages, and each of them may fail. It sends one masked prompt if no stage before
the call fails, else nothing. It suggests something only if a text comes back that leaves a line, and that
line stands for exactly the one in question. It answers, unless the provider raises a failure that cannot say
what it is or is called and never comes to an end.
-/

namespace TexMend.Assist

open Secret (Redactor standardKinds)

/-- What a consultation comes to, apart from what is told about it. -/
def Consultation.outcome (c : Consultation) : Upshot × List Text × Provider :=
  (c.upshot, c.sent, c.provider)

variable {r : Record} {lines : Document} {s : Suggestion}

/-! ## Replies -/

theorem newline_not_mem_firstLine (reply : Text) : '\n' ∉ firstLine reply := by
  intro hmem
  simpa using List.mem_takeWhile_imp hmem

/-- A stripped text begins with its first line, and that with no blank. -/
theorem isBlank_of_firstLine_eq_cons {reply rest : Text} {c : Char} (h : firstLine reply = c :: rest) :
    Text.isBlank c = false := by
  obtain ⟨after, hafter⟩ := List.takeWhile_prefix (l := clean reply) (· != '\n')
  have hclean : clean reply = c :: (rest ++ after) := by
    rw [← List.cons_append, ← h]
    exact hafter.symm
  exact Text.isBlank_of_strip_eq_cons hclean

/-- The first line of a reply is empty or begins with something. -/
theorem all_isBlank_firstLine (reply : Text) :
    (firstLine reply).all Text.isBlank = (firstLine reply).isEmpty := by
  cases hline : firstLine reply with
  | nil => rfl
  | cons c rest => simp [isBlank_of_firstLine_eq_cons hline]

/-- What a reply suggests. -/
def suggestion? (r : Record) (lines : Document) : Reply → Option Suggestion
  | .value (.text reply) =>
    if (firstLine reply).isEmpty then none else some (replacement r lines (firstLine reply))
  | _ => none

theorem suggestion?_eq_some_iff {reply : Reply} : suggestion? r lines reply = some s ↔
    ∃ text, reply = .value (.text text) ∧ firstLine text ≠ [] ∧ s = replacement r lines (firstLine text) := by
  unfold suggestion?
  split
  · next text =>
      split
      · next hempty =>
          simp only [reduceCtorEq, false_iff]
          rintro ⟨_, htext, hline, _⟩
          cases htext
          exact hline (List.isEmpty_iff.mp hempty)
      · next hline =>
          rw [Option.some.injEq]
          constructor
          · rintro rfl
            exact ⟨text, rfl, fun hnil => hline (List.isEmpty_iff.mpr hnil), rfl⟩
          · rintro ⟨_, htext, _, rfl⟩
            cases htext
            rfl
  · next hother =>
      simp only [reduceCtorEq, false_iff]
      rintro ⟨text, rfl, _⟩
      exact hother text rfl

theorem ofReply_fst (value : Value) : (ofReply r lines value).1 = suggestion? r lines (.value value) := by
  cases value with
  | text reply =>
      simp only [ofReply, suggestion?, all_isBlank_firstLine]
      split <;> rfl
  | _ => rfl

/-- A suggestion that puts one line, which does not begin with a blank, in the place of the line of a
record. -/
structure Replaces (r : Record) (lines : Document) (s : Suggestion) : Prop where
  errorId : s.errorId = r.id
  origin : s.origin = .ai
  confidence : s.confidence = .decimal 5 1
  action : s.edit.action = .replaceLine
  /-- The line of the record, or the first one if the record names none that exists in any document. -/
  line : (s.edit.line : Int) = if 0 < r.line.getD 0 then r.line.getD 0 else 1
  originalText : s.edit.originalText = lines[s.edit.line - 1]?
  newText : ∃ c rest, s.edit.newText = some (c :: rest) ∧ Text.isBlank c = false ∧ '\n' ∉ c :: rest

theorem targetLine_eq (r : Record) :
    (r.targetLine : Int) = if 0 < r.line.getD 0 then r.line.getD 0 else 1 := by
  unfold Record.targetLine
  split
  · next n hline =>
      rw [hline, Option.getD_some]
      split <;> omega
  · next hline => simp [hline]

theorem one_le_targetLine (r : Record) : 1 ≤ r.targetLine := by
  unfold Record.targetLine
  split
  · split <;> omega
  · exact Nat.le_refl 1

theorem replaces_of_firstLine {reply : Text} (h : firstLine reply ≠ []) :
    Replaces r lines (replacement r lines (firstLine reply)) := by
  have hline : max 1 r.targetLine = r.targetLine := Nat.max_eq_right (one_le_targetLine r)
  obtain ⟨c, rest, hcons⟩ := List.exists_cons_of_ne_nil h
  refine ⟨rfl, rfl, rfl, rfl, ?_, ?_, c, rest, ?_, isBlank_of_firstLine_eq_cons hcons, ?_⟩
  · rw [← targetLine_eq]
    exact congrArg Nat.cast hline
  · change lineAt? lines r.targetLine = lines[max 1 r.targetLine - 1]?
    rw [hline, lineAt?, if_pos (one_le_targetLine r)]
  · rw [← hcons]
    rfl
  · rw [← hcons]
    exact newline_not_mem_firstLine reply

/-! ## Stages -/

theorem within_of_startsCall {budget : Number} (h : startsCall budget = true) (message : Option Text)
    (reply : Reply) : within budget message reply = awaitReply budget message reply := by
  obtain ⟨htime, hclock⟩ := Bool.and_eq_true_iff.mp h
  rw [within, if_pos htime, if_pos hclock]

/-- Where no call is made, its time ends in a failure. -/
theorem exists_failure_of_not_startsCall {budget : Number} (h : startsCall budget = false)
    (message : Option Text) (reply : Reply) :
    ∃ failure events, within budget message reply = (.raised (.worded failure), events) := by
  unfold within
  split
  · next htime =>
      have hclock : fitsClock budget = false := by simpa [startsCall, htime] using h
      rw [hclock]
      exact ⟨_, _, rfl⟩
  · exact ⟨_, _, rfl⟩

/-- How asking ends that meets a failure. -/
def failureUpshot (e : Raised) : Upshot :=
  match e.said with
  | .ok _ => .answered none
  | .error met => .raised met

/-- How asking ends that sends nothing. -/
def quietUpshot (p : Provider) : Upshot :=
  match p.model with
  | .ok _ => .answered none
  | .error e => failureUpshot e

/-- How asking ends with a reply to the prompt. -/
def replyUpshot (budget : Number) (r : Record) (lines : Document) : Reply → Upshot
  | .value v => .answered (suggestion? r lines (.value v))
  | .raised e => if e.isClock then .answered none else failureUpshot e
  | .silence => if isEndless budget then .endless else .answered none
  | .stuck => .endless

section Upshot

variable {budget : Number} {e met : Raised} {reply : Reply}

@[simp] theorem failureUpshot_eq_raised_iff : failureUpshot e = .raised met ↔ e.said = .error met := by
  unfold failureUpshot
  cases e.said <;> simp

@[simp] theorem failureUpshot_ne_endless : failureUpshot e ≠ .endless := by
  unfold failureUpshot
  cases e.said <;> simp

@[simp] theorem suggestion?_failureUpshot : (failureUpshot e).suggestion? = none := by
  unfold failureUpshot
  cases e.said <;> rfl

@[simp] theorem suggestion?_quietUpshot (p : Provider) : (quietUpshot p).suggestion? = none := by
  unfold quietUpshot
  cases p.model with
  | ok model => rfl
  | error e => exact suggestion?_failureUpshot

theorem quietUpshot_eq_raised_iff {p : Provider} :
    quietUpshot p = .raised met ↔ ∃ e, p.model = .error e ∧ e.said = .error met := by
  unfold quietUpshot
  cases p.model <;> simp

theorem quietUpshot_ne_endless {p : Provider} : quietUpshot p ≠ .endless := by
  unfold quietUpshot
  cases p.model <;> simp

theorem suggestion?_replyUpshot : (replyUpshot budget r lines reply).suggestion? = suggestion? r lines reply := by
  cases reply with
  | value v => rfl
  | raised e =>
      rw [replyUpshot]
      split
      · rfl
      · exact suggestion?_failureUpshot
  | silence =>
      rw [replyUpshot]
      split <;> rfl
  | stuck => rfl

/-- Only a failure that cannot say what it is comes out. -/
theorem replyUpshot_eq_raised_iff : replyUpshot budget r lines reply = .raised met ↔
    ∃ e, reply = .raised e ∧ e.isClock = false ∧ e.said = .error met := by
  cases reply with
  | raised e => cases hclock : e.isClock <;> simp [replyUpshot, hclock]
  | silence => cases hendless : isEndless budget <;> simp [replyUpshot, hendless]
  | value v => simp [replyUpshot]
  | stuck => simp [replyUpshot]

/-- Only a call without an answer has no end, and only if nothing breaks it off. -/
theorem replyUpshot_eq_endless_iff : replyUpshot budget r lines reply = .endless ↔
    reply = .stuck ∨ reply = .silence ∧ isEndless budget = true := by
  cases reply with
  | raised e => cases hclock : e.isClock <;> simp [replyUpshot, hclock]
  | silence => cases hendless : isEndless budget <;> simp [replyUpshot, hendless]
  | value v => simp [replyUpshot]
  | stuck => simp [replyUpshot]

end Upshot

namespace Assistant

/-- Does a masked prompt reach the provider? -/
def sends (a : Assistant) : Bool :=
  a.timeoutMessage?.isSome && startsCall a.timeout

/-- The masked prompt that a consultation sends, unless a stage before the call fails. -/
def outgoing? (a : Assistant) (p : Provider) (r : Record) (lines : Document) : Option Text :=
  match p.model, question? a.contextLines r lines with
  | .ok _, some question =>
    match a.redactor.redact question with
    | .ok masked => if a.sends then some masked else none
    | .error _ => none
  | _, _ => none

variable (a : Assistant) (p : Provider) (r : Record) (lines : Document)

theorem outcome_failed (sent : List Text) (told : List Event) (e : Raised) :
    (failed p r sent told e).outcome = (failureUpshot e, sent, p) := by
  unfold failed failureUpshot
  cases e.said <;> rfl

theorem outcome_conclude (budget : Number) (message : Option Text) (sent : List Text) (reply : Reply) :
    (conclude p r lines sent (awaitReply budget message reply)).outcome =
      (replyUpshot budget r lines reply, sent, p) := by
  cases reply with
  | value v =>
      change (Upshot.answered (ofReply r lines v).1, sent, p) = _
      rw [ofReply_fst, replyUpshot]
  | raised e =>
      rw [awaitReply, replyUpshot]
      cases e.isClock with
      | false => exact outcome_failed p r sent [] e
      | true => rfl
  | silence =>
      rw [awaitReply, replyUpshot]
      cases isEndless budget <;> rfl
  | stuck => rfl

theorem outcome_send (masked : Text) : (a.send p r lines masked).outcome =
    if a.sends then (replyUpshot a.timeout r lines p.call.1, [masked], p.call.2) else (.answered none, [], p) := by
  unfold send sends
  cases hmessage : a.timeoutMessage? with
  | none => rfl
  | some message =>
      cases hstarts : startsCall a.timeout with
      | false =>
          obtain ⟨failure, events, hwithin⟩ :=
            exists_failure_of_not_startsCall hstarts (some message) .silence
          change (conclude p r lines [] (within a.timeout (some message) .silence)).outcome = _
          rw [hwithin]
          exact outcome_failed p r [] events (.worded failure)
      | true =>
          change (conclude p.call.2 r lines [masked] (within a.timeout (some message) p.call.1)).outcome = _
          rw [within_of_startsCall hstarts, outcome_conclude]
          rfl

/-- A consultation sends its masked prompt and ends as the reply lets it, or it sends nothing. -/
theorem outcome_consult : (a.consult p r lines).outcome =
    match a.outgoing? p r lines with
    | some masked => (replyUpshot a.timeout r lines p.call.1, [masked], p.call.2)
    | none => (quietUpshot p, [], p) := by
  unfold consult outgoing? quietUpshot
  cases p.model with
  | error e => exact outcome_failed p r [] [] e
  | ok model =>
      cases question? a.contextLines r lines with
      | none => rfl
      | some question =>
          cases hredact : a.redactor.redact question with
          | error failure =>
              simp only [hredact]
              rfl
          | ok masked =>
              simp only [hredact]
              change (a.send p r lines masked).outcome = _
              rw [outcome_send]
              cases a.sends <;> rfl

theorem upshot_consult : (a.consult p r lines).upshot =
    match a.outgoing? p r lines with
    | some _ => replyUpshot a.timeout r lines p.call.1
    | none => quietUpshot p := by
  have h := congrArg Prod.fst (outcome_consult a p r lines)
  cases hprompt : a.outgoing? p r lines <;> exact h.trans (by rw [hprompt])

theorem sent_consult : (a.consult p r lines).sent = (a.outgoing? p r lines).toList := by
  have h := congrArg (fun o => o.2.1) (outcome_consult a p r lines)
  cases hprompt : a.outgoing? p r lines <;> exact h.trans (by rw [hprompt]; rfl)

theorem suggestion_consult : (a.consult p r lines).suggestion =
    (a.outgoing? p r lines).bind fun _ => suggestion? r lines p.call.1 := by
  rw [Consultation.suggestion, upshot_consult]
  cases a.outgoing? p r lines with
  | none => exact suggestion?_quietUpshot p
  | some masked => exact suggestion?_replyUpshot

variable {a p r lines} {masked text : Text}

/-- Nothing is sent unless every stage before the call succeeds. -/
theorem outgoing?_eq_some_iff : a.outgoing? p r lines = some masked ↔
    a.sends = true ∧ (∃ model, p.model = .ok model) ∧
      ∃ question, question? a.contextLines r lines = some question ∧
        a.redactor.redact question = .ok masked := by
  unfold outgoing?
  cases p.model with
  | error failure => simp
  | ok model =>
      cases question? a.contextLines r lines with
      | none => simp
      | some question => cases hredact : a.redactor.redact question <;> simp [hredact]

theorem question?_eq_some {context : Int} {question : Text} (h : question? context r lines = some question) :
    question = prompt context r lines := by
  unfold question? at h
  split at h
  · exact (Option.some.inj h).symm
  · cases h

theorem redact_of_outgoing? (h : a.outgoing? p r lines = some masked) :
    a.redactor.redact (prompt a.contextLines r lines) = .ok masked := by
  obtain ⟨_, _, question, hquestion, hredact⟩ := outgoing?_eq_some_iff.mp h
  rwa [question?_eq_some hquestion] at hredact

/-- The standard redactor leaves nothing to detect. -/
theorem detect_of_outgoing? (hredactor : a.redactor = .standard)
    (h : a.outgoing? p r lines = some masked) : Redactor.standard.detect masked = [] := by
  have hredact := redact_of_outgoing? h
  rw [hredactor, Redactor.redact_standard] at hredact
  rw [← Except.ok.inj hredact]
  exact Redactor.detect_maskStandard _

/-- Where nothing is detected, no part is a text of a standard kind. -/
theorem not_takes_of_detect_eq_nil {part : Text} (h : Redactor.standard.detect text = [])
    {kind : Secret.Kind} (hkind : kind ∈ standardKinds) (hpart : part <:+: text) :
    ¬ kind.shape.Takes part :=
  Secret.Shape.occurs_eq_false_iff.mp ((Redactor.detect_standard_eq_nil_iff text).mp h kind hkind) part hpart

/-! ## Consultations as a whole -/

theorem mem_sent_iff : text ∈ (a.consult p r lines).sent ↔ a.outgoing? p r lines = some text := by
  rw [sent_consult, Option.mem_toList]

/-- With the standard redactor only the time, the name of the model and the number of the line can keep a prompt back. -/
theorem maskStandard_mem_sent {question model : Text} (hredactor : a.redactor = .standard) (hsends : a.sends = true)
    (hmodel : p.model = .ok model) (hquestion : question? a.contextLines r lines = some question) :
    Redactor.maskStandard question ∈ (a.consult p r lines).sent := by
  refine mem_sent_iff.mpr (outgoing?_eq_some_iff.mpr ⟨hsends, ⟨model, hmodel⟩, question, hquestion, ?_⟩)
  rw [hredactor]
  exact Redactor.redact_standard question

/-- The provider is called at most once, and with the masked prompt. -/
theorem called_at_most_once : (a.consult p r lines).outcome = (quietUpshot p, [], p) ∨
    ∃ masked, a.redactor.redact (prompt a.contextLines r lines) = .ok masked ∧
      (a.consult p r lines).sent = [masked] ∧ (a.consult p r lines).provider = p.call.2 := by
  have houtcome := outcome_consult a p r lines
  cases hprompt : a.outgoing? p r lines with
  | none =>
      rw [hprompt] at houtcome
      exact Or.inl houtcome
  | some masked =>
      rw [hprompt] at houtcome
      refine Or.inr ⟨masked, redact_of_outgoing? hprompt, ?_, ?_⟩
      · exact congrArg (fun o => o.2.1) houtcome
      · exact congrArg (fun o => o.2.2) houtcome

theorem outcome_of_redact_eq_error {failure : Failure}
    (h : a.redactor.redact (prompt a.contextLines r lines) = .error failure) :
    (a.consult p r lines).outcome = (quietUpshot p, [], p) := by
  rcases called_at_most_once with hnone | ⟨masked, hredact, _⟩
  · exact hnone
  · rw [hredact] at h
    cases h

/-- A suggestion comes exactly if the prompt is sent and the reply is a text that leaves a line. -/
theorem suggestion_consult_eq_some_iff : (a.consult p r lines).suggestion = some s ↔
    (a.consult p r lines).sent ≠ [] ∧ ∃ text, p.call.1 = .value (.text text) ∧ firstLine text ≠ [] ∧
      s = replacement r lines (firstLine text) := by
  rw [suggestion_consult, sent_consult]
  cases a.outgoing? p r lines with
  | none => simp
  | some masked => simp [suggestion?_eq_some_iff]

theorem replaces_of_consult (h : (a.consult p r lines).suggestion = some s) : Replaces r lines s := by
  obtain ⟨_, text, _, hline, rfl⟩ := suggestion_consult_eq_some_iff.mp h
  exact replaces_of_firstLine hline

/-- A failure comes out exactly if it is met while another is asked what it is: the one of the model's name, or the
one that the provider raises, unless that is a clock's. -/
theorem upshot_consult_eq_raised_iff {met : Raised} : (a.consult p r lines).upshot = .raised met ↔
    (∃ e, p.model = .error e ∧ e.said = .error met) ∨
      (a.consult p r lines).sent ≠ [] ∧
        ∃ e, p.call.1 = .raised e ∧ e.isClock = false ∧ e.said = .error met := by
  rw [upshot_consult, sent_consult]
  cases hprompt : a.outgoing? p r lines with
  | none => simp [quietUpshot_eq_raised_iff]
  | some masked =>
      obtain ⟨-, ⟨model, hmodel⟩, -⟩ := outgoing?_eq_some_iff.mp hprompt
      simp [replyUpshot_eq_raised_iff, hmodel]

/-- There is no end exactly if the provider is called and never answers, and if it cannot be broken off or the time is
infinite. -/
theorem upshot_consult_eq_endless_iff : (a.consult p r lines).upshot = .endless ↔
    (a.consult p r lines).sent ≠ [] ∧
      (p.call.1 = .stuck ∨ p.call.1 = .silence ∧ isEndless a.timeout = true) := by
  rw [upshot_consult, sent_consult]
  cases a.outgoing? p r lines with
  | none => simp [quietUpshot_ne_endless]
  | some masked => simp [replyUpshot_eq_endless_iff]

/-- What is true of asking a provider once. -/
structure Safe (a : Assistant) (p : Provider) (r : Record) (lines : Document) (c : Consultation) : Prop where
  /-- A suggestion replaces the line of the record. -/
  replaces : ∀ s, c.suggestion = some s → Replaces r lines s
  /-- The provider is called at most once, and with the masked prompt. -/
  called : c.outcome = (quietUpshot p, [], p) ∨
    ∃ masked, a.redactor.redact (prompt a.contextLines r lines) = .ok masked ∧
      c.sent = [masked] ∧ c.provider = p.call.2
  /-- With the standard redactor no standard secret is sent. -/
  discreet : a.redactor = .standard → ∀ text ∈ c.sent, Redactor.standard.detect text = [] ∧
    ∀ kind ∈ standardKinds, ∀ part, part <:+: text → ¬ kind.shape.Takes part
  /-- Where masking fails there is no suggestion, and the provider is not called. -/
  refused : ∀ failure model, a.redactor.redact (prompt a.contextLines r lines) = .error failure →
    p.model = .ok model → c.outcome = (.answered none, [], p)
  /-- A prompt is sent exactly if no stage before the call fails. -/
  sent_iff : ∀ text, text ∈ c.sent ↔ a.sends = true ∧ (∃ model, p.model = .ok model) ∧
    ∃ question, question? a.contextLines r lines = some question ∧ a.redactor.redact question = .ok text
  /-- A suggestion comes exactly if the prompt is sent and the reply is a text that leaves a line. -/
  suggestion_iff : ∀ s, c.suggestion = some s ↔ c.sent ≠ [] ∧ ∃ text, p.call.1 = .value (.text text) ∧
    firstLine text ≠ [] ∧ s = replacement r lines (firstLine text)
  /-- A failure comes out exactly if it is met while another is asked what it is. -/
  raised_iff : ∀ met, c.upshot = .raised met ↔ (∃ e, p.model = .error e ∧ e.said = .error met) ∨
    c.sent ≠ [] ∧ ∃ e, p.call.1 = .raised e ∧ e.isClock = false ∧ e.said = .error met
  /-- There is no end exactly if the provider is called, never answers and is not broken off. -/
  endless_iff : c.upshot = .endless ↔ c.sent ≠ [] ∧
    (p.call.1 = .stuck ∨ p.call.1 = .silence ∧ isEndless a.timeout = true)

/-- Whatever a record names, a document holds, a time allows and a provider does, asking once is safe. It ends with a
suggestion that replaces the line of the record or with none, but for two cases: a failure that cannot say what it is
lets another one out, and a provider that is called and never answers is waited for without end if the time is infinite
or the call cannot be broken off. -/
theorem consult_safe (a : Assistant) (p : Provider) (r : Record) (lines : Document) :
    Safe a p r lines (a.consult p r lines) where
  replaces s hs := replaces_of_consult hs
  called := called_at_most_once
  discreet := by
    intro hredactor text htext
    have hdetect := detect_of_outgoing? hredactor (mem_sent_iff.mp htext)
    exact ⟨hdetect, fun kind hkind part hpart => not_takes_of_detect_eq_nil hdetect hkind hpart⟩
  refused := by
    intro failure model hfailure hmodel
    rw [outcome_of_redact_eq_error hfailure, quietUpshot, hmodel]
  sent_iff text := mem_sent_iff.trans outgoing?_eq_some_iff
  suggestion_iff s := suggestion_consult_eq_some_iff
  raised_iff met := upshot_consult_eq_raised_iff
  endless_iff := upshot_consult_eq_endless_iff

/-- An error that no rule mends, with a secret in its log. -/
def leakyRecord : Record where
  id := "err_1"
  severity := .error
  category := .generalError
  message := "Something is wrong."
  rawLog := "! Something is wrong.\nl.2 token=abcdefghijklmnopqrstu"
  file := none
  line := some 2
  offendingText := none

/-- A provider that frames its reply. -/
def framingProvider : Provider :=
  ⟨.ok "model", [.value (.text "```latex\n\\alpha\n```")]⟩

/-- The record is mended without its secret being sent, and where the placeholder is refused nothing is
sent. -/
theorem consult_safe_leaky :
    let lines : Document := ["first".toList, "alpha".toList]
    let mended := replacement leakyRecord lines "\\alpha"
    let c := ({} : Assistant).consult framingProvider leakyRecord lines
    let refusing : Assistant := { redactor := { Redactor.standard with placeholder := "\\1" } }
    c.suggestion = some mended ∧ Replaces leakyRecord lines mended ∧
      Redactor.standard.detect (prompt 5 leakyRecord lines) ≠ [] ∧
      c.sent ≠ [] ∧ (∀ text ∈ c.sent, Redactor.standard.detect text = []) ∧
      (refusing.consult framingProvider leakyRecord lines).outcome = (.answered none, [], framingProvider) := by
  intro lines mended c refusing
  have hsafe := consult_safe {} framingProvider leakyRecord lines
  have hmem : Redactor.maskStandard (prompt 5 leakyRecord lines) ∈ c.sent :=
    (hsafe.sent_iff _).mpr ⟨by decide +kernel, ⟨_, rfl⟩, _, rfl, Redactor.redact_standard _⟩
  have hmended : c.suggestion = some mended :=
    (hsafe.suggestion_iff mended).mpr ⟨List.ne_nil_of_mem hmem, _, rfl, by decide +kernel, rfl⟩
  have hrefused : refusing.redactor.redact (prompt 5 leakyRecord lines) = .error Redactor.refused := by
    decide +kernel
  exact ⟨hmended, hsafe.replaces mended hmended, by decide +kernel, List.ne_nil_of_mem hmem,
    fun text htext => (hsafe.discreet rfl text htext).1,
    (consult_safe refusing framingProvider leakyRecord lines).refused _ _ hrefused rfl⟩

/-- A failure that cannot say what it is comes out as another one, and with infinite time a provider that never answers
is waited for without end. -/
theorem consult_without_answer :
    let lines : Document := ["first".toList, "alpha".toList]
    let patient : Assistant := { timeout := .real (.infinite false) }
    let e : Raised := .wordless false (.worded .tooManyDigits)
    (({} : Assistant).consult ⟨.ok "model", [.raised e]⟩ leakyRecord lines).upshot =
        .raised (.worded .tooManyDigits) ∧
      (patient.consult ⟨.ok "model", [.silence]⟩ leakyRecord lines).upshot = .endless := by
  intro lines patient e
  have hsent (a : Assistant) (p : Provider) (hredactor : a.redactor = .standard) (hsends : a.sends = true)
      (hmodel : p.model = .ok "model") : (a.consult p leakyRecord lines).sent ≠ [] :=
    List.ne_nil_of_mem (maskStandard_mem_sent hredactor hsends hmodel rfl)
  constructor
  · exact upshot_consult_eq_raised_iff.mpr (.inr ⟨hsent _ _ rfl (by decide +kernel) rfl, e, rfl, rfl, rfl⟩)
  · exact upshot_consult_eq_endless_iff.mpr ⟨hsent _ _ rfl (by decide +kernel) rfl, .inr ⟨rfl, rfl⟩⟩

end Assistant

end TexMend.Assist
