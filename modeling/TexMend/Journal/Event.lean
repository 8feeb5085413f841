import TexMend.Failure
import TexMend.Log.Category
import TexMend.Repair.Edit
import TexMend.Value.Basic

/-!
# Events

What the library tells about its work while it runs. An event is a fact; its level, name and fields are
how a journal shows it.
-/

namespace TexMend

/-- How important an entry of the journal is. -/
inductive Level where
  | debug
  | info
  | warning
  | error
  | critical
  deriving DecidableEq, Inhabited, Repr

namespace Level

def all : List Level := [.debug, .info, .warning, .error, .critical]

/-- The name in entries. -/
def name : Level → Text
  | debug => "debug"
  | info => "info"
  | warning => "warning"
  | error => "error"
  | critical => "critical"

/-- The rank of a level; entries below the rank that is set are left out. -/
def rank : Level → Nat
  | debug => 10
  | info => 20
  | warning => 30
  | error => 40
  | critical => 50

end Level

/-- The two text services. -/
inductive ServiceName where
  | anthropic
  | openRouter
  deriving DecidableEq, Inhabited, Repr

/-- The name in settings and in the journal. -/
def ServiceName.name : ServiceName → Text
  | anthropic => "anthropic"
  | openRouter => "openrouter"

/-- A fact about the work of the library. -/
inductive Event where
  | logParsed (errors warnings : Nat) (pdfProduced : Bool)
  | ruleFixProposed (errorId : Text) (action : EditAction) (line : Nat)
  | ruleFixUnavailable (errorId : Text) (category : Category)
  | diagnosisComplete (errors warnings fixes : Nat) (pdfProduced : Bool)
  /-- A fix was asked for an id that no record has. -/
  | unknownRecord (errorId : Text)
  | aiFixRequested (errorId : Text) (category : Category)
  | requestStarted (errorId model : Text)
  | promptRedacted (errorId : Text) (patterns : List Text)
  | redactionFailed
  | requestTimedOut (budget : Number)
  | aiFixFailed (errorId : Text) (failure : Failure)
  /-- No request was made, for a reason in the settings. -/
  | aiFixRefused (errorId reason : Text)
  | replyNotText (errorId : Text)
  | replyEmpty (errorId : Text)
  | aiFixProposed (errorId : Text) (line : Nat)
  | fallbackDisabled (reason : Text)
  | retrying (attempt : Nat) (failure : Failure) (pause : Double)
  | requestBroken (service : ServiceName) (error : Text)
  | requestRefused (service : ServiceName) (status : Int)
  | requestRejected (service : ServiceName) (failure : Failure)
  | rateLimitHit (service : ServiceName) (retryAfter : Text)
  | requestComplete (service : ServiceName) (length : Nat)

namespace Event

def level : Event → Level
  | logParsed .. | ruleFixProposed .. | ruleFixUnavailable .. => .debug
  | diagnosisComplete .. | aiFixRequested .. | requestStarted .. | aiFixProposed ..
  | requestComplete .. => .info
  | unknownRecord .. | promptRedacted .. | requestTimedOut .. | aiFixRefused .. | replyNotText ..
  | replyEmpty .. | fallbackDisabled .. | retrying .. | requestRejected .. | rateLimitHit .. => .warning
  | redactionFailed | requestBroken .. | requestRefused .. => .error
  | aiFixFailed _ failure => if failure.isForeseen then .warning else .error

/-- Is the trace of the failure at hand told with the event? It is where nobody foresaw the failure. -/
def isTraced : Event → Bool
  | aiFixFailed _ failure => !failure.isForeseen
  | _ => false

def name : Event → Text
  | logParsed .. => "log_parsed"
  | ruleFixProposed .. => "rule_fix_proposed"
  | ruleFixUnavailable .. => "rule_fix_unavailable"
  | diagnosisComplete .. => "diagnosis_complete"
  | unknownRecord .. => "ai_fix_unknown_error"
  | aiFixRequested .. => "ai_fix_requested"
  | requestStarted .. => "llm_request_start"
  | promptRedacted .. => "prompt_redacted"
  | redactionFailed => "redaction_failed"
  | requestTimedOut .. => "ai_request_timeout"
  | aiFixFailed .. | aiFixRefused .. => "ai_fix_failed"
  | replyNotText .. | replyEmpty .. => "ai_fix_empty"
  | aiFixProposed .. => "ai_fix_proposed"
  | fallbackDisabled .. => "ai_fallback_disabled"
  | retrying .. => "ai_request_retry"
  | requestBroken .. | requestRefused .. | requestRejected .. => "llm_request_error"
  | rateLimitHit .. => "rate_limit_hit"
  | requestComplete .. => "llm_request_complete"

def fields : Event → Fields
  | logParsed errors warnings pdf =>
    [("error_count", .int errors), ("warning_count", .int warnings), ("pdf_produced", .bool pdf)]
  | ruleFixProposed id action line =>
    [("error_id", .text id), ("action", .text action.name), ("line", .int line)]
  | ruleFixUnavailable id category => [("error_id", .text id), ("category", .text category.name)]
  | diagnosisComplete errors warnings fixes pdf =>
    [("error_count", .int errors), ("warning_count", .int warnings), ("fix_count", .int fixes),
      ("pdf_produced", .bool pdf)]
  | unknownRecord id => [("error_id", .text id)]
  | aiFixRequested id category => [("error_id", .text id), ("category", .text category.name)]
  | requestStarted id model => [("error_id", .text id), ("model", .text model)]
  | promptRedacted id patterns =>
    [("error_id", .text id), ("patterns", .list (patterns.map .text))]
  | redactionFailed => []
  | requestTimedOut budget => [("timeout", .ofNumber budget)]
  | aiFixFailed id failure =>
    if failure.isForeseen then
      [("error_id", .text id), ("exception_type", .text failure.name),
        ("error", .text failure.message)]
    else [("error_id", .text id), ("error", .text failure.message)]
  | aiFixRefused id reason => [("error_id", .text id), ("error", .text reason)]
  | replyNotText id => [("error_id", .text id), ("reason", .text "non_text_response")]
  | replyEmpty id => [("error_id", .text id)]
  | aiFixProposed id line => [("error_id", .text id), ("line", .int line)]
  | fallbackDisabled reason => [("reason", .text reason)]
  | retrying attempt failure pause =>
    [("attempt", .int attempt), ("exception_type", .text failure.name),
      ("error", .text failure.message), ("sleep", .real pause)]
  | requestBroken service error => [("provider", .text service.name), ("error", .text error)]
  | requestRefused service status => [("provider", .text service.name), ("status", .int status)]
  | requestRejected service failure =>
    [("provider", .text service.name), ("error_type", .text failure.name)]
  | rateLimitHit service retryAfter =>
    [("provider", .text service.name), ("retry_after", .text retryAfter)]
  | requestComplete service length => [("provider", .text service.name), ("length", .int length)]

end Event

end TexMend
