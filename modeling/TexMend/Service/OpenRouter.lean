import TexMend.Service.Attempt
import TexMend.Service.Address
import TexMend.Settings.Sections
import TexMend.Value.Json
import TexMend.Text.Class

/-!
# Chat completions over HTTP

One exchange with the second service: the request, the repeated attempts to send it, and what becomes of
the response. Every outcome of the transport has one result.
-/

namespace TexMend.Service.OpenRouter

open Settings

/-- A response of the transport. Its body is the text that the octets were decoded to: how their encoding is
found out, and what happens where they are not in it, is left out. -/
structure Response where
  status : Int
  headers : List (Text × Text)
  body : Text

/-- A request as it is sent. -/
structure Request where
  url : Text
  headers : List (Text × Text)
  payload : Value

/-- The longest reply that is accepted, in characters. -/
def replyLimit : Nat := 20000

/-- What is asked below the address of the service. -/
def resource : Text := "chat/completions"

/-- The headers of a request, as the settings give them. -/
def headers (s : OpenRouterSettings) : List (Text × Text) :=
  [("authorization", "Bearer " ++ s.apiKey), ("content-type", "application/json"),
    ("http-referer", s.referer), ("x-title", s.title)]

/-- A header may hold ASCII only. -/
def checkHeader (value : Text) : Except Failure Unit :=
  match Text.foreignRun? value with
  | none => .ok ()
  | some (start, stop) => .error (.foreign ((value[start]?).getD ' ') start stop)

/-- The question in the form of the service. -/
def payload (s : OpenRouterSettings) (system user : Text) : Value :=
  .record [("model", .text s.model),
    ("messages", .list
      [.record [("role", .text "system"), ("content", .text system)],
        .record [("role", .text "user"), ("content", .text user)]]),
    ("max_tokens", .int s.maxTokens), ("temperature", .real s.temperature), ("top_p", .real s.topP)]

/-- JSON has no infinite numbers. -/
def checkNumbers (s : OpenRouterSettings) : Except Failure Unit :=
  if s.temperature.isFinite && s.topP.isFinite then .ok ()
  else .error (.value "Out of range float values are not JSON compliant")

/-- Put the proof of identity in an address in the place of the key. -/
def identify (address : Address) (headers : List (Text × Text)) : List (Text × Text) :=
  match address.credentials? with
  | none => headers
  | some proof => headers.map fun (name, value) =>
    if name = ("authorization" : Text) then (name, proof) else (name, value)

/-- The request for an exchange, or why none can be made. -/
def request (s : OpenRouterSettings) (system user : Text) : Except Failure Request :=
  match Address.ofResource s.baseUrl resource with
  | .error e => .error (.address e.message)
  | .ok address =>
    match (headers s).forM fun (_, value) => checkHeader value with
    | .error f => .error f
    | .ok () =>
      match checkNumbers s with
      | .error f => .error f
      | .ok () =>
        .ok {
          url := address.text
          headers := identify address (headers s)
          payload := payload s system user }

/-- The value of a header, whatever the case of its name; several are joined. -/
def Response.header (r : Response) (name : Text) : Text :=
  Text.joinWith ", " ((r.headers.filter fun (k, _) => k.map Text.lowerAscii = name).map Prod.snd)

/-- Does the status tell of an error? -/
def Response.isError (r : Response) : Bool :=
  400 ≤ r.status && r.status ≤ 599

/-- Why a body is of no use. -/
inductive BodyError where
  | notJson
  /-- It holds an integer beyond the limit of numerals. -/
  | longInteger
  /-- It is JSON of another make-up. -/
  | unexpectedShape
  deriving DecidableEq, Repr

/-- What the journal tells about a body that is of no use: the check that it failed. -/
def BodyError.check : BodyError → Text
  | longInteger => "int"
  | _ => "validation"

/-- The content of one choice; null and nothing are both no content. -/
def choiceContent (choice : Value) : Except BodyError (Option Text) :=
  match choice with
  | .record fields =>
    match Fields.get? "message" fields with
    | some (.record message) =>
      match Fields.get? "content" message with
      | none | some .null => .ok none
      | some (.text t) => .ok (some t)
      | some _ => .error .unexpectedShape
    | _ => .error .unexpectedShape
  | _ => .error .unexpectedShape

/-- The contents of all choices of a completion. -/
def contents (completion : Value) : Except BodyError (List (Option Text)) :=
  match completion with
  | .record fields =>
    match Fields.get? "choices" fields with
    | some (.list choices) => choices.mapM choiceContent
    | _ => .error .unexpectedShape
  | _ => .error .unexpectedShape

/-- A text without the mark of its encoding. -/
def dropEncodingMark (body : Text) : Text :=
  match body with
  | '\ufeff' :: rest => rest
  | _ => body

/-- The contents of all choices in a body. -/
def readBody (body : Text) : Except BodyError (List (Option Text)) :=
  match Json.read (dropEncodingMark body) with
  | .ok completion => contents completion
  | .error .malformed => .error .notJson
  | .error .longInteger => .error .longInteger

/-- The seconds that a service asks to wait: none if the header is no run of digits. Digits of every
script count, but some digits are in no numeral, and too many are no number either. -/
def retryAfter? (header : Text) : Except Failure (Option Int) :=
  if header.isEmpty || !header.all Text.isDigitInForm then .ok none
  else
    match header.mapM Text.decimalValue? with
    | none => .error (.value "int")
    | some digits =>
      if Text.digitLimit < digits.length then .error (.value "int")
      else .ok (some (digits.foldl (fun n d => 10 * n + d) 0 : Nat))

/-- What a sent request comes to, with what is told about it. -/
abbrev Result := Except Failure Text × List Event

/-- The result of a response with status 429. -/
def ofRefusal (r : Response) : Result :=
  let header := r.header "retry-after"
  let told : List Event := [.rateLimitHit .openRouter header]
  match retryAfter? header with
  | .ok seconds => (.error (.rateLimit "OpenRouter rate limit exceeded" seconds), told)
  | .error f => (.error f, told)

/-- The result of a response with some other error status. -/
def ofErrorStatus (r : Response) : Result :=
  (.error (.service ("OpenRouter API error (" ++ Text.ofInt r.status ++ "): " ++ r.body.take 200)),
    [.requestRefused .openRouter r.status])

/-- The result of a reply with some content. -/
def ofContent (content : Option Text) : Result :=
  let text := Text.strip (content.getD [])
  if replyLimit < text.length then
    (.error (.service ("Response exceeds maximum length: " ++ Text.ofNat text.length)), [])
  else (.ok text, [.requestComplete .openRouter text.length])

/-- The result of a response. Without any choice the reply is empty. -/
def ofResponse (r : Response) : Result :=
  if r.status = 429 then ofRefusal r
  else if r.isError then ofErrorStatus r
  else
    match readBody r.body with
    | .error e =>
      (.error (.service "Malformed OpenRouter response"), [.requestBroken .openRouter e.check])
    | .ok [] => (.ok [], [])
    | .ok (content :: _) => ofContent content

/-- The result of a transport that broke. What is no fault of the transport is passed on. -/
def ofFault (f : Failure) : Result :=
  match f with
  | .transport fault message =>
    let told : List Event := [.requestBroken .openRouter message]
    if fault.family = .timeout then
      (.error (.timeout ("OpenRouter request timed out: " ++ message)), told)
    else (.error (.service ("OpenRouter request failed: " ++ message)), told)
  | other => (.error other, [])

/-- The result of the last attempt. -/
def ofOutcome : Except Failure Response → Result
  | .ok r => ofResponse r
  | .error f => ofFault f

/-- One exchange: its result, the number of requests, the pauses between them and the events. -/
structure Exchange where
  result : Except Failure Text
  attempts : Nat
  pauses : List Double
  events : List Event

/-- How often requests are sent. -/
def policy (s : OpenRouterSettings) : RetryPolicy :=
  { maxAttempts := s.maxAttempts }

/-- Carry out one exchange; `outcome n` is what the transport does at attempt `n`. -/
def complete (s : OpenRouterSettings) (outcome : Nat → Except Failure Response) : Exchange :=
  let run := (policy s).run outcome
  let (result, told) := ofOutcome run.result
  ⟨result, run.attempts, run.pauses, run.events ++ told⟩

/-- One exchange with the requests that are sent in it. Without a request there is nothing to send. -/
def converse (s : OpenRouterSettings) (system user : Text) (outcome : Nat → Except Failure Response) :
    Exchange × List Request :=
  match request s system user with
  | .error f => (⟨.error f, 0, [], []⟩, [])
  | .ok r =>
    let exchange := complete s outcome
    (exchange, List.replicate exchange.attempts r)

end TexMend.Service.OpenRouter
