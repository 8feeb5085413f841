import TexMend.Settings.Sections

/-!
# Messages

One exchange with the first service, whose client repeats failed requests by itself and tells in the end
either the blocks of the reply or one of three kinds of error.
-/

namespace TexMend.Service.Anthropic

open Settings

/-- The kinds of error that the client tells. -/
inductive ClientError where
  | rateLimit (message : Text)
  | timeout (message : Text)
  | other (message : Text)

/-- What the client gives: the texts of the blocks, where they have any, or an error. -/
abbrev Answer := Except ClientError (List (Option Text))

/-- The longest reply that is accepted, in characters. -/
def replyLimit : Nat := 20000

/-- What is sent. -/
def request (s : AnthropicSettings) (system user : Text) : Value :=
  .record [("model", .text s.model), ("max_tokens", .int s.maxTokens),
    ("temperature", .real s.temperature), ("system", .text system),
    ("messages", .list [.record [("role", .text "user"), ("content", .text user)]])]

/-- The failure that an error of the client is. -/
def ClientError.failure : ClientError → Failure
  | rateLimit m => .rateLimit ("Anthropic rate limit exceeded: " ++ m) none
  | timeout m => .timeout ("Anthropic request timed out: " ++ m)
  | other m => .service ("Anthropic API error: " ++ m)

/-- The result of an exchange, with what is told about it. -/
def complete (answer : Answer) : Except Failure Text × List Event :=
  match answer with
  | .error e => (.error e.failure, [.requestRejected .anthropic e.failure])
  | .ok blocks =>
    let text := blocks.flatMap fun block => block.getD []
    if replyLimit < text.length then
      (.error (.service ("Response exceeds maximum length: " ++ Text.ofNat text.length)), [])
    else (.ok text, [.requestComplete .anthropic text.length])

end TexMend.Service.Anthropic
