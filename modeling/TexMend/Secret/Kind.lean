import TexMend.Secret.Shape

/-!
# Kinds of secrets

The credentials that are masked without being asked for, in the order in which they are looked for.
-/

namespace TexMend.Secret

/-- A kind of secret: its name and what it looks like. -/
structure Kind where
  name : Text
  shape : Shape

/-- Word characters and the hyphen. -/
def isTokenChar (c : Char) : Bool :=
  Text.isWord c || c == '-'

/-- ASCII letters, digits and the underscore. -/
def isAsciiWord (c : Char) : Bool :=
  Text.isAsciiAlphanumeric c || c == '_'

/-- ASCII digits and capital letters. -/
def isCapitalOrDigit (c : Char) : Bool :=
  Text.isAsciiDigit c || ('A' ≤ c && c ≤ 'Z')

/-- The words that announce a credential, in any case. -/
def announcements : List Word :=
  [Word.folded "api" ++ (fun c => c == '_' || c == '-') :: Word.folded "key",
    Word.folded "apikey", Word.folded "secret", Word.folded "token", Word.folded "password",
    Word.folded "credential"]

/-- An announcement, an equals sign or a colon, an optional quote, and a long run of token characters. -/
def genericAssignment : Shape :=
  [.choice announcements, .run Text.isBlank 0, .one fun c => c == '=' || c == ':',
    .run Text.isBlank 0, .choice [[fun c => c == '"' || c == '\''], []], .run isTokenChar 16]

/-- The line that begins a private key. -/
def privateKey : Shape :=
  Shape.literal "-----BEGIN " ++
    .choice [Word.literal "RSA ", Word.literal "EC ", Word.literal "DSA ", Word.literal "OPENSSH ", []] ::
      Shape.literal "PRIVATE KEY-----"

/-- The kinds of secret that are always masked. -/
def standardKinds : List Kind :=
  [⟨"generic assignment", genericAssignment⟩,
    ⟨"openrouter",
      Shape.literal "sk-or-" ++
        [.choice [Word.literal "v1-", []], .run Text.isAsciiAlphanumeric 32]⟩,
    ⟨"anthropic", Shape.literal "sk-ant-" ++ [.run isTokenChar 40]⟩,
    ⟨"openai legacy", Shape.literal "sk-" ++ Shape.exactly 48 Text.isAsciiAlphanumeric⟩,
    ⟨"openai project", Shape.literal "sk-proj-" ++ [.run Text.isAsciiAlphanumeric 20]⟩,
    ⟨"github token", Shape.literal "ghp_" ++ Shape.exactly 36 Text.isAsciiAlphanumeric⟩,
    ⟨"github fine-grained token", Shape.literal "github_pat_" ++ [.run isAsciiWord 22]⟩,
    ⟨"aws access key", Shape.literal "AKIA" ++ Shape.exactly 16 isCapitalOrDigit⟩,
    ⟨"private key", privateKey⟩]

end TexMend.Secret
