import TexMend.Text.Integer
import TexMend.Service.Host

/-!
# Addresses of services

An address over a secure connection in its parts, and the address of a resource below it. Reading settles
the spelling: the host in lower case, no number after it that goes without saying, no steps in the path, and
all that may not stand for itself written by its octets.
-/

namespace TexMend.Service

/-- The parts of an address over a secure connection. -/
structure Address where
  /-- The name and the password before the host, if any. -/
  user : Text
  host : Text
  /-- The number after the host, if it does not go without saying. -/
  portNumber : Option Int
  path : Text
  query : Option Text
  fragment : Option Text

/-- Why a text is no address. -/
inductive AddressError where
  | tooLong
  | unprintable (c : Char) (position : Nat)
  | badHost (host : Text) (error : HostError)
  | badPortNumber (digits : Text)
  | partTooLong (part : Text)

/-- What the transport says. -/
def AddressError.message : AddressError → Text
  | tooLong => "URL too long"
  | unprintable c position =>
    "Invalid non-printable ASCII character in URL, " ++ Text.quoted [c] ++ " at position " ++
      Text.ofNat position ++ "."
  | badHost host error => error.message host
  | badPortNumber digits => "Invalid port: " ++ Text.quoted digits
  | partTooLong part => "URL component " ++ Text.quoted part ++ " too long"

namespace Address

/-- The longest text that is read as an address. -/
def lengthLimit : Nat := 65536

/-- The number after the host of a secure connection, which goes without saying. -/
def securePortNumber : Int := 443

/-- The characters that no part shows as they are. -/
def barredEverywhere : Text := "\"<>"

/-- Those that a fragment does not show. -/
def barredInFragment : Text := barredEverywhere ++ "`"

/-- Those that a query does not show. -/
def barredInQuery : Text := barredEverywhere ++ "#"

/-- Those that a path does not show. -/
def barredInPath : Text := barredInQuery ++ "?`\x7b\x7d"

/-- Those that a user does not show. -/
def barredInUser : Text := barredInPath ++ "/;=@[\\]^|"

/-- Steps in a path are taken: a single point stays where it is, two go back by one part. -/
def settleParts : (settled : List Text) → List Text → List Text
  | settled, [] => settled
  | settled, part :: rest =>
    if part = ['.'] then settleParts settled rest
    else if part = ['.', '.'] then
      settleParts (if settled = [[]] then settled else settled.dropLast) rest
    else settleParts (settled ++ [part]) rest

/-- A path without steps. -/
def settlePath (path : Text) : Text :=
  Text.joinWith "/" (settleParts [] (Text.splitOn "/" path))

/-- The number after the host, unless it goes without saying. -/
def settlePortNumber (digits : Text) : Except AddressError (Option Int) :=
  if digits.isEmpty then .ok none
  else
    match Text.typedInt? digits with
    | none => .error (.badPortNumber digits)
    | some n => .ok (if n = securePortNumber then none else some n)

/-- Cut at the first `mark`; nothing follows if it is not there. -/
def cut (mark : Char) (t : Text) : Text × Option Text :=
  match Text.cutAt? mark t with
  | some (before, after) => (before, some after)
  | none => (t, none)

/-- Cut at the last `mark`, if it is there. -/
def cutLast (mark : Char) (t : Text) : Option Text × Text :=
  match cut mark t.reverse with
  | (after, some before) => (some before.reverse, after.reverse)
  | (_, none) => (none, t)

/-- The host of a text and the digits after the colon that follows it. -/
def hostAndDigits (t : Text) : Text × Text :=
  match t with
  | '[' :: _ =>
    match cutLast ']' t with
    | (some before, after) => (before ++ [']'], if after.head? = some ':' then after.drop 1 else after)
    | (none, _) => let (host, digits) := cut ':' t; (host, digits.getD [])
  | _ => let (host, digits) := cut ':' t; (host, digits.getD [])

/-- The first ASCII control character of a text, and its place. -/
def unprintable? (t : Text) : Option (Char × Nat) :=
  let before := (t.takeWhile fun c => 32 ≤ c.toNat && c.toNat != 127).length
  (t.drop before).head?.map fun c => (c, before)

/-- The scheme of a secure connection. -/
def scheme : Text := "https:"

/-- The parts of an address whose scheme is already read, in their settled spelling. -/
def ofParts (t : Text) : Except AddressError Address :=
  let (upto, fragment) := cut '#' t
  let (upto, query) := cut '?' upto
  let (authority, path) :=
    match Text.after? "//" upto with
    | some rest => (rest.takeWhile (· != '/'), rest.dropWhile (· != '/'))
    | none => ([], upto)
  let (user, place) := cutLast '@' authority
  let (host, digits) := hostAndDigits place
  match Host.settle host, settlePortNumber digits with
  | .error e, _ => .error (.badHost host e)
  | _, .error e => .error e
  | .ok host, .ok portNumber =>
    .ok {
      user := Text.percentEncode (Text.isShown barredInUser) (user.getD [])
      host, portNumber
      path := Text.percentEncode (Text.isShown barredInPath) (settlePath path)
      query := query.map (Text.percentEncode (Text.isShown barredInQuery))
      fragment := fragment.map (Text.percentEncode (Text.isShown barredInFragment)) }

/-- Read an address over a secure connection. -/
def read (t : Text) : Except AddressError Address :=
  if lengthLimit < t.length then .error .tooLong
  else
    match unprintable? t with
    | some (c, position) => .error (.unprintable c position)
    | none => ofParts ((Text.after? scheme t).getD t)

/-- Who asks, the host and the number after it. -/
def authority (a : Address) : Text :=
  (if a.user.isEmpty then [] else a.user ++ ['@']) ++ a.host ++
    (match a.portNumber with
      | some n => ':' :: Text.ofInt n
      | none => [])

/-- An address with a slash at the end of its path, or of its query if it has one. -/
def closed (a : Address) : Address :=
  let ending (t : Text) : Text := if t.getLast? = some '/' then t else t ++ ['/']
  match a.query with
  | none => { a with path := ending a.path }
  | some query => { a with path := if a.path.isEmpty then ['/'] else a.path, query := some (ending query) }

/-- The address of a resource below an address: it goes on from the last part. -/
def below (a : Address) (resource : Text) : Address :=
  let a := a.closed
  match a.query with
  | none => { a with path := a.path ++ resource }
  | some query => { a with query := some (query ++ resource) }

/-- The name of the first part that is longer than an address may be. -/
def longPart? (a : Address) : Option Text :=
  let isLong (t : Text) : Bool := lengthLimit < t.length
  if isLong a.authority then some "authority"
  else if isLong a.path then some "path"
  else if isLong (a.query.getD []) then some "query"
  else if isLong (a.fragment.getD []) then some "fragment"
  else none

/-- The address of a resource below the address in a text. -/
def ofResource (base resource : Text) : Except AddressError Address :=
  match read base with
  | .error e => .error e
  | .ok a =>
    let a := a.below resource
    match a.longPart? with
    | some part => .error (.partTooLong part)
    | none => .ok a

/-- The text of an address. -/
def text (a : Address) : Text :=
  let after (mark : Char) (part : Option Text) : Text := (part.map (mark :: ·)).getD []
  scheme ++ (if a.authority.isEmpty then [] else '/' :: '/' :: a.authority) ++ a.path ++
    after '?' a.query ++ after '#' a.fragment

/-- The proof of identity that the user in an address makes, unless both name and password are empty. -/
def credentials? (a : Address) : Option Text :=
  let (name, password) := cut ':' a.user
  let password := password.getD []
  if name.isEmpty && password.isEmpty then none
  else
    some ("Basic " ++
      Text.sixBitText (Text.mendOctets (Text.percentDecode name) ++ Text.octetsOf ':' ++
        Text.mendOctets (Text.percentDecode password)))

end Address

end TexMend.Service
