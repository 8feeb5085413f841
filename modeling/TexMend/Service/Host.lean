import TexMend.Text.Octets
import TexMend.Text.Lower
import TexMend.Text.Numeral
import TexMend.Text.Quoted
import TexMend.Service.Label

/-!
# Hosts of services

A host is four numbers with points between them, groups of hexadecimal digits in brackets, or a name. Settling
a host checks it and gives it the spelling that is sent.
-/

namespace TexMend.Service

/-- Why a text is no host. -/
inductive HostError where
  | badNumbers
  | badGroups
  | badName
  deriving DecidableEq, Repr

/-- What the transport says of a host. -/
def HostError.message (host : Text) : HostError → Text
  | badNumbers => "Invalid IPv4 address: " ++ Text.quoted host
  | badGroups => "Invalid IPv6 address: " ++ Text.quoted host
  | badName => "Invalid IDNA hostname: " ++ Text.quoted host

namespace Host

/-- Is a host four runs of digits with points between them? -/
def isFourRuns (host : Text) : Bool :=
  let parts := Text.splitOn "." host
  parts.length = 4 && parts.all fun part => !part.isEmpty && part.all Text.isAsciiDigit

/-- Is a part of a host a number from 0 to 255 without leading zeros? -/
def isOctet (part : Text) : Bool :=
  match part with
  | [] => false
  | c :: rest =>
    part.all Text.isAsciiDigit && part.length ≤ 3 && (c != '0' || rest.isEmpty) &&
      Text.digitsValue part ≤ 255

/-- Is a host four numbers of eight bits? -/
def isFourOctets (host : Text) : Bool :=
  let parts := Text.splitOn "." host
  parts.length = 4 && parts.all isOctet

/-- A group of sixteen bits. -/
def isGroup (group : Text) : Bool :=
  !group.isEmpty && group.length ≤ 4 && group.all fun c => (Text.hexDigitValue? c).isSome

/-- The groups between the colons; four numbers at the end stand for two groups. -/
def groups? (t : Text) : Option (List Text) :=
  let parts := Text.splitOn ":" t
  let last := parts.getLast?.getD []
  if parts.length < 3 then none
  else if !last.elem '.' then some parts
  else if isFourOctets last then some (parts.dropLast ++ [['0'], ['0']])
  else none

/-- Eight groups, or fewer with one gap, which is two colons in a row and stands for the groups that are
missing. -/
def areGroups (groups : List Text) : Bool :=
  let inner := (groups.drop 1).dropLast
  match inner.findIdx? List.isEmpty with
  | none => groups.length = 8 && groups.all isGroup
  | some i =>
    let before := groups.take (i + 1)
    let after := groups.drop (i + 2)
    let before := if before = [[]] then [] else before
    let after := if after = [[]] then [] else after
    before.length + after.length ≤ 7 && before.all isGroup && after.all isGroup

/-- Does a text in brackets stand for a host? What follows a percent sign names the way to it. -/
def isGrouped (t : Text) : Bool :=
  let address := t.takeWhile (· != '%')
  let way := t.drop address.length
  way.length != 1 && !(way.drop 1).elem '%' && ((groups? address).map areGroups).getD false

/-- The ASCII characters that a name does not show. -/
def barredInName : Text := "#/:<>?@[]^"

/-- The longest name, in characters as written, without a point at its end. -/
def nameLimit : Nat := 253

/-- The points that stand between labels, in all widths. -/
def isPoint (c : Char) : Bool :=
  c = '.' || c = '。' || c = '．' || c = '｡'

/-- A name in lower case that holds characters beyond ASCII, as it is written. -/
def writeName? (name : Text) : Option Text :=
  let labels := Text.splitOn "." (name.map fun c => if isPoint c then '.' else c)
  let endsInPoint := labels.getLast? = some []
  match (if endsInPoint then labels.dropLast else labels).mapM Label.write? with
  | none | some [] => none
  | some written =>
    let text := Text.joinWith "." written
    if nameLimit < text.length then none else some (if endsInPoint then text ++ ['.'] else text)

/-- The host in its settled spelling. -/
def settle (host : Text) : Except HostError Text :=
  if isFourRuns host then if isFourOctets host then .ok host else .error .badNumbers
  else if host.head? = some '[' && host.getLast? = some ']' then
    if isGrouped ((host.drop 1).dropLast) then .ok host else .error .badGroups
  else if host.all fun c => c.toNat < 128 then
    .ok ((Text.percentEncode (Text.isShown barredInName) host).map Text.lowerAscii)
  else
    match writeName? (Text.lower host) with
    | some written => .ok written
    | none => .error .badName

end Host

end TexMend.Service
