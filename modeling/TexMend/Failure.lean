import TexMend.Text.Quoted
import TexMend.Text.Numeral

/-!
# Failures

What can go wrong while a text service is asked. The failures of this library come first; below the
services lie faults of the transport, and anything may break unexpectedly. What is raised need not be able
to say what it is.
-/

namespace TexMend

/-- The ways in which a transport breaks before there is a response. -/
inductive TransportFault where
  | connectTimeout | readTimeout | writeTimeout | poolTimeout
  | connectError | readError | writeError | closeError
  | remoteProtocolError | localProtocolError | proxyError | unsupportedProtocol | decodingError
  | tooManyRedirects
  deriving DecidableEq, Inhabited, Repr

namespace TransportFault

/-- What kind of fault it is. -/
inductive Family where
  /-- The other side was too slow. -/
  | timeout
  /-- The connection failed. -/
  | network
  /-- Anything else; the request may have been understood. -/
  | other
  deriving DecidableEq, Repr

def all : List TransportFault :=
  [.connectTimeout, .readTimeout, .writeTimeout, .poolTimeout, .connectError, .readError, .writeError,
    .closeError, .remoteProtocolError, .localProtocolError, .proxyError, .unsupportedProtocol,
    .decodingError, .tooManyRedirects]

def name : TransportFault → Text
  | connectTimeout => "ConnectTimeout"
  | readTimeout => "ReadTimeout"
  | writeTimeout => "WriteTimeout"
  | poolTimeout => "PoolTimeout"
  | connectError => "ConnectError"
  | readError => "ReadError"
  | writeError => "WriteError"
  | closeError => "CloseError"
  | remoteProtocolError => "RemoteProtocolError"
  | localProtocolError => "LocalProtocolError"
  | proxyError => "ProxyError"
  | unsupportedProtocol => "UnsupportedProtocol"
  | decodingError => "DecodingError"
  | tooManyRedirects => "TooManyRedirects"

def family : TransportFault → Family
  | connectTimeout | readTimeout | writeTimeout | poolTimeout => .timeout
  | connectError | readError | writeError | closeError => .network
  | _ => .other

end TransportFault

/-- A failure with what it says. -/
inductive Failure where
  /-- A failure of this library that is none of the following. -/
  | general (message : Text)
  /-- The service failed, or its answer is of no use. -/
  | service (message : Text)
  /-- The service refuses for a while, of which it may have told the seconds. -/
  | rateLimit (message : Text) (retryAfter : Option Int)
  /-- A text could not be made safe. -/
  | security (message : Text)
  /-- Secrets could not be masked. -/
  | redaction (message : Text)
  /-- The call took too long. -/
  | timeout (message : Text)
  | transport (fault : TransportFault) (message : Text)
  /-- Unexpected: something broke while running. -/
  | runtime (message : Text)
  /-- Unexpected: a value was not as it should be. -/
  | value (message : Text)
  /-- Unexpected: a number was too large. -/
  | overflow (message : Text)
  /-- Unexpected: a key was missing. -/
  | key (key : Text)
  /-- Unexpected: an address was none. -/
  | address (message : Text)
  /-- Unexpected: characters beyond ASCII from place `start` up to place `stop`, the first of them `c`. -/
  | foreign (c : Char) (start stop : Nat)
  /-- Unexpected: a clock ran out somewhere below. -/
  | clock (message : Text)
  /-- Any other kind of failure; a service may bring its own, also as a kind of this library. -/
  | other (kind : Text) (foreseen : Bool) (message : Text)
  deriving DecidableEq, Inhabited, Repr

namespace Failure

/-- Is it one that this library foresees? -/
def isForeseen : Failure → Bool
  | general _ | service _ | rateLimit .. | security _ | redaction _ | timeout _ => true
  | other _ foreseen _ => foreseen
  | _ => false

/-- Is it that of a clock which is not this library's? -/
def isClock : Failure → Bool
  | clock _ => true
  | _ => false

/-- Is it worth another attempt, because the request may not have arrived? -/
def isTransient : Failure → Bool
  | transport fault _ => fault.family != .other
  | _ => false

/-- The name of the kind of failure, as the journal shows it. -/
def name : Failure → Text
  | general _ => "RepairError"
  | service _ => "AIServiceError"
  | rateLimit .. => "RateLimitError"
  | security _ => "SecurityError"
  | redaction _ => "RedactionError"
  | timeout _ => "TimeoutError"
  | transport fault _ => fault.name
  | runtime _ => "RuntimeError"
  | value _ => "ValueError"
  | overflow _ => "OverflowError"
  | key _ => "KeyError"
  | address _ => "InvalidURL"
  | foreign .. => "UnicodeEncodeError"
  | clock _ => "TimeoutError"
  | other kind _ _ => kind

/-- What is said of characters beyond ASCII: one of them by its code, several by their places. -/
def foreignMessage (c : Char) (start stop : Nat) : Text :=
  let culprits : Text :=
    if stop = start + 1 then
      "character '" ++ Text.codeEscape c ++ "' in position " ++ Text.ofNat start
    else "characters in position " ++ Text.ofNat start ++ "-" ++ Text.ofNat (stop - 1)
  "'ascii' codec can't encode " ++ culprits ++ ": ordinal not in range(128)"

/-- What the failure says; a missing key is quoted. -/
def message : Failure → Text
  | general m | service m | rateLimit m _ | security m | redaction m | timeout m | transport _ m
  | runtime m | value m | overflow m | address m | clock m | other _ _ m => m
  | key k => Text.quoted k
  | foreign c start stop => foreignMessage c start stop

/-- An integer has too many digits to be written. -/
def tooManyDigits : Failure :=
  .value ("Exceeds the limit (" ++ Text.ofNat Text.digitLimit ++ " digits) for integer string conversion; " ++
    "use sys.set_int_max_str_digits() to increase the limit")

end Failure

/-- A failure as it is raised. One that cannot say what it is raises another when it is asked. -/
inductive Raised where
  | worded (failure : Failure)
  | wordless (ofClock : Bool) (met : Raised)

namespace Raised

/-- The failure with what it says, or what is raised by asking. -/
def said : Raised → Except Raised Failure
  | worded failure => .ok failure
  | wordless _ met => .error met

/-- Is it that of a clock? That shows without asking. -/
def isClock : Raised → Bool
  | worded failure => failure.isClock
  | wordless ofClock _ => ofClock

end Raised

end TexMend
