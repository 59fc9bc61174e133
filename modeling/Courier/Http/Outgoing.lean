import Courier.Http.Status
import Courier.Json.Print
import Courier.Text.Utf8
import Courier.Url.Parse

/-!
# Calls to other services

The service calls others by sending them JSON. A call may be impossible to write down, may find
nobody, or be answered; what the answer means is up to the caller.
-/

namespace Courier.Http

/-- A call that is to be made: always a POST of JSON. -/
structure Outgoing where
  address : String
  /-- The headers besides the media type. -/
  headers : List (String × String)
  body : Json

/-- A call as it is sent. -/
structure Sent where
  url : Url
  headers : List (String × String)
  body : Json

/-- An answer to a call. -/
structure Reply where
  status : Nat
  body : List UInt8
  deriving DecidableEq, Repr, Inhabited

/-- Why a call has brought no answer. -/
inductive CallFault where
  /-- The address or a header cannot be written down. -/
  | unwritable
  /-- The address is none of the web. -/
  | foreign (address : String)
  /-- Nobody has answered. -/
  | unanswered (url : String)
  /-- The answer cannot be read. -/
  | unreadable
  deriving DecidableEq, Repr, Inhabited

/-- The sentence about a fault. -/
def CallFault.message : CallFault → String
  | .unwritable => "builder error"
  | .foreign address => "builder error for url (" ++ address ++ ")"
  | .unanswered url => "error sending request for url (" ++ url ++ ")"
  | .unreadable => "error decoding response body"

/-- Whether a text may stand as the value of a header: no control character besides the tab. -/
def isHeaderValue (value : String) : Bool :=
  value.toList.all fun c => c = '\t' || (32 ≤ c.toNat && c.toNat ≠ 127)

/-- An address without the slashes at its end, to which a path is added. -/
def withoutSlashes (address : String) : String :=
  String.ofList (address.toList.reverse.dropWhile (· = '/')).reverse

namespace Outgoing

/-- The call as it is sent. An address without a host is refused before the headers are looked at,
one of another kind after that. -/
def prepare (o : Outgoing) : Except CallFault Sent :=
  match Url.read o.address with
  | .malformed => .error .unwritable
  | .foreign shown false => .error (.foreign shown)
  | .foreign shown true =>
    if o.headers.all fun h => isHeaderValue h.2 then .error (.foreign shown)
    else .error .unwritable
  | .web url =>
    if o.headers.all fun h => isHeaderValue h.2 then .ok ⟨url, o.headers, o.body⟩
    else .error .unwritable

/-- What comes of a call over a network that answers some calls. -/
def exchange (network : Sent → Option Reply) (o : Outgoing) : Except CallFault Reply := do
  let sent ← o.prepare
  match network sent with
  | some reply => .ok reply
  | none => .error (.unanswered sent.url.render)

/-- What comes of a call where nobody listens. -/
def unanswered (o : Outgoing) : Except CallFault Reply :=
  o.exchange fun _ => none

theorem exchange_of_prepare {o : Outgoing} {fault : CallFault} (h : o.prepare = .error fault)
    (network : Sent → Option Reply) : o.exchange network = .error fault := by
  simp [exchange, h, bind, Except.bind]

end Outgoing

namespace Reply

/-- Whether a reply reports success. -/
def isSuccess (r : Reply) : Bool :=
  Status.isSuccess r.status

/-- The bytes of the body, where the status allows one. -/
def content (r : Reply) : List UInt8 :=
  if Status.isBodiless r.status then [] else r.body

/-- The body as text, without a byte order mark. -/
def text (r : Reply) : String :=
  match r.content with
  | 0xEF :: 0xBB :: 0xBF :: rest => ofUtf8Lossy rest
  | bytes => ofUtf8Lossy bytes

end Reply

end Courier.Http
