import Courier.Json.Record
import Courier.Json.Print

/-!
# Errors of the service

One type for everything that the service reports as an error: three ways a token can fail, and a
dozen kinds that carry a text. Each kind has a sentence, a code and an HTTP status, and travels in
JSON under its name.
-/

namespace Courier

/-- An error of the service. -/
inductive ServiceError where
  | invalidArgument (text : String)
  | noPermission (text : String)
  | tokenUnknown
  | tokenNotExist
  | tokenKicked
  | noOfflinePusher (text : String)
  | provider (text : String)
  | network (text : String)
  | cache (text : String)
  | serialization (text : String)
  | configuration (text : String)
  | timeout (text : String)
  | serviceUnavailable (text : String)
  | notFound (text : String)
  | internal (text : String)
  deriving DecidableEq, Repr, Inhabited

namespace ServiceError

/-- The name of an error's kind. -/
def name : ServiceError → String
  | .invalidArgument _ => "InvalidArgument"
  | .noPermission _ => "NoPermission"
  | .tokenUnknown => "TokenUnknown"
  | .tokenNotExist => "TokenNotExist"
  | .tokenKicked => "TokenKicked"
  | .noOfflinePusher _ => "NoOfflinePusher"
  | .provider _ => "Provider"
  | .network _ => "Network"
  | .cache _ => "Cache"
  | .serialization _ => "Serialization"
  | .configuration _ => "Configuration"
  | .timeout _ => "Timeout"
  | .serviceUnavailable _ => "ServiceUnavailable"
  | .notFound _ => "NotFound"
  | .internal _ => "Internal"

/-- The text that an error carries. -/
def text? : ServiceError → Option String
  | .invalidArgument t | .noPermission t | .noOfflinePusher t | .provider t | .network t
  | .cache t | .serialization t | .configuration t | .timeout t | .serviceUnavailable t
  | .notFound t | .internal t => some t
  | .tokenUnknown | .tokenNotExist | .tokenKicked => none

/-- The sentence about an error. -/
def message : ServiceError → String
  | .invalidArgument t => "Invalid argument: " ++ t
  | .noPermission t => "No permission: " ++ t
  | .tokenUnknown => "Token unknown"
  | .tokenNotExist => "Token does not exist"
  | .tokenKicked => "Token has been kicked"
  | .noOfflinePusher t => "No offline pusher available: " ++ t
  | .provider t => "Push provider error: " ++ t
  | .network t => "Network error: " ++ t
  | .cache t => "Cache error: " ++ t
  | .serialization t => "Serialization error: " ++ t
  | .configuration t => "Configuration error: " ++ t
  | .timeout t => "Timeout error: " ++ t
  | .serviceUnavailable t => "Service unavailable: " ++ t
  | .notFound t => "Not found: " ++ t
  | .internal t => "Internal error: " ++ t

/-- The number of an error's kind. -/
def code : ServiceError → Nat
  | .invalidArgument _ => 1001
  | .noPermission _ => 1002
  | .notFound _ => 1004
  | .tokenUnknown => 1505
  | .tokenKicked => 1506
  | .tokenNotExist => 1507
  | .noOfflinePusher _ => 1601
  | .provider _ => 1602
  | .network _ => 2001
  | .serialization _ => 2002
  | .configuration _ => 2003
  | .cache _ => 2004
  | .timeout _ => 3002
  | .serviceUnavailable _ => 5000
  | .internal _ => 500

/-- The status of an HTTP answer that reports an error. -/
def status : ServiceError → Nat
  | .invalidArgument _ | .serialization _ => 400
  | .tokenUnknown | .tokenNotExist | .tokenKicked => 401
  | .noPermission _ => 403
  | .notFound _ => 404
  | .network _ | .cache _ | .timeout _ | .serviceUnavailable _ => 503
  | .noOfflinePusher _ | .provider _ | .configuration _ | .internal _ => 500

/-- The error with this name, if its kind carries no text. -/
def bare? : String → Option ServiceError
  | "TokenUnknown" => some .tokenUnknown
  | "TokenNotExist" => some .tokenNotExist
  | "TokenKicked" => some .tokenKicked
  | _ => none

/-- The errors of this name, if its kind carries a text. -/
def carrying? : String → Option (String → ServiceError)
  | "InvalidArgument" => some .invalidArgument
  | "NoPermission" => some .noPermission
  | "NoOfflinePusher" => some .noOfflinePusher
  | "Provider" => some .provider
  | "Network" => some .network
  | "Cache" => some .cache
  | "Serialization" => some .serialization
  | "Configuration" => some .configuration
  | "Timeout" => some .timeout
  | "ServiceUnavailable" => some .serviceUnavailable
  | "NotFound" => some .notFound
  | "Internal" => some .internal
  | _ => none

/-- An error as its name, or as an object from its name to its text. -/
def toJson (e : ServiceError) : Json :=
  match e.text? with
  | none => .text e.name
  | some t => .object [(e.name, .text t)]

/-- Reads an error. -/
def read : Json.Reader ServiceError :=
  Json.readVariant bare? fun name => (carrying? name).map fun error v => error <$> Json.readText v

/-- The body of an HTTP answer that reports an error at a time in seconds. -/
def body (e : ServiceError) (details : Option String) (timestamp : Int) : Json :=
  .object [("code", .ofNat e.code), ("message", .text e.message), ("details", .optional details),
    ("timestamp", .ofInt timestamp)]

/-- The name and the text of an error determine it. -/
theorem read_toJson (e : ServiceError) : read e.toJson = .ok e := by
  cases e <;> rfl

end ServiceError

end Courier
