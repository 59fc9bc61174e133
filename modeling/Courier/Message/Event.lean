import Courier.Message.Selector
import Courier.Json.Print
import Courier.ServiceError

/-!
# Message events

An event is a message on its way: who sent it, whom it is for, and its bytes. It travels as a JSON
record; all of its fields but the sender and the selector may be left out when it is read, and all
are written.
-/

namespace Courier

/-- A message on its way. -/
structure Event where
  clientMsgId : String
  sender : String
  senderPlatform : Option Int32
  selector : Selector
  payload : List UInt8
  /-- Whether the sender's other sessions get the message too. -/
  senderSync : Bool
  /-- In milliseconds since 1970. -/
  sendTime : Int64
  deriving DecidableEq, Repr, Inhabited

namespace Event

/-- The options of an event as JSON. -/
def optionsToJson (senderSync : Bool) : Json :=
  .object [("sender_sync", .bool senderSync)]

/-- The fields of the options. -/
def optionFields : List Json.Field :=
  [.of "sender_sync" .defaulted Json.readBool]

/-- Reads the options of an event: whether the sender's other sessions get the message. -/
def readOptions : Json.Reader Bool := fun v => do
  let given ← Json.readFields optionFields v
  given.getD "sender_sync" Json.readBool false

/-- An event as JSON. -/
def toJson (e : Event) : Json :=
  .object [
    ("client_msg_id", .text e.clientMsgId),
    ("sender_id", .text e.sender),
    ("sender_platform_id", (e.senderPlatform.map fun n => Json.ofInt n.toInt).getD .null),
    ("selector", .text e.selector.render),
    ("payload", .array (e.payload.map fun b => .ofNat b.toNat)),
    ("options", optionsToJson e.senderSync),
    ("send_time", .ofInt e.sendTime.toInt)]

/-- The fields of an event. -/
def fields : List Json.Field := [
  .of "client_msg_id" .defaulted Json.readText,
  .of "sender_id" .required Json.readText,
  .of "sender_platform_id" .defaulted (Json.readOptional Json.readCode),
  .of "selector" .required Selector.read,
  .of "payload" .defaulted Json.readBytes,
  .of "options" .defaulted readOptions,
  .of "send_time" .defaulted Json.readTime]

/-- Reads an event. -/
def read : Json.Reader Event := fun v => do
  let given ← Json.readFields fields v
  return {
    clientMsgId := ← given.getD "client_msg_id" Json.readText ""
    sender := ← given.get "sender_id" Json.readText
    senderPlatform := ← given.getD "sender_platform_id" (Json.readOptional Json.readCode) none
    selector := ← given.get "selector" Selector.read
    payload := ← given.getD "payload" Json.readBytes []
    senderSync := ← given.getD "options" readOptions false
    sendTime := ← given.getD "send_time" Json.readTime 0 }

/-- The bytes under which an event travels. -/
def encode (e : Event) : List UInt8 :=
  e.toJson.bytes

/-- Reads an event from bytes. -/
def decode (bytes : List UInt8) : Except Json.DecodeError Event :=
  (Json.Document.ofBytes bytes).read read

/-- An event without a sender is refused. -/
def validate (e : Event) : Except ServiceError Unit :=
  if e.sender = "" then .error (.invalidArgument "sender_id is empty") else .ok ()

/-- The conversation of an event. -/
def conversation (e : Event) : String :=
  e.selector.conversation e.sender

/-- Who gets a message for one user: the user, and the sender too if its other sessions are to get
it. -/
def directRecipients (e : Event) (user : String) : List String :=
  if e.senderSync ∧ e.sender ≠ user then [user, e.sender] else [user]

/-- The members of `members` that are not in `seen`, each at its first place. -/
def firstOccurrences (seen : List String) : List String → List String
  | [] => []
  | m :: ms => if m ∈ seen then firstOccurrences seen ms else m :: firstOccurrences (m :: seen) ms

/-- Who gets a message for a group: its members in order, each once, without the sender unless its
other sessions are to get it. -/
def groupRecipients (e : Event) (members : List String) : List String :=
  firstOccurrences [] (members.filter fun m => e.senderSync || m ≠ e.sender)

end Event

end Courier
