import Courier.Message.Event

/-!
# Notifications

A user without a live session is told about a message by a notification: a fixed title and the
start of the message as text.
-/

namespace Courier

/-- What a push service shows to a user. -/
structure Notification where
  conversation : String
  sender : String
  clientMsgId : String
  title : String
  body : String
  deriving DecidableEq, Repr, Inhabited

namespace Notification

/-- The number of characters that a preview shows. -/
def previewLength : Nat := 64

/-- The first characters of a text, followed by an ellipsis if there are more. -/
def preview (s : String) : String :=
  if previewLength < s.length then String.ofList (s.toList.take previewLength) ++ "…" else s

/-- The notification about an event. -/
def ofEvent (e : Event) : Notification where
  conversation := e.conversation
  sender := e.sender
  clientMsgId := e.clientMsgId
  title := "新消息"
  body := preview (ofUtf8Lossy e.payload)

/-- A notification as JSON. -/
def toJson (n : Notification) : Json :=
  .object [
    ("conversation_id", .text n.conversation),
    ("sender_id", .text n.sender),
    ("client_msg_id", .text n.clientMsgId),
    ("title", .text n.title),
    ("body", .text n.body)]

/-- What a notification tells an app about its message. -/
def data (n : Notification) : Json :=
  .object [
    ("conversation_id", .text n.conversation),
    ("sender_id", .text n.sender),
    ("client_msg_id", .text n.clientMsgId)]

/-- Reads a notification. -/
def read : Json.Reader Notification := fun v => do
  let field := fun name => Json.Field.of name .required Json.readText
  let given ← Json.readFields
    (["conversation_id", "sender_id", "client_msg_id", "title", "body"].map field) v
  return {
    conversation := ← given.get "conversation_id" Json.readText
    sender := ← given.get "sender_id" Json.readText
    clientMsgId := ← given.get "client_msg_id" Json.readText
    title := ← given.get "title" Json.readText
    body := ← given.get "body" Json.readText }

end Notification

end Courier
