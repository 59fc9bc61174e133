import Courier.Client
import Courier.Http.MediaType
import Courier.Http.Message
import Courier.Message.Event

/-!
# Bodies of requests

What the routes read from the bodies of their requests. A body must be marked as JSON, be JSON, and
have the right shape, and each failure has its own answer.
-/

namespace Courier.Http

/-- Why a body cannot be read. -/
inductive BodyError where
  | notMarked
  | malformed
  | shape
  deriving DecidableEq, Repr

namespace BodyError

/-- The sentence about a body that cannot be read. -/
def message : BodyError → String
  | .notMarked => "Expected request with `Content-Type: application/json`"
  | .malformed => "Failed to parse the request body as JSON"
  | .shape => "Failed to deserialize the JSON body into the target type"

/-- The status of the answer about a body that cannot be read. -/
def status : BodyError → Nat
  | .notMarked => 415
  | .malformed => 400
  | .shape => 422

/-- The answer about a body that cannot be read. -/
def response (e : BodyError) : Response :=
  .withBody e.status (.text e.message)

end BodyError

/-- Whether a request says that its body is JSON. -/
def Request.isJson (r : Request) : Bool :=
  (r.header? "content-type").any MediaType.isJson

/-- Reads the body of a request. -/
def Request.read {α : Type} (r : Request) (read : Json.Reader α) : Except BodyError α :=
  if r.isJson then
    match (Json.Document.ofBytes r.body).read read with
    | .ok a => .ok a
    | .error .malformed => .error .malformed
    | .error _ => .error .shape
  else .error .notMarked

/-- A field that is read as a text. -/
def textField (name : String) : Json.Field :=
  .of name .required Json.readText

/-- Reads a record of one text. -/
def readOneText (name : String) : Json.Reader String := fun v => do
  let given ← Json.readFields [textField name] v
  given.get name Json.readText

/-- The fields that name a client. -/
def clientFields : List Json.Field :=
  [textField "user_id", .of "platform_id" .required Json.readCode]

/-- The client that fields name. -/
def givenClient (given : Json.Given) : Except Json.DecodeError Client := do
  return ⟨← given.get "user_id" Json.readText, ← given.get "platform_id" Json.readCode⟩

/-- Reads a client. -/
def readClient : Json.Reader Client := fun v => do
  givenClient (← Json.readFields clientFields v)

/-- A request for a token. -/
structure TokenRequest where
  secret : String
  client : Client
  deriving Repr, Inhabited

/-- Reads a request for a token. -/
def TokenRequest.read : Json.Reader TokenRequest := fun v => do
  let given ← Json.readFields (textField "secret" :: clientFields) v
  return ⟨← given.get "secret" Json.readText, ← givenClient given⟩

/-- A message that a client sends. -/
structure Submission where
  clientMsgId : Option String
  recipient : Option String
  group : Option String
  content : String
  senderSync : Bool
  deriving Repr, Inhabited

namespace Submission

/-- Reads a text that may be left out. -/
def readMaybe : Json.Reader (Option String) :=
  Json.readOptional Json.readText

/-- The fields of a submission. -/
def fields : List Json.Field := [
  .of "client_msg_id" .defaulted readMaybe,
  .of "recv_id" .defaulted readMaybe,
  .of "group_id" .defaulted readMaybe,
  textField "content",
  .of "options" .defaulted Event.readOptions]

/-- Reads a submission. -/
def read : Json.Reader Submission := fun v => do
  let given ← Json.readFields fields v
  return {
    clientMsgId := ← given.getD "client_msg_id" readMaybe none
    recipient := ← given.getD "recv_id" readMaybe none
    group := ← given.getD "group_id" readMaybe none
    content := ← given.get "content" Json.readText
    senderSync := ← given.getD "options" Event.readOptions false }

/-- Who a submission is for: exactly one of a user and a group, and not an empty one. -/
def selector (s : Submission) : Except ServiceError Selector :=
  match s.recipient, s.group with
  | some user, none => if user = "" then .error neither else .ok (.direct user)
  | none, some group => if group = "" then .error neither else .ok (.group group)
  | _, _ => .error neither
where
  neither : ServiceError := .invalidArgument "exactly one of recv_id / group_id is required"

end Submission

end Courier.Http
