import Courier.Gate.Secret
import Courier.Gate.Token
import Courier.Http.Body
import Courier.Push.Rpc

/-!
# Routes

Each path of the service is open, or stands behind the token gate, or takes callers from inside who
know the shared secret. A request meets the guard of its path first, whatever its method is; then
the method has to fit; then the body has to be readable; and then the route does its work.
-/

namespace Courier.Http

/-- The routes of the service. -/
inductive Route where
  | health
  | userToken
  | parseToken
  | forceLogout
  | updatePushToken
  | sendMessage
  | pushMessage
  | deletePushToken
  | invalidateGroup
  deriving DecidableEq, Repr

/-- What stands before a route. -/
inductive Guard where
  | none
  | token
  | secret
  deriving DecidableEq, Repr

namespace Route

/-- The route of a path. -/
def ofPath? : String → Option Route
  | "/health" => some .health
  | "/auth/user_token" => some .userToken
  | "/auth/parse_token" => some .parseToken
  | "/auth/force_logout" => some .forceLogout
  | "/third/fcm_update_token" => some .updatePushToken
  | "/msg/send_msg" => some .sendMessage
  | "/push/push_msg" => some .pushMessage
  | "/push/del_user_push_token" => some .deletePushToken
  | "/push/invalidate_group" => some .invalidateGroup
  | _ => none

/-- What stands before a route. -/
def guard : Route → Guard
  | .health | .userToken | .parseToken => .none
  | .forceLogout | .updatePushToken | .sendMessage => .token
  | .pushMessage | .deletePushToken | .invalidateGroup => .secret

/-- The methods that a route takes. -/
def methods : Route → List String
  | .health => ["GET", "HEAD"]
  | _ => ["POST"]

/-- The methods that a route takes, as a response names them. -/
def allow (r : Route) : String :=
  ",".intercalate r.methods

end Route

/-- What a route brings forth: a body, or an error of the service. A body that cannot be read is
answered without asking anything. -/
abbrev Action := Except BodyError (Service Json)

/-- Works on the body of a request. -/
def withBody {α : Type} (r : Request) (read : Json.Reader α) (work : α → Service Json) : Action :=
  work <$> r.read read

namespace Work

/-- The body of an answer that says nothing more. -/
def nothing : Json :=
  .object []

/-- Issues a token to one who knows the shared secret. -/
def userToken (settings : AuthSettings) (t : TokenRequest) : Service Json := do
  Service.ofExcept (Gate.checkSecret settings.issueSecret (some t.secret))
  let issued ← Token.issue settings t.client
  return .object [("token", .text issued.token), ("expire_time_seconds", .ofInt issued.span.toInt)]

/-- Tells what is known about a token. -/
def parseToken (settings : AuthSettings) (token : String) : Service Json := do
  let parsed ← Token.parse settings token
  return .object [
    ("user_id", .text parsed.client.user),
    ("platform_id", .ofInt parsed.client.platform.toInt),
    ("platform_name", .text (Platform.nameOf parsed.client.platform)),
    ("expire_time_seconds", .ofInt parsed.remaining),
    ("state", .text parsed.state.name)]

/-- Kicks the tokens of a client for the caller. -/
def forceLogout (settings : AuthSettings) (caller c : Client) : Service Json := do
  let kicked ← Token.forceLogout settings caller.user c
  return .object [("kicked", .ofNat kicked)]

/-- Registers the caller for notifications. -/
def updatePushToken (caller : Client) (pushToken : String) : Service Json := do
  Push.updateRegistration caller pushToken
  return nothing

/-- The event of a message that a client sends. -/
def submitted (caller : Client) (s : Submission) (selector : Selector) (clientMsgId : String)
    (now : Int) : Event where
  clientMsgId := clientMsgId
  sender := caller.user
  senderPlatform := some caller.platform
  selector := selector
  payload := utf8 s.content
  senderSync := s.senderSync
  sendTime := Int64.ofInt now

/-- Puts a message of the caller on the event stream. -/
def sendMessage (caller : Client) (s : Submission) : Service Json := do
  let selector ← Service.ofExcept s.selector
  let clientMsgId ← match s.clientMsgId with
    | some id => pure id
    | none => Service.freshId
  let e := submitted caller s selector clientMsgId (← Service.nowMs)
  Service.ofExcept e.validate
  Service.publish e.encode
  return .object [
    ("client_msg_id", .text e.clientMsgId),
    ("send_time", .ofInt e.sendTime.toInt)]

/-- Pushes an event and reports on it. -/
def pushMessage (e : Event) : Service Json :=
  Report.toJson <$> Push.pushMessage e

/-- Drops the registration of a client. -/
def deletePushToken (c : Client) : Service Json := do
  Push.deleteRegistration c
  return nothing

/-- Tells that the members of a group have changed. -/
def invalidateGroup (group : String) : Service Json := do
  Push.invalidateGroup group
  return nothing

/-- That the service is there. -/
def health : Json :=
  .object [("status", .text "ok"), ("version", .text "0.1.0")]

end Work

/-- What a route does for a request, on behalf of the identity that is bound to it. -/
def Route.act (settings : AuthSettings) (r : Request) (bound : Option Identity) : Route → Action
  | .health => .ok (pure Work.health)
  | .userToken => withBody r TokenRequest.read (Work.userToken settings)
  | .parseToken => withBody r (readOneText "token") (Work.parseToken settings)
  | .forceLogout => forCaller readClient (Work.forceLogout settings)
  | .updatePushToken => forCaller (readOneText "fcm_token") Work.updatePushToken
  | .sendMessage => forCaller Submission.read Work.sendMessage
  | .pushMessage => withBody r Event.read Work.pushMessage
  | .deletePushToken => withBody r readClient Work.deletePushToken
  | .invalidateGroup => withBody r (readOneText "group_id") Work.invalidateGroup
where
  /-- Works on the body of a request on behalf of its caller. -/
  forCaller {α : Type} (read : Json.Reader α) (work : Client → α → Service Json) : Action :=
    match Identity.ofBound bound with
    | .error e => .ok (throw e)
    | .ok i => withBody r read (work i.client)

/-- Lets a request through the guard of a route, and binds the identity of its caller to it. -/
def Route.enter (settings : AuthSettings) (r : Request) (route : Route) :
    Service (Option Identity) :=
  match route.guard with
  | .none => pure none
  | .secret => do
    Service.ofExcept (Gate.checkSecret settings.issueSecret (r.header? "secret"))
    return none
  | .token => do
    let operation ← match r.header? "operationid" with
      | some id => pure id
      | none => Service.freshId
    let client ← Gate.letIn settings (r.header? "token")
    return some ⟨client, operation⟩

/-- The response to what a computation of the service brought. -/
def respond (result : Except ServiceError Json) : Dialogue Answer Response :=
  match result with
  | .ok body => .done (.withBody 200 (.json body))
  | .error e => .ask .now fun now => .done (.ofError e now)

/-- Names the methods of a route in a response to a method that it does not take. -/
def Route.naming (route : Route) (method : String) (response : Response) : Response :=
  if method ∈ route.methods then response else { response with allow := some route.allow }

/-- Answers a request on a route. -/
def Route.handle (settings : AuthSettings) (r : Request) (route : Route) :
    Dialogue Answer Response := do
  match ← (route.enter settings r).run with
  | .error e => respond (.error e)
  | .ok bound =>
    if r.method ∈ route.methods then
      match route.act settings r bound with
      | .error e => return e.response
      | .ok work => respond (← work.run)
    else return .bare 405

/-- Answers a request. A question about the options of a path is answered without its guard. -/
def handle (settings : AuthSettings) (r : Request) : Dialogue Answer Response :=
  let route := Route.ofPath? r.path
  if r.method = "OPTIONS" then
    return { Response.bare 200 with allow := route.map Route.allow }
  else
    match route with
    | none => return .bare 404
    | some route => do
      let response ← route.naming r.method <$> route.handle settings r
      return if r.method = "HEAD" then response.head else response

end Courier.Http
