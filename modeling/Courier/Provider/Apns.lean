import Courier.Crypto.SigningKey
import Courier.Http.Outgoing
import Courier.Json.Record
import Courier.Push.Delivery
import Courier.Settings.Basic
import Courier.Text.Base64

/-!
# Notifications through APNs

A notification is sent to the address of its device, with a token that the team's key signs. How the
key signs is left open.
-/

namespace Courier

/-- Access to the service of a team. -/
structure Apns where
  bundle : String
  team : String
  keyId : String
  sandbox : Bool
  key : SigningKey
  deriving Repr, Inhabited

namespace Apns

/-- Access by settings and the text of the key file, if there is one. -/
def setUp (s : ApnsSettings) (file : Except String String) : Except ServiceError Apns :=
  match file with
  | .error reason => .error (.configuration ("Failed to read APNs private key: " ++ reason))
  | .ok text =>
    match SigningKey.ofPem? text with
    | none => .error (.configuration "Failed to parse APNs private key: InvalidKeyFormat")
    | some key => .ok ⟨s.bundleId, s.teamId, s.keyId, s.sandbox, key⟩

/-- The service for apps in use, or the one for trials. -/
def endpoint (a : Apns) : String :=
  if a.sandbox then "https://api.sandbox.push.apple.com" else "https://api.push.apple.com"

/-- What is sent for a notification. -/
def payload (n : Notification) : Json :=
  .object [
    ("aps", .object [
      ("alert", .object [("title", .text n.title), ("body", .text n.body)]),
      ("badge", .ofNat 1),
      ("sound", .text "default")]),
    ("data", n.data)]

/-- What the key signs: who sends, and when. -/
def claim (a : Apns) (now : Int) : List Char :=
  let header : Json := .object [
    ("typ", .text "JWT"), ("alg", .text "ES256"), ("kid", .text a.keyId)]
  let claims : Json := .object [("iat", .ofInt now), ("iss", .text a.team)]
  let part (v : Json) := Base64.encode Base64.urlSafe v.bytes
  part header ++ '.' :: part claims

/-- The call that sends a notification, where `sign` is how the key signs. A key that cannot sign
sends nothing. -/
def request (a : Apns) (sign : SigningKey → List Char → List UInt8) (now : Int)
    (target : Push.Target) (n : Notification) : Except ServiceError Http.Outgoing :=
  if a.key.canSign then
    let signature := Base64.encode Base64.urlSafe (sign a.key (a.claim now))
    .ok {
      address := a.endpoint ++ "/3/device/" ++ target.pushToken
      headers := [
        ("authorization", "bearer " ++ String.ofList (a.claim now ++ '.' :: signature)),
        ("apns-topic", a.bundle),
        ("apns-priority", "10"),
        ("apns-push-type", "alert")]
      body := payload n }
  else .error (.provider "Failed to generate APNs JWT: InvalidEcdsaKey")

/-- The reason in a reply, if its body is JSON that gives one. -/
def reason? (reply : Http.Reply) : Option String := do
  let read : Json.Reader Json := fun v => do
    Json.skip v
    return v
  match ((Json.Document.ofBytes (utf8 reply.text)).read read).toOption with
  | some (.obj members _) =>
    match (members.findRev? fun m => m.1 == .quoted (.text "reason")).map Prod.snd with
    | some (.str (.text reason)) => some reason
    | _ => none
  | _ => none

/-- What came of a notification, by what came of the call. -/
def conclude : Except Http.CallFault Http.Reply → Except ServiceError Unit
  | .error fault => .error (.provider ("APNs request failed: " ++ fault.message))
  | .ok reply =>
    if reply.isSuccess then .ok ()
    else
      let status := Http.Status.text reply.status
      .error (.provider (match reason? reply with
        | some reason => "APNs error: " ++ reason ++ " (" ++ status ++ ")"
        | none => "APNs push failed: status=" ++ status ++ ", error=" ++ reply.text))

/-- What comes of a notification over a network. -/
def push (a : Apns) (sign : SigningKey → List Char → List UInt8)
    (network : Http.Sent → Option Http.Reply) (now : Int) (target : Push.Target)
    (n : Notification) : Except ServiceError Unit := do
  conclude ((← a.request sign now target n).exchange network)

end Apns

end Courier
