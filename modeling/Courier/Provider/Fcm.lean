import Courier.Http.Outgoing
import Courier.Push.Delivery
import Courier.Settings.Basic

/-!
# Notifications through FCM

A notification is sent to the project's address with the access token of the project.
-/

namespace Courier.Fcm

/-- The address of the service unless another is set. -/
def usualEndpoint : String := "https://fcm.googleapis.com"

/-- The address that takes a project's messages. -/
def address (s : FcmSettings) : String :=
  Http.withoutSlashes (s.endpoint.getD usualEndpoint) ++ "/v1/projects/" ++ s.projectId ++
    "/messages:send"

/-- What is sent for a notification. -/
def payload (target : Push.Target) (n : Notification) : Json :=
  .object [("message", .object [
    ("token", .text target.pushToken),
    ("notification", .object [("title", .text n.title), ("body", .text n.body)]),
    ("data", n.data),
    ("android", .object [("priority", .text "high")])])]

/-- The call that sends a notification. -/
def request (s : FcmSettings) (target : Push.Target) (n : Notification) : Http.Outgoing where
  address := address s
  headers := [("authorization", "Bearer " ++ s.accessToken)]
  body := payload target n

/-- What came of a notification, by what came of the call. -/
def conclude : Except Http.CallFault Http.Reply → Except ServiceError Unit
  | .error fault => .error (.provider ("FCM request failed: " ++ fault.message))
  | .ok reply =>
    if reply.isSuccess then .ok ()
    else .error (.provider ("FCM push failed: status=" ++ Http.Status.text reply.status ++
      ", error=" ++ reply.text))

/-- A notification has gone through exactly if the call was answered with a success. -/
theorem conclude_eq_ok_iff {result : Except Http.CallFault Http.Reply} :
    conclude result = .ok () ↔ ∃ reply, result = .ok reply ∧ reply.isSuccess = true := by
  cases result with
  | error fault => simp [conclude]
  | ok reply => by_cases h : reply.isSuccess = true <;> simp [conclude, h]

end Courier.Fcm
