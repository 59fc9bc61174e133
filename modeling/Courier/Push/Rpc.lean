import Courier.Push.Dispatch

/-!
# Calls from inside

Other services push an event and wait for its report, keep the registrations of clients, and tell
when the members of a group have changed.
-/

namespace Courier.Push

/-- Why a push whose report names failures fails. -/
def failed (report : Report) : ServiceError :=
  let reasons := report.failures.map fun f => f.1 ++ ": " ++ f.2
  .serviceUnavailable ("push failed for " ++ toString reasons.length ++ " recipient(s): " ++
    ", ".intercalate reasons)

/-- Pushes an event. One recipient that fails is a failure of the call. -/
def pushMessage (e : Event) : Service Report := do
  let report ← dispatch e
  if report.isSuccess then return report else throw (failed report)

/-- Registers a client for notifications. -/
def updateRegistration (c : Client) (pushToken : String) : Service Unit := do
  Service.ofExcept (checkPlatform c.platform)
  if pushToken = "" then throw (.invalidArgument "push token is empty")
  Service.register ⟨c.user, c.platform, pushToken, Int64.ofInt (← Service.nowMs)⟩

/-- Drops the registration of a client. -/
def deleteRegistration (c : Client) : Service Unit := do
  Service.ofExcept (checkUser c.user)
  Service.ofExcept (checkPlatform c.platform)
  let _ ← Service.unregister c

/-- Tells that the members of a group have changed. -/
def invalidateGroup (group : String) : Service Unit := do
  if group = "" then throw (.invalidArgument "group_id is empty")
  Service.invalidate group

end Courier.Push
