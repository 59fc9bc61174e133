import Courier.Dialogue
import Courier.Message.Notification
import Courier.Message.Report
import Courier.Push.Channels
import Courier.Registration.Store
import Courier.Session.Registry

/-!
# Delivery to one recipient

A recipient is first tried online. Only one who has no live session is notified offline, on every
registered platform that has a channel; the sender of a message is never notified about it. One
notification that goes through is enough. All that is asked for may fail or come too late.
-/

namespace Courier.Push

/-- Where a notification goes. -/
structure Target where
  client : Client
  pushToken : String
  deriving DecidableEq, Repr, Inhabited

/-- The target of a registration. -/
def Target.ofRegistration (r : Registration) : Target :=
  ⟨⟨r.user, r.platform⟩, r.pushToken⟩

/-- What a delivery asks for. -/
inductive DeliveryQuestion where
  /-- To hand an event to the live sessions of a user. -/
  | online (user : String) (e : Event)
  /-- The registrations of a user. -/
  | registrations (user : String)
  /-- To have a vendor show a notification. -/
  | notify (vendor : Vendor) (target : Target) (n : Notification)

/-- What comes back in time, if anything does. -/
abbrev Timely (α : Type) := Option (Except ServiceError α)

/-- What a question of a delivery is answered by. -/
def DeliveryAnswer : DeliveryQuestion → Type
  | .online .. => Timely OnlineResult
  | .registrations _ => Timely (List Registration)
  | .notify .. => Timely Unit

/-- What came of a notification on one platform: a reason if it did not go through. -/
def attempted (vendor : Vendor) : Timely Unit → Except String Unit
  | some (.ok ()) => .ok ()
  | some (.error e) => .error e.message
  | none => .error (vendor.name ++ " push timed out")

/-- Notifies a user on each registered platform that has a channel. -/
def attempts (vendors : List Vendor) (n : Notification) :
    List Registration → Dialogue DeliveryAnswer (List (Except String Unit))
  | [] => .done []
  | r :: rest =>
    match channel vendors r.platform with
    | .error _ => attempts vendors n rest
    | .ok vendor =>
      .ask (.notify vendor (.ofRegistration r) n) fun answer => do
        return attempted vendor answer :: (← attempts vendors n rest)

/-- The reasons why notifications did not go through. -/
def reasons (results : List (Except String Unit)) : List String :=
  results.filterMap fun
    | .ok () => none
    | .error reason => some reason

/-- The outcome of notifying a user on several platforms. -/
def conclude (results : List (Except String Unit)) : Outcome :=
  if results.any (·.isOk) then .deliveredOffline
  else if results.isEmpty then .noOfflineProvider
  else .failed ("; ".intercalate (reasons results))

/-- Notifies a user who has no live session. Without any vendor nothing is asked. -/
def deliverOffline (vendors : List Vendor) (user : String) (e : Event) :
    Dialogue DeliveryAnswer Outcome :=
  if vendors.isEmpty then .done .noOfflineProvider
  else .ask (.registrations user) fun
    | none => .done (.failed "registration lookup timed out")
    | some (.error e) => .done (.failed e.message)
    | some (.ok registrations) =>
      conclude <$> attempts vendors (.ofEvent e) registrations

/-- Delivers an event to a user. -/
def deliver (vendors : List Vendor) (user : String) (e : Event) :
    Dialogue DeliveryAnswer Outcome :=
  .ask (.online user e) fun
    | none => .done (.failed "online delivery timed out")
    | some (.error e) => .done (.failed e.message)
    | some (.ok (.delivered _)) => .done .deliveredOnline
    | some (.ok .noLiveSession) =>
      if user = e.sender then .done .deliveredOnline else deliverOffline vendors user e

end Courier.Push
