import Courier.Push.Consumer
import Courier.Simulation.World
import Courier.Text.Hex

/-!
# Answers that take their time

How the questions of the service are answered in a world of scripts. A question to a collaborator
waits for it; deliveries of one event run beside each other, as many at once as the settings allow.
-/

namespace Courier.Simulation

/-- The last digits of a number in base sixteen, as many as are asked for. -/
def hexDigits : Nat → Nat → List Char
  | 0, _ => []
  | count + 1, n => hexDigits count (n / 16) ++ [Hex.lower (n % 16)]

/-- The text like no other with a number. It has the form of a random identifier. -/
def freshId (n : Nat) : String :=
  "00000000-0000-4000-8000-" ++ String.ofList (hexDigits 12 n)

/-- What is seen in the settings. -/
def setting {α : Type} (f : Settings → α) : Play α :=
  Job.see fun w => f w.settings

/-- Works on the token store, which may follow a script. -/
def withTokens {α : Type} (f : Int → TokenStore → α × TokenStore) :
    Play (Except ServiceError α) := do
  let script ← Job.see fun w => w.cast.tokens.getD {}
  Play.follow script do
    let now ← Job.see World.seconds
    Play.step (Server.withTokens (f now))

/-- Works on the registrations of a user, which may follow a script. -/
def withRegistrations {α : Type} (user : String) (f : RegistrationStore → α × RegistrationStore) :
    Play (Except ServiceError α) := do
  let script ← Job.see fun w => (w.cast.registrations.get? user).getD {}
  Play.follow script (Play.step (Server.withRegistrations f))

/-- The call of a vendor's push service. -/
def notify (vendor : Vendor) (target : Push.Target) (n : Notification) :
    Play (Push.Timely Unit) := do
  let limit ← setting fun s => s.push.offlineTimeoutMs.toNat
  match ← Job.see fun w => w.cast.providers.get? vendor with
  | none | some .mock => return some (.ok ())
  | some (.remote call) => return some (call target n)
  | some (.scripted scripts) =>
    Play.note (.notify vendor target n)
    Play.followFor limit ((scripts.get? target.pushToken).getD {}) (pure ())

/-- The attempt to reach a user online. -/
def online (user : String) (e : Event) : Play (Push.Timely OnlineResult) := do
  Play.note (.online user)
  let limit ← setting fun s => s.push.onlineTimeoutMs.toNat
  match ← Job.see fun w => w.cast.online.get? user with
  | none => some <$> Play.step (Server.withSessions fun r => r.pushOnline user e)
  | some (script, sessions) =>
    Play.followFor limit script
      (pure (if sessions = 0 then .noLiveSession else .delivered sessions))

/-- Answers a question of a delivery. -/
def answerDelivery : (q : Push.DeliveryQuestion) → Play (Push.DeliveryAnswer q)
  | .online user e => online user e
  | .registrations user => do
    let limit ← setting fun s => s.push.offlineTimeoutMs.toNat
    let script ← Job.see fun w => (w.cast.registrations.get? user).getD {}
    Play.followFor limit script (Play.see fun s => s.registrations.ofUser user)
  | .notify vendor target n => notify vendor target n

/-- Works on a window of deliveries. -/
def withWindow {α : Type} (number : Nat) (default : α)
    (f : Push.Window String Outcome → α × Push.Window String Outcome) : Play α :=
  Job.act fun w =>
    match w.windows.get? number with
    | none => (default, w)
    | some window =>
      let (a, window) := f window
      (a, { w with windows := w.windows.insert number window })

/-- Whether a window of deliveries is in a certain state. -/
def windowIs (p : Push.Window String Outcome → Bool) (number : Nat) (w : World) : Bool :=
  (w.windows.get? number).any p

/-- Delivers an event to one recipient of a window. -/
def deliverOne (number job : Nat) (user : String) (e : Event) : Play Unit := do
  let vendors ← Job.see fun w => w.cast.providers.keys
  let outcome ← (Push.deliver vendors user e).run answerDelivery
  withWindow number () fun window => ((), window.finish job outcome)

/-- Begins the deliveries of a window, each as soon as there is room for it. -/
def beginAll (number : Nat) (e : Event) : List String → Play Unit
  | [] => pure ()
  | _ :: rest => do
    Job.await (windowIs Push.Window.hasRoom number)
    match ← withWindow number none fun window =>
      match window.start? with
      | some (job, window) => (some job, window)
      | none => (none, window) with
    | some (job, user) => Job.begin (deliverOne number job user e)
    | none => pure ()
    beginAll number e rest

/-- Delivers an event to users. -/
def deliverAll (recipients : List String) (e : Event) : Play Report := do
  let number ← Job.act fun w =>
    let window := Push.Window.new w.settings.push.maxConcurrentDeliveries.toNat recipients
    (w.windows.size, { w with windows := w.windows.insert w.windows.size window })
  beginAll number e recipients
  Job.await (windowIs Push.Window.isOver number)
  return ⟨← withWindow number [] fun window => (window.handed, window)⟩

/-- Looks a group up at its source. -/
def loadMembers (group : String) : Play Members := do
  match ← Job.see fun w => w.cast.groups with
  | .remote call => return call group
  | .scripted scripts =>
    Play.note (.members group)
    let limit ← setting fun s => s.membership.rpcTimeoutMs.toNat
    match scripts.get? group with
    | none => return .error (.notFound ("group " ++ group))
    | some (script, members) =>
      return (← Play.followFor limit script (pure members)).getD
        (.error (Group.Cache.tooSlow group))

/-- The members of a group, from the cache or the source. -/
def lookUp (group : String) : Play Members := do
  match ← Play.step (Server.withGroups fun c => c.ask group) with
  | .kept members => return .ok members
  | .await load =>
    Job.await fun w => (w.server.groups.result? load).isSome
    Play.see fun s => (s.groups.result? load).getD (.ok [])
  | .load load =>
    let result ← loadMembers group
    Play.step (Server.withGroups fun c => ((), c.settle load result))
    return result

/-- Takes note of a group that has changed. It is dropped beside what goes on. -/
def invalidate (group : String) : Play (Except ServiceError Unit) := do
  let result ← Play.step (Server.note group)
  if result.isOk then
    Job.begin (Job.modify fun w => { w with server := w.server.heed })
  return result

/-- Publishes a message, which waits in line for a full queue, and gives up after a span of time if
there is one. Tells whether the message has arrived. -/
def publish (payload : List UInt8) (patience : Option Nat) : Play (Except ServiceError Bool) := do
  match ← Play.step (Server.withStream fun s => s.publish payload) with
  | .error e => return .error e
  | .ok none => return .ok true
  | .ok (some ticket) =>
    let arrived (w : World) : Bool := !w.server.stream.line.contains ticket
    match patience with
    | none => Job.await arrived
    | some span => Job.awaitFor arrived span
    if ← Job.see arrived then return .ok true
    else
      Play.step (Server.withStream fun s => ((), s.withdraw ticket))
      return .ok false

/-- Has a delivery made again, now or after a while. -/
def nack (delivery : Nat) : Play (Except ServiceError Unit) := do
  match ← Play.step (Server.withStream fun s => s.nack delivery) with
  | .error e => return .error e
  | .ok none => return .ok ()
  | .ok (some ticket) =>
    let delay ← Play.see fun s => s.stream.delay
    let back := (← Job.time) + delay
    Job.begin do
      Job.sleepUntil back
      Play.step (Server.withStream fun s => ((), s.comeBack ticket))
    return .ok ()

/-- Answers a question of the service. -/
def answer : (q : Question) → Play (Answer q)
  | .now => Job.see World.seconds
  | .nowMs => Job.see fun w => w.seconds * 1000
  | .freshId => Job.act fun w => (freshId w.made, { w with made := w.made + 1 })
  | .lookupToken c token => do
    Play.note (.lookup c)
    withTokens fun now t => (t.lookup now c token, t)
  | .issueToken c token expires => withTokens fun now t => t.issue now c token expires
  | .kickTokens c => withTokens fun now t => t.kickAll now c
  | .register r => withRegistrations r.user fun rs => ((), rs.register r)
  | .unregister c => withRegistrations c.user fun rs => rs.unregister c
  | .invalidate group => invalidate group
  | .publish payload => Except.map (fun _ => ()) <$> publish payload none
  | .ack delivery => Play.step (Server.withStream fun s => s.ack delivery)
  | .nack delivery => nack delivery
  | .members group => lookUp group
  | .deliver recipients e => deliverAll recipients e

/-- A dialogue of the service as a job. -/
def converse {α : Type} (d : Dialogue Answer α) : Play α :=
  d.run answer

/-- A computation of the service as a job. -/
def serve {α : Type} (s : Service α) : Play (Except ServiceError α) :=
  converse s.run

end Courier.Simulation
