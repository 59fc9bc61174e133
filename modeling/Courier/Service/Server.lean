import Courier.Group.Cache
import Courier.Push.Delivery
import Courier.Service.Question
import Courier.Session.Registry
import Courier.Settings.Basic
import Courier.Stream.Queue
import Courier.Token.Store

/-!
# The state of the service

All that the service holds, and how it answers the questions of its dialogues while no time passes:
every collaborator outside answers at once, and a question is answered before the next is asked.
-/

namespace Courier

/-- What the service holds. -/
structure Server where
  tokens : TokenStore
  /-- The seconds for which a token without a record stays kicked. -/
  tombstone : UInt64
  registrations : RegistrationStore
  sessions : Registry
  groups : Group.Cache
  stream : EventStream
  /-- The groups whose members have changed and are still to be dropped. -/
  invalidations : List String
  /-- Whether anyone takes note of groups that have changed. -/
  listens : Bool

/-- The collaborators outside, who answer at once and always alike. -/
structure Collaborators where
  /-- The time in seconds. -/
  seconds : Int
  /-- The time in milliseconds. -/
  milliseconds : Int
  /-- A text that is like no other. -/
  fresh : String
  /-- The source of group members. -/
  members : String → Members
  /-- The vendors that are set up. -/
  vendors : List Vendor
  /-- What comes of a notification that a vendor is to show. -/
  notify : Vendor → Push.Target → Notification → Except ServiceError Unit

namespace Server

/-- The state in which a service with these settings starts. -/
def new (settings : Settings) : Server where
  tokens := ∅
  tombstone := settings.auth.tokenTtlSecs
  registrations := ∅
  sessions := .new settings.push.sessionQueueCapacity.toNat
  groups := .new (settings.membership.maxCapacity ≠ 0 && settings.membership.maxStalenessSecs ≠ 0)
  stream := .new settings.consumer.queueCapacity.toNat settings.consumer.redeliveryDelayMs.toNat
  invalidations := []
  listens := true

/-- Why nobody takes note of a group that has changed. -/
def notListening : ServiceError :=
  .serviceUnavailable "invalidation listener stopped"

/-- Changes the token store and tells what comes of it. -/
def withTokens {α : Type} (f : TokenStore → α × TokenStore) : StateM Server α := fun s =>
  let (a, tokens) := f s.tokens
  (a, { s with tokens })

/-- Changes the registrations and tells what comes of it. -/
def withRegistrations {α : Type} (f : RegistrationStore → α × RegistrationStore) :
    StateM Server α := fun s =>
  let (a, registrations) := f s.registrations
  (a, { s with registrations })

/-- Changes the sessions and tells what comes of it. -/
def withSessions {α : Type} (f : Registry → α × Registry) : StateM Server α := fun s =>
  let (a, sessions) := f s.sessions
  (a, { s with sessions })

/-- Changes the membership cache and tells what comes of it. -/
def withGroups {α : Type} (f : Group.Cache → α × Group.Cache) : StateM Server α := fun s =>
  let (a, groups) := f s.groups
  (a, { s with groups })

/-- Changes the event stream and tells what comes of it. -/
def withStream {α : Type} (f : EventStream → α × EventStream) : StateM Server α := fun s =>
  let (a, stream) := f s.stream
  (a, { s with stream })

/-- Takes note of a group that has changed. -/
def note (group : String) : StateM Server (Except ServiceError Unit) := fun s =>
  if s.listens then (.ok (), { s with invalidations := s.invalidations ++ [group] })
  else (.error notListening, s)

/-- Drops what is known about the first group that has changed. -/
def heed (s : Server) : Server :=
  match s.invalidations with
  | [] => s
  | group :: rest => { s with invalidations := rest, groups := s.groups.invalidate group }

/-- Answers a question of a delivery. -/
def answerDelivery (outside : Collaborators) :
    (q : Push.DeliveryQuestion) → StateM Server (Push.DeliveryAnswer q)
  | .online user e => some <$> withSessions fun r => r.pushOnline user e
  | .registrations user => fun s => (some (.ok (s.registrations.ofUser user)), s)
  | .notify vendor target n => pure (some (outside.notify vendor target n))

/-- Delivers an event to users, one after the other. -/
def deliverAll (outside : Collaborators) (recipients : List String) (e : Event) :
    StateM Server Report := do
  let outcomes ← recipients.mapM fun user => do
    return (user, ← (Push.deliver outside.vendors user e).run (answerDelivery outside))
  return ⟨outcomes⟩

/-- The members of a group, from the cache or the source. -/
def lookUp (outside : Collaborators) (group : String) : StateM Server Members := do
  match ← withGroups fun c => c.ask group with
  | .kept members => return .ok members
  | .await load | .load load =>
    let result := outside.members group
    withGroups fun c => ((), c.settle load result)
    return result

/-- Answers a question of the service. -/
def answer (outside : Collaborators) : (q : Question) → StateM Server (Answer q)
  | .now => pure outside.seconds
  | .nowMs => pure outside.milliseconds
  | .freshId => pure outside.fresh
  | .lookupToken c token => fun s => (.ok (s.tokens.lookup outside.seconds c token), s)
  | .issueToken c token expires =>
    .ok <$> withTokens fun t => t.issue outside.seconds c token expires
  | .kickTokens c => .ok <$> withTokens fun t => t.kickAll outside.seconds c
  | .register r => .ok <$> withRegistrations fun rs => ((), rs.register r)
  | .unregister c => .ok <$> withRegistrations fun rs => rs.unregister c
  | .invalidate group => note group
  | .publish payload => withStream fun s => (s.publish payload).map (Except.map fun _ => ()) id
  | .ack delivery => withStream fun s => s.ack delivery
  | .nack delivery => withStream fun s => (s.nack delivery).map (Except.map fun _ => ()) id
  | .members group => lookUp outside group
  | .deliver recipients e => deliverAll outside recipients e

/-- Runs a dialogue of the service. -/
def run {α : Type} (outside : Collaborators) (d : Dialogue Answer α) : StateM Server α :=
  d.run (answer outside)

end Server

end Courier
