import Courier.Keyspace.Registrations
import Courier.Keyspace.Tokens
import Courier.Service.Server

/-!
# The service over a keyspace

The same service with its tokens and registrations in a keyspace instead of its own memory: the
questions about them are put to the keyspace, all others are answered as before.
-/

namespace Courier.Keyspace

/-- The service and the keyspace that it shares. -/
structure SharedServer where
  server : Server
  keyspace : Keyspace

namespace SharedServer

/-- Puts a question to the keyspace. -/
def share {α : Type} (outside : Collaborators) (s : Shared α) :
    StateM SharedServer (Except ServiceError α) := fun w =>
  let (a, keyspace) := s.on outside.seconds w.keyspace
  (a, { w with keyspace })

/-- Has the service itself answer. -/
def own {α : Type} (f : StateM Server α) : StateM SharedServer α := fun w =>
  let (a, server) := f w.server
  (a, { w with server })

/-- Answers a question of a delivery. -/
def answerDelivery (outside : Collaborators) :
    (q : Push.DeliveryQuestion) → StateM SharedServer (Push.DeliveryAnswer q)
  | .registrations user => some <$> share outside (Registrations.ofUser user)
  | .online user e => own (Server.answerDelivery outside (.online user e))
  | .notify vendor target n => own (Server.answerDelivery outside (.notify vendor target n))

/-- Delivers an event to users, one after the other. -/
def deliverAll (outside : Collaborators) (recipients : List String) (e : Event) :
    StateM SharedServer Report := do
  let outcomes ← recipients.mapM fun user => do
    return (user, ← (Push.deliver outside.vendors user e).run (answerDelivery outside))
  return ⟨outcomes⟩

/-- Answers a question of the service. -/
def answer (outside : Collaborators) : (q : Question) → StateM SharedServer (Courier.Answer q)
  | .lookupToken c token => share outside (Tokens.lookup c token)
  | .issueToken c token expires => share outside (Tokens.issue outside.seconds c token expires)
  | .kickTokens c => share outside (Tokens.kickAll c)
  | .register r => share outside (Registrations.register r)
  | .unregister c => share outside (Registrations.unregister c)
  | .deliver recipients e => deliverAll outside recipients e
  | .now => own (Server.answer outside .now)
  | .nowMs => own (Server.answer outside .nowMs)
  | .freshId => own (Server.answer outside .freshId)
  | .invalidate group => own (Server.answer outside (.invalidate group))
  | .publish payload => own (Server.answer outside (.publish payload))
  | .ack delivery => own (Server.answer outside (.ack delivery))
  | .nack delivery => own (Server.answer outside (.nack delivery))
  | .members group => own (Server.answer outside (.members group))

/-- Runs a dialogue of the service. -/
def run {α : Type} (outside : Collaborators) (d : Dialogue Courier.Answer α) :
    StateM SharedServer α :=
  d.run (answer outside)

end SharedServer

end Courier.Keyspace
