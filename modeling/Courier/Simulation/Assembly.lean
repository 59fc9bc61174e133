import Courier.Group.Source
import Courier.Keyspace.Address
import Courier.Provider.Setup
import Courier.Simulation.Operations

/-!
# The service assembled from its settings

The service as its settings describe it, in a world where other services are reached over a network
that answers at once. Keys sign with nothing there, since nobody looks at a signature.
-/

namespace Courier.Simulation

/-- A network: how each call is answered, if it is. -/
abbrev Network := Http.Sent → Option Http.Reply

/-- The way to a vendor in a world with a network. -/
def providerOver (network : Network) (seconds : Int) : Courier.Provider → Provider
  | .standIn => .mock
  | p => .remote fun target n => p.push (fun _ _ => []) network seconds target n

/-- The collaborators that settings name. -/
def castOver (network : Network) (seconds : Int) (settings : Settings)
    (providers : Table Vendor Courier.Provider) : Cast where
  online := ∅
  providers := providers.mapValues fun _ p => providerOver network seconds p
  groups := .remote fun group =>
    Group.Source.conclude group
      ((Group.Source.request settings.membership.rpcUrl group).exchange network)
  registrations := ∅
  tokens := none

/-- Checks that no keyspace is wanted: in this world none is ever reached. -/
def checkKeyspace : Option RedisSettings → Except ServiceError Unit
  | none => .ok ()
  | some s => do
    Keyspace.checkSettings s
    throw (.cache "Failed to get Redis connection: Timed out in bb8")

/-- The collaborators of a service that is assembled from its settings. The stores come first, then
the vendors. -/
def assemble (network : Network) (readFile : String → Except String String) (seconds : Int)
    (settings : Settings) : Except ServiceError Cast := do
  checkKeyspace settings.redis
  return castOver network seconds settings (← Courier.Provider.setUp settings.push readFile)

/-- Why the service cannot listen at its address. -/
def checkAddress (s : ServerSettings) : Except ServiceError Unit :=
  if '\x00' ∈ s.host.toList then
    .error (.internal "file name contained an unexpected NUL byte")
  else .ok ()

/-- Processes the messages that wait in the stream. -/
def keepUp : Play Unit := do
  workThrough (← Play.see fun s => s.stream.queue.length)
where
  /-- Processes so many messages. -/
  workThrough : Nat → Play Unit
    | 0 => pure ()
    | count + 1 => do
      let _ ← processNext 0
      workThrough count

end Courier.Simulation
