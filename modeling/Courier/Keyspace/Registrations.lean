import Courier.Keyspace.Command
import Courier.Keyspace.Keys
import Courier.Registration.Store

/-!
# Registrations in a keyspace

Each registration stands as JSON under a key of its own and never ends. The registrations of a user
are asked for at once, over all platforms in their order; what cannot be read is passed over.
-/

namespace Courier.Keyspace.Registrations

/-- Registers a client, instead of an earlier registration. -/
def register (r : Registration) : Shared Unit :=
  setText (registrationKey ⟨r.user, r.platform⟩) r.toJson.print none

/-- The registration that a text stands for. -/
def ofText? (text : String) : Option Registration :=
  ((Json.Document.ofText text).read Registration.read).toOption

/-- The registrations of a user. -/
def ofUser (user : String) : Shared (List Registration) := do
  let found ← texts (Platform.all.map fun p => registrationKey ⟨user, p.id⟩)
  return found.filterMap (·.bind ofText?)

/-- Takes out the registration of a client, and tells whether there was one. -/
def unregister (c : Client) : Shared Bool := do
  let count : Nat ← send (.delete (registrationKey c))
  return 0 < count

end Courier.Keyspace.Registrations
