import Courier.Service.Question

/-!
# Dispatching events

An event is dispatched to its recipients: the user it is for, or the members of the group, as they
were at one look. A look that fails fails the whole event; what becomes of a single recipient stands
in the report.
-/

namespace Courier.Push

/-- Dispatches an event to the members of a group. -/
def toGroup (group : String) (e : Event) : Service Report := do
  let members ← Service.members group
  Service.deliver (e.groupRecipients members) e

/-- Dispatches an event to its recipients. -/
def dispatch (e : Event) : Service Report := do
  Service.ofExcept e.validate
  match e.selector with
  | .direct user => Service.deliver (e.directRecipients user) e
  | .group group => toGroup group e

end Courier.Push
