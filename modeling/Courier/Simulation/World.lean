import Courier.Push.Window
import Courier.Service.Server
import Courier.Settings.Basic
import Courier.Simulation.Machine

/-!
# A world of scripts

The service in a world whose collaborators follow scripts: each takes its time, and then fails or
does what is asked. What the collaborators are asked is noted, with the moment.
-/

namespace Courier.Simulation

/-- How a collaborator takes a call: after a while it fails, or does what is asked. -/
structure Script where
  delay : Nat := 0
  error : Option ServiceError := none
  deriving Repr, Inhabited

/-- A vendor's push service. -/
inductive Provider where
  /-- Does what is asked without a word. -/
  | mock
  /-- Follows the script for a push token, if there is one. -/
  | scripted (scripts : Table String Script)
  /-- Is asked somewhere else, where each call ends at once. -/
  | remote (call : Push.Target → Notification → Except ServiceError Unit)

/-- Where the members of groups are known. -/
inductive GroupSource where
  /-- Follows the script for a group, and knows no other. -/
  | scripted (scripts : Table String (Script × List String))
  /-- Is asked somewhere else, where each call ends at once. -/
  | remote (call : String → Members)

/-- All collaborators. -/
structure Cast where
  /-- The users whose gateway follows a script, and the number of their live sessions. -/
  online : Table String (Script × Nat)
  providers : Table Vendor Provider
  groups : GroupSource
  /-- The users whose registrations follow a script. -/
  registrations : Table String Script
  /-- The script that the token store follows. -/
  tokens : Option Script

/-- A call that a collaborator is asked to take. -/
inductive Call where
  | online (user : String)
  | notify (vendor : Vendor) (target : Push.Target) (n : Notification)
  | members (group : String)
  | lookup (c : Client)

/-- The user whom a call is about, if it is about one. -/
def Call.user : Call → String
  | .online user => user
  | .notify _ target _ => target.client.user
  | .members _ => ""
  | .lookup c => c.user

/-- The service and the world around it. -/
structure World where
  server : Server
  settings : Settings
  cast : Cast
  /-- The time of the outside world in seconds. It stands still. -/
  seconds : Int
  /-- The number of texts like no other that were made. -/
  made : Nat
  /-- The deliveries of events that are under way, by number. -/
  windows : Table Nat (Push.Window String Outcome)
  /-- What those who asked for members at once were told, by number. -/
  told : Table Nat Members
  /-- The number of workers that have not ended. -/
  working : Nat
  /-- The calls of collaborators with their moments, the last one first. -/
  calls : List (Nat × Call)

/-- A job on a world. -/
abbrev Play (α : Type) := Job World α

namespace Play

/-- Takes a step of the service's state. -/
def step {α : Type} (f : StateM Server α) : Play α :=
  Job.act fun w =>
    let (a, server) := f w.server
    (a, { w with server })

/-- What is seen in the service's state. -/
def see {α : Type} (f : Server → α) : Play α :=
  Job.see fun w => f w.server

/-- Notes a call. -/
def note (call : Call) : Play Unit := do
  let now ← Job.time
  Job.modify fun w => { w with calls := (now, call) :: w.calls }

/-- Follows a script, and then does what is asked unless it fails. -/
def follow {α : Type} (script : Script) (work : Play α) : Play (Except ServiceError α) := do
  if 0 < script.delay then Job.sleep script.delay
  match script.error with
  | some e => return .error e
  | none => .ok <$> work

/-- Follows a script for no longer than a span of time. What takes longer is never done. -/
def followFor {α : Type} (limit : Nat) (script : Script) (work : Play α) :
    Play (Push.Timely α) := do
  if script.delay ≤ limit then some <$> follow script work
  else
    Job.sleep limit
    return none

end Play

end Courier.Simulation
