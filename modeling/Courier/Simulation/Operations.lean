import Courier.Http.Route
import Courier.Simulation.Answers

/-!
# Operations in a world of scripts

What can be done with the service in a world of scripts beyond the questions of its own dialogues:
looking into its stores, reading inboxes, taking part in the event stream, and running workers and
the periodic purge.
-/

namespace Courier.Simulation

/-- A machine with a service that has just started in a world. -/
def boot (settings : Settings) (server : Server) (cast : Cast) (seconds : Int) : Machine World where
  time := 0
  world := {
    server, settings, cast, seconds
    made := 0
    windows := ∅
    told := ∅
    working := 0
    calls := [] }
  others := []

/-- What came of an operation: its result, if it ended, the milliseconds it took, and the calls that
were made, with their moments since it began. -/
structure Performed (α : Type) where
  result : Option α
  span : Nat
  calls : List (Nat × Call)

/-- Performs an operation. Calls come in the order of their moments and users. -/
def perform {α : Type} (m : Machine World) (work : Play α) : Performed α × Machine World :=
  let quiet := { m with world := { m.world with calls := [] } }
  let (result, after) := quiet.run do
    let a ← work
    return (a, ← Job.time)
  let calls := after.world.calls.reverse.map fun c => (c.1 - m.time, c.2)
  let sorted := calls.mergeSort fun c d =>
    c.1 < d.1 || (c.1 = d.1 && !(d.2.user < c.2.user : Bool))
  ({ result := result.map Prod.fst
     span := ((result.map Prod.snd).getD after.time) - m.time
     calls := sorted }, after)

/-! ### Tokens -/

/-- Kicks a token. -/
def kick (c : Client) (token : String) : Play (Except ServiceError TokenState) := do
  let tombstone ← Play.see Server.tombstone
  withTokens fun now t => t.kick now tombstone c token

/-- The tokens of a client. -/
def tokens (c : Client) : Play (Except ServiceError (Table String TokenState)) :=
  withTokens fun now t => (t.tokens now c, t)

/-- Takes out the tokens whose time is over, and counts them. -/
def purge : Play (Except ServiceError Nat) :=
  withTokens fun now t => t.purge now

/-- The milliseconds between two purges. -/
def purgePeriod : Nat := 300000

/-- Purges at a moment, and again after each period. -/
def purging : Nat → Nat → Play Unit
  | 0, _ => pure ()
  | rounds + 1, moment => do
    Job.sleepUntil moment
    let _ ← purge
    purging rounds (moment + purgePeriod)

/-- Starts to purge after each period. -/
def startPurging : Play Unit := do
  Job.begin (purging Machine.fuel ((← Job.time) + purgePeriod))

/-! ### Sessions -/

/-- Works on the sessions. -/
def withSessions {α : Type} (f : Registry → α × Registry) : Play α :=
  Play.step (Server.withSessions f)

/-- Registers a session. -/
def connect (user : String) (platform : Int32) : Play Nat :=
  withSessions fun r => r.connect user platform

/-- Takes a session off a user's list. -/
def unregister (user : String) (number : Nat) : Play Unit :=
  withSessions fun r => ((), r.unregister user number)

/-- Ends the receiving end of a session. -/
def hangUp (number : Nat) : Play Bool :=
  withSessions fun r => r.hangUp number

/-- Reads the inbox of a session. -/
def readInbox (number : Nat) (most : Option Nat) : Play (List Event) :=
  withSessions fun r => r.read number most

/-- The number of a user's sessions. -/
def sessionCount (user : String) : Play Nat :=
  Play.see fun s => (s.sessions.sessions user).length

/-- Delivers an event to the sessions of a user. -/
def pushOnline (user : String) (e : Event) : Play (Except ServiceError OnlineResult) :=
  withSessions fun r => r.pushOnline user e

/-! ### Registrations -/

/-- The registrations of a user. -/
def registrations (user : String) : Play (Except ServiceError (List Registration)) :=
  withRegistrations user fun rs => (rs.ofUser user, rs)

/-- Registers a client now. -/
def register (c : Client) (pushToken : String) : Play (Except ServiceError Unit) := do
  let now ← answer .nowMs
  answer (.register ⟨c.user, c.platform, pushToken, Int64.ofInt now⟩)

/-! ### Groups -/

/-- Whether the members of a group are kept. -/
def isCached (group : String) : Play Bool :=
  Play.see fun s => s.groups.contains group

/-- Drops what is kept about a group. -/
def dropGroup (group : String) : Play Unit :=
  Play.step (Server.withGroups fun c => ((), c.invalidate group))

/-- Begins to look groups up for those with the numbers from `number` on. -/
def askAll (number : Nat) : List String → Play Unit
  | [] => pure ()
  | group :: rest => do
    Job.begin do
      let members ← lookUp group
      Job.modify fun w => { w with told := w.told.insert number members }
    askAll (number + 1) rest

/-- The members of groups, all looked up at once. -/
def lookUpAll (groups : List String) : Play (List Members) := do
  Job.modify fun w => { w with told := ∅ }
  askAll 0 groups
  Job.await fun w => w.told.size = groups.length
  Job.see fun w => (List.range groups.length).filterMap w.told.get?

/-! ### The event stream -/

/-- What one who receives from the stream gets. -/
inductive Received (α : Type) where
  | message (a : α)
  | empty
  | closed

/-- Whether there is something to receive, or never will be. -/
def hasNews (w : World) : Bool :=
  !w.server.stream.queue.isEmpty || w.server.stream.isDrained

/-- Takes the first message from the stream, if there is one. -/
def takeMessage : Play (Received Delivery) :=
  Play.step <| Server.withStream fun s =>
    match s.receive? with
    | some (d, s) => (.message d, s)
    | none => (if s.isDrained then .closed else .empty, s)

/-- Waits for a message no longer than a span of time. -/
def receive (patience : Nat) : Play (Received Delivery) := do
  Job.awaitFor hasNews patience
  takeMessage

/-- Closes the stream. -/
def closeStream : Play Unit :=
  Play.step (Server.withStream fun s => ((), s.close))

/-- The number of messages in flight. -/
def inFlight : Play Nat :=
  Play.see fun s => s.stream.inFlight.size

/-- Waits for a message no longer than a span of time, and processes it. -/
def processNext (patience : Nat) : Play (Received (Delivery × Push.Verdict)) := do
  match ← receive patience with
  | .empty => return .empty
  | .closed => return .closed
  | .message d => return .message (d, ← converse (Push.process d.number d.payload))

/-- Processes messages until the stream is drained, at most so many. -/
def workOff : Nat → Play Unit
  | 0 => pure ()
  | rounds + 1 => do
    Job.await hasNews
    match ← takeMessage with
    | .message d =>
      let _ ← converse (Push.process d.number d.payload)
      workOff rounds
    | .empty => workOff rounds
    | .closed => pure ()

/-- Begins the work of so many workers. -/
def beginWorkers (rounds : Nat) : Nat → Play Unit
  | 0 => pure ()
  | count + 1 => do
    Job.begin do
      workOff rounds
      Job.modify fun w => { w with working := w.working - 1 }
    beginWorkers rounds count

/-- Closes the stream and has workers process all that is left in it. Tells their number. Each
message that the stream holds is received once more at most, so no worker takes more rounds than
that. -/
def runWorkers : Play Nat := do
  closeStream
  let workers ← setting fun s => max s.consumer.workers.toNat 1
  let rounds ← Play.see fun s => s.stream.messages.length + 1
  Job.modify fun w => { w with working := workers }
  beginWorkers rounds workers
  Job.await fun w => w.working = 0
  return workers

/-! ### HTTP -/

/-- Answers a request. -/
def request (r : Http.Request) : Play Http.Response := do
  let settings ← setting Settings.auth
  converse (Http.handle settings r)

end Courier.Simulation
