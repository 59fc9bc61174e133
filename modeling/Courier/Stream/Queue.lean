import Courier.Capacity
import Courier.ServiceError
import Courier.Table

/-!
# The event stream

A stream holds messages until they are acknowledged. They wait in a queue of bounded size; receiving
one hands it out under a fresh delivery number, and it stays in flight until its delivery is
acknowledged, which finishes the message, or refused, which has it delivered again with a higher
attempt number. A refused message goes back to the queue at once or after a while; nothing that
finds the queue full is lost, but stands in line for it. A closed stream takes no new messages, and
refusing a delivery then ends its message.
-/

namespace Courier

/-- A message in the stream and the attempt that its next delivery is. -/
structure Envelope (α : Type := List UInt8) where
  attempt : Nat
  payload : α
  deriving DecidableEq, Repr, Inhabited

/-- A message that is handed out. -/
structure Delivery (α : Type := List UInt8) where
  number : Nat
  attempt : Nat
  payload : α
  deriving DecidableEq, Repr, Inhabited

/-- The state of an event stream. -/
structure EventStream (α : Type := List UInt8) where
  /-- The number of messages that the queue holds. -/
  capacity : Nat
  capacity_pos : 0 < capacity
  /-- How long a refused message stays away, in milliseconds. -/
  delay : Nat
  isOpen : Bool
  queue : List (Envelope α)
  /-- The messages that are handed out, by delivery. -/
  inFlight : Table Nat (Envelope α)
  /-- The number of the next delivery. -/
  next : Nat
  /-- The refused messages that stay away for a while, by ticket. -/
  away : Table Nat (Envelope α)
  /-- The messages that stand in line for a full queue, by ticket. -/
  line : Table Nat (Envelope α)
  /-- The next ticket. -/
  ticket : Nat

namespace EventStream

variable {α : Type}

/-- An open stream without messages, whose queue holds at least one. -/
def new (capacity delay : Nat) : EventStream α where
  capacity := Capacity.atLeastOne capacity
  capacity_pos := Capacity.atLeastOne_pos capacity
  delay := delay
  isOpen := true
  queue := []
  inFlight := ∅
  next := 1
  away := ∅
  line := ∅
  ticket := 0

/-- Why a closed stream takes no message. -/
def closed : ServiceError :=
  .serviceUnavailable "event stream closed"

/-- Why a delivery cannot be settled. -/
def noDelivery (number : Nat) : ServiceError :=
  .notFound ("delivery " ++ toString number)

/-- Whether the queue takes another message. Those in line come first. -/
def hasRoom (s : EventStream α) : Bool :=
  s.line.isEmpty && s.queue.length < s.capacity

/-- Puts a message in the queue, or in line under a fresh ticket. -/
def enter (s : EventStream α) (e : Envelope α) : EventStream α :=
  if s.hasRoom then { s with queue := s.queue ++ [e] }
  else { s with line := s.line.insert s.ticket e, ticket := s.ticket + 1 }

/-- Lets a message in line into the queue, if it has room. -/
def letInOne (s : EventStream α) (ticket : Nat) : EventStream α :=
  match s.line.get? ticket with
  | none => s
  | some e =>
    if s.queue.length < s.capacity then
      { s with queue := s.queue ++ [e], line := s.line.erase ticket }
    else s

/-- Lets the messages in line into the queue, as far as it has room for them. -/
def letIn (s : EventStream α) : EventStream α :=
  s.line.keys.foldl letInOne s

/-- Publishes a message. It has arrived once it is in the queue; the ticket tells its place in
line. -/
def publish (s : EventStream α) (payload : α) :
    Except ServiceError (Option Nat) × EventStream α :=
  if !s.isOpen then (.error closed, s)
  else (.ok (if s.hasRoom then none else some s.ticket), s.enter ⟨1, payload⟩)

/-- Takes back a message that stands in line. -/
def withdraw (s : EventStream α) (ticket : Nat) : EventStream α :=
  { s with line := s.line.erase ticket }

/-- Takes the first message out of the queue and hands it out. -/
def take? (s : EventStream α) : Option (Delivery α × EventStream α) :=
  match s.queue with
  | [] => none
  | e :: rest =>
    some (⟨s.next, e.attempt, e.payload⟩,
      { s with queue := rest, inFlight := s.inFlight.insert s.next e, next := s.next + 1 })

/-- Receives the first message in the queue, which makes room for one in line. -/
def receive? (s : EventStream α) : Option (Delivery α × EventStream α) :=
  s.take?.map fun (d, s) => (d, s.letIn)

/-- Whether no message will ever be received. -/
def isDrained (s : EventStream α) : Bool :=
  !s.isOpen && s.queue.isEmpty && s.away.isEmpty && s.line.isEmpty

/-- Acknowledges a delivery, which finishes its message. -/
def ack (s : EventStream α) (number : Nat) : Except ServiceError Unit × EventStream α :=
  match s.inFlight.get? number with
  | none => (.error (noDelivery number), s)
  | some _ => (.ok (), { s with inFlight := s.inFlight.erase number })

/-- Refuses a delivery. Its message goes back to the queue, or stays away for a while under the
ticket that is told; a closed stream does not take it back. -/
def nack (s : EventStream α) (number : Nat) : Except ServiceError (Option Nat) × EventStream α :=
  match s.inFlight.get? number with
  | none => (.error (noDelivery number), s)
  | some e =>
    let again : Envelope α := { e with attempt := e.attempt + 1 }
    let s := { s with inFlight := s.inFlight.erase number }
    if !s.isOpen then (.error closed, s)
    else if s.delay = 0 then (.ok none, s.enter again)
    else (.ok (some s.ticket),
      { s with away := s.away.insert s.ticket again, ticket := s.ticket + 1 })

/-- Brings back a refused message whose time away is over. -/
def comeBack (s : EventStream α) (ticket : Nat) : EventStream α :=
  match s.away.get? ticket with
  | none => s
  | some e => { s with away := s.away.erase ticket }.enter e

/-- Closes a stream. What it holds can still be received. -/
def close (s : EventStream α) : EventStream α :=
  { s with isOpen := false }

/-- All messages that a stream holds. -/
def messages (s : EventStream α) : List (Envelope α) :=
  s.queue ++ s.line.values ++ s.away.values ++ s.inFlight.values

end EventStream

end Courier
