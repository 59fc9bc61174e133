import Courier.Capacity
import Courier.Message.Event
import Courier.Table

/-!
# The session registry

A live session of a user has a number, a platform and an inbox of bounded size, which its receiver
empties. A message for a user is offered to each session of the user: a session takes it, has no
room for it, is gone because its receiver has hung up, or is passed over because the message came
from it. Sessions that are gone are taken off the user's list on that occasion.

Editing a user's list and dropping the list once it is empty are two steps, so that other
operations may come between them.
-/

namespace Courier

/-- A live session of a user. -/
structure Session where
  number : Nat
  platform : Int32
  deriving DecidableEq, Repr, Inhabited

/-- What a session's receiver has not read yet, and whether it still listens. -/
structure Inbox where
  waiting : List Event
  isOpen : Bool
  deriving Repr, Inhabited

/-- What becomes of a message that is offered to a session. -/
inductive Offer where
  | skipped
  | taken
  | full
  | gone
  deriving DecidableEq, Repr

/-- How a message fared with the live sessions of a user. -/
inductive OnlineResult where
  | delivered (sessions : Nat)
  | noLiveSession
  deriving DecidableEq, Repr, Inhabited

/-- The live sessions of all users. -/
structure Registry where
  /-- The number of messages that an inbox holds. -/
  capacity : Nat
  capacity_pos : 0 < capacity
  /-- The number of the next session. Numbers have 64 bits: fewer than 2^64 sessions are ever
  registered. -/
  next : Nat
  /-- The sessions of each user, in the order in which they came. -/
  users : Table String (List Session)
  /-- The inboxes of all sessions that ever were, by number. -/
  inboxes : Table Nat Inbox

namespace Registry

/-- A registry without sessions, whose inboxes hold at least one message. -/
def new (capacity : Nat) : Registry where
  capacity := Capacity.atLeastOne capacity
  capacity_pos := Capacity.atLeastOne_pos capacity
  next := 1
  users := ∅
  inboxes := ∅

/-- The live sessions of a user. -/
def sessions (r : Registry) (user : String) : List Session :=
  (r.users.get? user).getD []

/-- The inbox of a session. -/
def inbox? (r : Registry) (number : Nat) : Option Inbox :=
  r.inboxes.get? number

/-- Registers a session of a client and tells its number. -/
def connect (r : Registry) (user : String) (platform : Int32) : Nat × Registry :=
  (r.next, { r with
    next := r.next + 1
    users := r.users.insert user (r.sessions user ++ [⟨r.next, platform⟩])
    inboxes := r.inboxes.insert r.next ⟨[], true⟩ })

/-- Drops the list of a user if it is empty. -/
def tidy (r : Registry) (user : String) : Registry :=
  { r with users := r.users.alter user (Option.filter fun list => !list.isEmpty) }

/-- Takes a session off a user's list. -/
def strike (r : Registry) (user : String) (number : Nat) : Registry :=
  { r with users := r.users.modify user fun list => list.filter fun s => s.number ≠ number }

/-- Takes a session off a user's list, and drops the list if nothing is left of it. The receiver
keeps what is in its inbox. -/
def unregister (r : Registry) (user : String) (number : Nat) : Registry :=
  (r.strike user number).tidy user

/-- Ends the receiving end of a session, and tells whether there was one. -/
def hangUp (r : Registry) (number : Nat) : Bool × Registry :=
  ((r.inbox? number).any Inbox.isOpen,
    { r with inboxes := r.inboxes.modify number fun _ => ⟨[], false⟩ })

/-- Reads the messages in an inbox, at most so many. -/
def read (r : Registry) (number : Nat) (most : Option Nat) : List Event × Registry :=
  let waiting := ((r.inbox? number).map Inbox.waiting).getD []
  let count := most.getD waiting.length
  (waiting.take count,
    { r with inboxes := r.inboxes.modify number fun box =>
        { box with waiting := box.waiting.drop count } })

/-- The platform whose sessions a message for a user passes over: the one it was sent from, if the
user is its sender. -/
def passedOver (user : String) (e : Event) : Option Int32 :=
  if user = e.sender then e.senderPlatform else none

/-- What becomes of a message for a user that is offered to a session. -/
def offer (r : Registry) (user : String) (e : Event) (s : Session) : Offer :=
  if passedOver user e = some s.platform then .skipped
  else
    match r.inbox? s.number with
    | some ⟨waiting, true⟩ => if waiting.length < r.capacity then .taken else .full
    | _ => .gone

/-- The offers of a message to a user's sessions that end in a certain way. -/
def offers (r : Registry) (user : String) (e : Event) (o : Offer) : List Session :=
  (r.sessions user).filter fun s => r.offer user e s = o

/-- Offers a message to each session of a user: those that take it have it last in their inbox, and
those that are gone are off the list. -/
def deliver (r : Registry) (user : String) (e : Event) : Registry :=
  let takers := (r.offers user e .taken).map Session.number
  { r with
    users := r.users.modify user fun list => list.filter fun s => r.offer user e s ≠ .gone
    inboxes := r.inboxes.mapValues fun number box =>
      if number ∈ takers then { box with waiting := box.waiting ++ [e] } else box }

/-- What is said of a message after it was offered to a user's sessions. -/
def resultOf (r : Registry) (user : String) (e : Event) : Except ServiceError OnlineResult :=
  let taken := (r.offers user e .taken).length
  if 0 < taken then .ok (.delivered taken)
  else if 0 < (r.offers user e .full).length then
    .error (.serviceUnavailable ("session queues full for " ++ user))
  else .ok .noLiveSession

/-- Delivers a message to the live sessions of a user. -/
def pushOnline (r : Registry) (user : String) (e : Event) :
    Except ServiceError OnlineResult × Registry :=
  (r.resultOf user e, (r.deliver user e).tidy user)

variable (r : Registry) (user other : String) (number : Nat) (e : Event)

@[simp] theorem sessions_tidy : (r.tidy user).sessions other = r.sessions other := by
  by_cases h : other = user
  · subst h
    cases hs : r.users.get? other with
    | none => simp [sessions, tidy, Table.get?_alter, hs]
    | some list => cases list <;> simp [sessions, tidy, Table.get?_alter, hs, Option.filter]
  · simp [sessions, tidy, Table.get?_alter, h]

@[simp] theorem inbox?_tidy : (r.tidy user).inbox? number = r.inbox? number := rfl

@[simp] theorem sessions_connect (platform : Int32) :
    (r.connect user platform).2.sessions other =
      if other = user then r.sessions user ++ [⟨r.next, platform⟩] else r.sessions other := by
  by_cases h : other = user <;> simp [sessions, connect, Table.get?_insert, h]

@[simp] theorem sessions_unregister :
    (r.unregister user number).sessions other =
      if other = user then (r.sessions user).filter fun s => s.number ≠ number
      else r.sessions other := by
  rw [unregister, sessions_tidy]
  by_cases h : other = user
  · cases hs : r.users.get? user <;> simp [sessions, strike, Table.get?_modify, h, hs]
  · simp [sessions, strike, Table.get?_modify, h]

@[simp] theorem sessions_pushOnline :
    (r.pushOnline user e).2.sessions other =
      if other = user then (r.sessions user).filter fun s => r.offer user e s ≠ .gone
      else r.sessions other := by
  rw [pushOnline, sessions_tidy]
  by_cases h : other = user
  · cases hs : r.users.get? user <;> simp [sessions, deliver, Table.get?_modify, h, hs]
  · simp [sessions, deliver, Table.get?_modify, h]

@[simp] theorem inbox?_pushOnline :
    (r.pushOnline user e).2.inbox? number = (r.inbox? number).map fun box =>
      if number ∈ (r.offers user e .taken).map Session.number then
        { box with waiting := box.waiting ++ [e] }
      else box := by
  simp [pushOnline, deliver, inbox?, tidy]

end Registry

end Courier
