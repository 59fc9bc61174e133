import Courier.Dialogue
import Courier.Message.Report
import Courier.Message.Event
import Courier.Registration.Store
import Courier.Token.State

/-!
# What the service asks

The service is written as dialogues: it asks for the time, for what its stores hold and for the
deliveries that others carry out, and leaves open who answers. The same dialogues run over a plain
state, in a simulated world with a clock, and behind a network.
-/

namespace Courier

/-- What the service asks the world around it. -/
inductive Question where
  /-- The time in seconds since 1970. -/
  | now
  /-- The time in milliseconds since 1970. -/
  | nowMs
  /-- A text that is like no other. -/
  | freshId
  /-- The state of a client's token. -/
  | lookupToken (c : Client) (token : String)
  /-- To record a token that is issued; answered by the number of tokens kicked for it. -/
  | issueToken (c : Client) (token : String) (expires : Int)
  /-- To kick all tokens of a client; answered by their number. -/
  | kickTokens (c : Client)
  /-- To keep a registration. -/
  | register (r : Registration)
  /-- To drop a registration; answered by whether there was one. -/
  | unregister (c : Client)
  /-- To drop what is known about a group's members. -/
  | invalidate (group : String)
  /-- To put a message on the event stream. -/
  | publish (payload : List UInt8)
  /-- To settle a delivery from the event stream. -/
  | ack (delivery : Nat)
  /-- To have a delivery from the event stream made again. -/
  | nack (delivery : Nat)
  /-- The members of a group. -/
  | members (group : String)
  /-- To deliver an event to users. -/
  | deliver (recipients : List String) (e : Event)

/-- What a question is answered by. -/
def Answer : Question → Type
  | .now => Int
  | .nowMs => Int
  | .freshId => String
  | .lookupToken .. => Except ServiceError TokenState
  | .issueToken .. => Except ServiceError Nat
  | .kickTokens _ => Except ServiceError Nat
  | .register _ => Except ServiceError Unit
  | .unregister _ => Except ServiceError Bool
  | .invalidate _ => Except ServiceError Unit
  | .publish _ => Except ServiceError Unit
  | .ack _ => Except ServiceError Unit
  | .nack _ => Except ServiceError Unit
  | .members _ => Except ServiceError (List String)
  | .deliver .. => Report

/-- A computation of the service, which may fail. -/
abbrev Service (α : Type) := ExceptT ServiceError (Dialogue Answer) α

namespace Service

/-- A computation that asks nothing. -/
def ofExcept {α : Type} (result : Except ServiceError α) : Service α :=
  ExceptT.mk (.done result)

/-- The time in seconds. -/
def now : Service Int :=
  ExceptT.lift (.ask .now .done)

/-- The time in milliseconds. -/
def nowMs : Service Int :=
  ExceptT.lift (.ask .nowMs .done)

/-- A text that is like no other. -/
def freshId : Service String :=
  ExceptT.lift (.ask .freshId .done)

/-- The state of a client's token. -/
def lookupToken (c : Client) (token : String) : Service TokenState :=
  ExceptT.mk (.ask (.lookupToken c token) .done)

/-- Records a token that is issued. -/
def issueToken (c : Client) (token : String) (expires : Int) : Service Nat :=
  ExceptT.mk (.ask (.issueToken c token expires) .done)

/-- Kicks all tokens of a client. -/
def kickTokens (c : Client) : Service Nat :=
  ExceptT.mk (.ask (.kickTokens c) .done)

/-- Keeps a registration. -/
def register (r : Registration) : Service Unit :=
  ExceptT.mk (.ask (.register r) .done)

/-- Drops a registration. -/
def unregister (c : Client) : Service Bool :=
  ExceptT.mk (.ask (.unregister c) .done)

/-- Drops what is known about a group's members. -/
def invalidate (group : String) : Service Unit :=
  ExceptT.mk (.ask (.invalidate group) .done)

/-- Puts a message on the event stream. -/
def publish (payload : List UInt8) : Service Unit :=
  ExceptT.mk (.ask (.publish payload) .done)

/-- Settles a delivery. -/
def ack (delivery : Nat) : Service Unit :=
  ExceptT.mk (.ask (.ack delivery) .done)

/-- Has a delivery made again. -/
def nack (delivery : Nat) : Service Unit :=
  ExceptT.mk (.ask (.nack delivery) .done)

/-- The members of a group. -/
def members (group : String) : Service (List String) :=
  ExceptT.mk (.ask (.members group) .done)

/-- Delivers an event to users. -/
def deliver (recipients : List String) (e : Event) : Service Report :=
  ExceptT.lift (.ask (.deliver recipients e) .done)

end Service

end Courier
