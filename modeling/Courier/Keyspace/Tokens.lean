import Courier.Clock
import Courier.Keyspace.Command
import Courier.Keyspace.Keys
import Courier.Text.Decimal
import Courier.Token.State

/-!
# Tokens in a keyspace

Services that run beside each other keep their tokens in one keyspace: under the key of a client,
each token is a field whose value is the number of its state. The records of a client end together,
with their key. Every operation is a single command, so none sees another half done.
-/

namespace Courier.Keyspace.Tokens

/-- The state that a value stands for. -/
def stateOf (value : String) : Except ServiceError TokenState :=
  match Decimal.code? value with
  | none => .error .tokenUnknown
  | some n => TokenState.ofCode n

/-- The state of a client's token. -/
def lookup (c : Client) (token : String) : Shared TokenState := do
  match ← send (.field (tokenKey c) token) with
  | none => return .absent
  | some value => ExceptT.mk (.done (stateOf value))

/-- Issues a token to a client until a second, at least for one second from now, and counts the
tokens that are kicked for it. -/
def issue (now : Int) (c : Client) (token : String) (expires : Int) : Shared Nat := do
  let span := max (Clock.word (expires - now)) 1
  return Int.toNat (← send (.run (.issue (tokenKey c) token span)))

/-- Kicks a client's token. Where the client's records have no end yet, they get one after the span
of a tombstone. -/
def kick (tombstone : UInt64) (c : Client) (token : String) : Shared TokenState := do
  let n ← send (.run (.kick (tokenKey c) token (max tombstone.toNat 1)))
  ExceptT.mk (.done (TokenState.ofCode (Int32.ofInt n)))

/-- Kicks the usable tokens of a client and counts them. -/
def kickAll (c : Client) : Shared Nat := do
  return Int.toNat (← send (.run (.kickAll (tokenKey c))))

/-- The states that fields stand for. A field that stands for none is left out. -/
def statesOf (t : Table String String) : Table String TokenState :=
  (t.filter fun _ value => (stateOf value).isOk).mapValues fun _ value =>
    (stateOf value).toOption.getD .absent

/-- The states of a client's tokens. -/
def tokens (c : Client) : Shared (Table String TokenState) := do
  return statesOf (← send (.allFields (tokenKey c)))

/-- Takes out the records that have ended. The keyspace does so by itself. -/
def purge : Shared Nat :=
  pure 0

theorem stateOf_usable : stateOf usable = .ok .normal := by
  have h : Decimal.code? usable = some 0 := by decide +kernel
  simp [stateOf, h, TokenState.ofCode]

theorem stateOf_kicked : stateOf kicked = .ok .kicked := by
  have h : Decimal.code? kicked = some 2 := by decide +kernel
  simp [stateOf, h, TokenState.ofCode]

theorem get?_statesOf (t : Table String String) (token : String) :
    (statesOf t).get? token = (t.get? token).bind fun value => (stateOf value).toOption := by
  cases h : t.get? token with
  | none => simp [statesOf, h]
  | some value =>
    cases hs : stateOf value <;>
      simp [statesOf, h, hs, Except.isOk, Except.toBool, Except.toOption, Option.filter]

end Courier.Keyspace.Tokens
