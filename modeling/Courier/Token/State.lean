import Courier.ServiceError

/-!
# States of a token

A token of a user on a platform is unknown to the store, usable, or kicked. Being kicked is never
undone by an issue; only the end of its time makes a token absent again.
-/

namespace Courier

/-- What a store knows about a token. -/
inductive TokenState where
  | normal
  | kicked
  | absent
  deriving DecidableEq, Repr, Inhabited

namespace TokenState

/-- The name of a state. -/
def name : TokenState → String
  | .normal => "NORMAL"
  | .kicked => "KICKED"
  | .absent => "ABSENT"

/-- The state with a name. -/
def ofName? : String → Option TokenState
  | "NORMAL" => some .normal
  | "KICKED" => some .kicked
  | "ABSENT" => some .absent
  | _ => none

/-- The number under which a state is kept. -/
def code? : TokenState → Option Int32
  | .normal => some 0
  | .kicked => some 2
  | .absent => none

/-- The state kept under a number. -/
def ofCode (n : Int32) : Except ServiceError TokenState :=
  if n = 0 then .ok .normal
  else if n = 2 then .ok .kicked
  else .error .tokenUnknown

/-- The state after the token is issued. -/
def onIssue : TokenState → TokenState
  | .absent | .normal => .normal
  | .kicked => .kicked

/-- The state after the token is kicked. -/
def onKick : TokenState → TokenState
  | .normal | .kicked => .kicked
  | .absent => .absent

/-- Whether the token lets its user in. -/
def check : TokenState → Except ServiceError Unit
  | .normal => .ok ()
  | .kicked => .error .tokenKicked
  | .absent => .error .tokenNotExist

/-- Reads a state by its name. -/
def read : Json.Reader TokenState :=
  Json.readVariant ofName? fun _ => none

theorem ofCode_code {s : TokenState} {n : Int32} (h : s.code? = some n) : ofCode n = .ok s := by
  cases s <;> simp [code?] at h <;> subst h <;> rfl

@[simp] theorem onKick_onIssue_kicked : (onIssue .kicked).onKick = .kicked := rfl

theorem onKick_ne_normal (s : TokenState) : s.onKick ≠ .normal := by
  cases s <;> simp [onKick]

end TokenState

end Courier
