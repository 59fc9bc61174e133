import Courier.Token.Issue

/-!
# The token gate

A call from outside shows a token. The gate lets in the client that the token names, if the token
is rightly signed, has not ended, and is known to the store as usable. The client is bound to the
call together with a text that tells calls apart.
-/

namespace Courier

/-- Who makes a call. -/
structure Identity where
  client : Client
  operation : String
  deriving DecidableEq, Repr, Inhabited

namespace Identity

/-- An identity as JSON. -/
def toJson (i : Identity) : Json :=
  .object [
    ("user_id", .text i.client.user),
    ("platform_id", .ofInt i.client.platform.toInt),
    ("platform_name", .text (Platform.nameOf i.client.platform)),
    ("operation_id", .text i.operation)]

/-- The identity that is bound to a call. Where none is bound, the call did not come through the
gate. -/
def ofBound : Option Identity → Except ServiceError Identity
  | some i => .ok i
  | none => .error (.internal "route is not behind the token gate")

end Identity

namespace Gate

/-- Why a call without a token is refused. -/
def missingToken : ServiceError :=
  .invalidArgument "header must have token"

/-- The client that a token lets in. -/
def letIn (settings : AuthSettings) (token : Option String) : Service Client :=
  match token with
  | none | some "" => throw missingToken
  | some token => do
    let claims ← Service.ofExcept (Token.verify settings.jwtSecret (← Service.now) token)
    let c : Client := ⟨claims.user, claims.platform⟩
    let state ← Service.lookupToken c token
    Service.ofExcept state.check
    return c

theorem letIn_of_ne_empty (settings : AuthSettings) {token : String} (h : token ≠ "") :
    letIn settings (some token) = (do
      let claims ← Service.ofExcept (Token.verify settings.jwtSecret (← Service.now) token)
      let c : Client := ⟨claims.user, claims.platform⟩
      let state ← Service.lookupToken c token
      Service.ofExcept state.check
      return c) := by
  unfold letIn
  split
  · contradiction
  · exact absurd (Option.some.inj ‹_›) h
  · cases Option.some.inj ‹_›
    rfl

end Gate

end Courier
