import Courier.Service.Question
import Courier.Settings.Basic
import Courier.Token.Signed
import Courier.Clock

/-!
# Issuing tokens

A user asks for a token for a platform, and gets one that ends after a fixed time; the tokens that
the client had are kicked. The tokens of a client can be kicked by its user and by administrators.
-/

namespace Courier.Token

/-- A token that was issued. -/
structure Issued where
  token : String
  claims : Claims
  deriving Repr, Inhabited

/-- The seconds for which an issued token is good. -/
def Issued.span (i : Issued) : Int64 :=
  i.claims.expires - i.claims.issued

/-- The claims of a token for a client that is issued at a time. -/
def claimsFor (settings : AuthSettings) (c : Client) (now : Int) (unique : String) : Claims where
  user := c.user
  platform := c.platform
  expires := Int64.ofInt (Clock.after now settings.tokenTtlSecs)
  issued := Int64.ofInt now
  unique := unique

/-- Issues a token to a client. -/
def issue (settings : AuthSettings) (c : Client) : Service Issued := do
  Service.ofExcept (checkUser c.user)
  Service.ofExcept (checkPlatform c.platform)
  let claims := claimsFor settings c (← Service.now) (← Service.freshId)
  let token := sign settings.jwtSecret claims
  let _ ← Service.issueToken c token claims.expires.toInt
  return ⟨token, claims⟩

/-- What is known about a token. -/
structure Parsed where
  client : Client
  /-- The seconds that are left. -/
  remaining : Int
  state : TokenState
  deriving Repr, Inhabited

/-- Tells what is known about a token that is rightly signed and has not ended. -/
def parse (settings : AuthSettings) (token : String) : Service Parsed := do
  let claims ← Service.ofExcept (verify settings.jwtSecret (← Service.now) token)
  let c : Client := ⟨claims.user, claims.platform⟩
  let state ← Service.lookupToken c token
  return ⟨c, max (claims.expires.toInt - (← Service.now)) 0, state⟩

/-- Kicks the tokens of a client for a user: the client's own, or an administrator. -/
def forceLogout (settings : AuthSettings) (operator : String) (c : Client) : Service Nat :=
  if operator ≠ c.user ∧ !settings.isAdmin operator then
    throw (.noPermission (operator ++ " cannot force logout " ++ c.user))
  else Service.kickTokens c

end Courier.Token
