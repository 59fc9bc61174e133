import Courier.Json.Record
import Courier.Json.Print

/-!
# Claims of a session token

The part of a token that names its user and platform and bounds its life. The reader of claims
takes what the service needs; a second look at the same text finds the registered claims that every
reader of tokens knows, and refuses some of their forms.
-/

namespace Courier

/-- What a session token says. Times are in seconds since 1970. -/
structure Claims where
  user : String
  platform : Int32
  expires : Int64
  issued : Int64
  /-- Tells apart tokens that are issued within one second. -/
  unique : String
  deriving DecidableEq, Repr, Inhabited

namespace Claims

/-- Claims as JSON. -/
def toJson (c : Claims) : Json :=
  .object [
    ("user_id", .text c.user),
    ("platform_id", .ofInt c.platform.toInt),
    ("exp", .ofInt c.expires.toInt),
    ("iat", .ofInt c.issued.toInt),
    ("jti", .text c.unique)]

/-- The fields of claims. -/
def fields : List Json.Field := [
  .of "user_id" .required Json.readText,
  .of "platform_id" .required Json.readCode,
  .of "exp" .required Json.readTime,
  .of "iat" .required Json.readTime,
  .of "jti" .required Json.readText]

/-- Reads claims. -/
def read : Json.Reader Claims := fun v => do
  let given ← Json.readFields fields v
  return {
    user := ← given.get "user_id" Json.readText
    platform := ← given.get "platform_id" Json.readCode
    expires := ← given.get "exp" Json.readTime
    issued := ← given.get "iat" Json.readTime
    unique := ← given.get "jti" Json.readText }

end Claims

/-- A claim with a registered meaning that the second look knows. -/
inductive RegisteredClaim where
  | expires
  | notBefore
  | subject
  | issuer
  | audience
  deriving DecidableEq, Repr

namespace RegisteredClaim

/-- The registered claim with a name. -/
def ofName? : String → Option RegisteredClaim
  | "exp" => some .expires
  | "nbf" => some .notBefore
  | "sub" => some .subject
  | "iss" => some .issuer
  | "aud" => some .audience
  | _ => none

/-- Where a reader stands after a value that it may not be able to take. -/
inductive Landing where
  /-- It has taken the value. -/
  | taken
  /-- It has not, but stands behind the value, and can go on. -/
  | behind
  /-- It stands within the value, and cannot go on. -/
  | within
  deriving DecidableEq, Repr

/-- Where a reader stands after a quoted row that is no text. It is behind the row unless it has met
half of an escaped pair before; the first half of a pair makes it pass over one more character, so
that it is behind the row if that was the closing quote. -/
def landingInRow : List UInt8 → Landing
  | a :: b :: c :: rest =>
    if a = 0xED ∧ 0xA0 ≤ b ∧ b ≤ 0xBF then
      if b < 0xB0 ∧ rest.isEmpty then .behind else .within
    else landingInRow (b :: c :: rest)
  | _ => .behind

/-- Where a reader stands after several values and the bracket behind them. After one that it cannot
take it looks for the bracket at once. -/
def landingInAll : List Landing → Landing
  | [] => .taken
  | [landing] => landing
  | .taken :: rest => landingInAll rest
  | _ => .within

/-- Where a reader of any value stands that follows so many nested containers. -/
def landing (depth : Nat) : Json → Landing
  | .str (.bytes content _) => landingInRow content
  | .num n => if n.isFinite then .taken else .behind
  | .broken => .within
  | .arr items _ =>
    match depth with
    | 0 => .within
    | depth + 1 => landingInAll (items.map (landing depth))
  | .obj members _ =>
    match depth with
    | 0 => .within
    | depth + 1 =>
      if members.all fun m => (m.1 matches .quoted (.text _)) then
        landingInAll (members.map fun m => landing depth m.2)
      else .within
  | _ => .taken

/-- Whether the look can go on after a claim of this value. A subject must not be a container, and
a time must not be one that holds something. -/
def isPassable : RegisteredClaim → Json → Bool
  | .subject, .arr .. | .subject, .obj .. => false
  | .expires, .arr items _ | .notBefore, .arr items _ => items.isEmpty
  | .expires, .obj members _ | .notBefore, .obj members _ => members.isEmpty
  | _, v => landing 126 v ≠ .within

end RegisteredClaim

/-- Whether an audience can be read: a text, or an array of texts. -/
def isAudience : Json → Bool
  | .str (.text _) => true
  | .arr items _ => items.all fun v => (v matches .str (.text _))
  | _ => false

/-- The registered claims among the members of claims, in order. -/
def registeredClaims : List (Json.Key × Json) → List (RegisteredClaim × Json)
  | [] => []
  | (.quoted (.text name), v) :: rest =>
    match RegisteredClaim.ofName? name with
    | some r => (r, v) :: registeredClaims rest
    | none => registeredClaims rest
  | _ :: rest => registeredClaims rest

/-- Whether the registered claims of a value can be read: none is repeated, and the look can go on
after each. Claims that are no object cannot. -/
def hasSoundClaims : Json → Bool
  | .obj members _ =>
    let found := registeredClaims members
    decide (found.map Prod.fst).Nodup && found.all fun r => r.1.isPassable r.2
  | _ => false

/-- Whether a value names the audience it is meant for. -/
def namesAudience : Json → Bool
  | .obj members _ => (registeredClaims members).any fun r => r.1 = .audience && isAudience r.2
  | _ => false

end Courier
