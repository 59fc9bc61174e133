import Courier.Crypto.Hmac
import Courier.ServiceError
import Courier.Text.Base64
import Courier.Text.Cut
import Courier.Token.Claims
import Courier.Token.Key

/-!
# Signed tokens

A token is three texts with points between them: a header, the claims, and the keyed digest of the
first two. Verifying cuts at the last two points, wants the one supported algorithm, compares the
signature as text, and only then looks at the claims: a token past its time is told from one that is
no token, and a token made for an audience is not taken.
-/

namespace Courier.Token

/-- The bytes of a header's or a claims' text as it stands in a token. -/
def part (bytes : List UInt8) : List Char :=
  Base64.encode Base64.urlSafe bytes

/-- The header of the tokens that are signed here. -/
def header : Json :=
  .object [("typ", .text "JWT"), ("alg", .text "HS256")]

/-- The signature of a token's first two parts. -/
def signature (secret : String) (message : List Char) : List Char :=
  part (Hmac.sha256 (utf8 secret) (Utf8.encode message))

/-- Signs claims. -/
def sign (secret : String) (claims : Claims) : String :=
  let message := part header.bytes ++ '.' :: part claims.toJson.bytes
  String.ofList (message ++ '.' :: signature secret message)

/-- The algorithms a header may name. -/
inductive Algorithm where
  | hs256
  | other
  deriving DecidableEq, Repr

/-- The algorithm with a name. -/
def Algorithm.ofName? (name : String) : Option Algorithm :=
  if name = "HS256" then some .hs256
  else if name ∈ ["HS384", "HS512", "ES256", "ES384", "RS256", "RS384", "RS512", "PS256", "PS384",
    "PS512", "EdDSA"] then some .other
  else none

/-- Reads the name of an algorithm. -/
def Algorithm.read : Json.Reader Algorithm :=
  Json.readVariant ofName? fun _ => none

/-- The fields of a header. -/
def headerFields : List Json.Field := [
  .of "typ" .nullable (Json.readOptional Json.readText),
  .of "alg" .required Algorithm.read,
  .of "cty" .nullable (Json.readOptional Json.readText),
  .of "jku" .nullable (Json.readOptional Json.readText),
  .of "jwk" .nullable (Json.readOptional TokenKey.read),
  .of "kid" .nullable (Json.readOptional Json.readText),
  .of "x5u" .nullable (Json.readOptional Json.readText),
  .of "x5c" .nullable (Json.readOptional (Json.readList Json.readText)),
  .of "x5t" .nullable (Json.readOptional Json.readText),
  .of "x5t#S256" .nullable (Json.readOptional Json.readText)]

/-- Reads a header, of which only the algorithm is kept. -/
def readHeader : Json.Reader Algorithm := fun v => do
  let given ← Json.readFields headerFields v
  given.get "alg" Algorithm.read

/-- The JSON text that a part of a token writes. -/
def document? (cs : List Char) : Option Json.Document :=
  (Base64.decode? Base64.urlSafe cs).map Json.Document.ofBytes

/-- The algorithm that a header names. -/
def algorithm? (cs : List Char) : Option Algorithm := do
  let d ← document? cs
  (d.read readHeader).toOption

/-- The three parts of a token, and the first two with the point between them. -/
def parts? (token : List Char) : Option (List Char × List Char × List Char × List Char) := do
  let (message, signature) ← Cut.last? '.' token
  let (header, payload) ← Cut.last? '.' message
  return (header, payload, message, signature)

/-- The claims of a token at a time in seconds. A token that is readable and rightly signed but
past its time does not exist any more; all other faults make it unknown. -/
def verify (secret : String) (now : Int) (token : String) : Except ServiceError Claims :=
  match parts? token.toList with
  | none => .error .tokenUnknown
  | some (header, payload, message, given) =>
    if algorithm? header ≠ some .hs256 then .error .tokenUnknown
    else if given ≠ signature secret message then .error .tokenUnknown
    else
      match document? payload with
      | none => .error .tokenUnknown
      | some d =>
        match d.read Claims.read with
        | .error _ => .error .tokenUnknown
        | .ok claims =>
          if !hasSoundClaims d.root ∨ claims.expires < 0 then .error .tokenUnknown
          else if claims.expires.toInt < now then .error .tokenNotExist
          else if namesAudience d.root then .error .tokenUnknown
          else .ok claims

end Courier.Token
