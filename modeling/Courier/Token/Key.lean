import Courier.Json.Record

/-!
# Keys in token headers

A token's header may carry a public key. The service has no use for it, but a header whose key is
no key is no header.
-/

namespace Courier.TokenKey

/-- The members of an object without the commas between them: each name with its value. -/
abbrev Members := List (String × Json)

/-- The values of a name. -/
def values (ms : Members) (name : String) : List Json :=
  ms.filterMap fun m => if m.1 = name then some m.2 else none

/-- Whether a reader takes a value. -/
def takes {α : Type} (read : Json.Reader α) (v : Json) : Bool :=
  (read v).isOk

/-- Whether a parameter is left out, null, or given once and taken by a reader. -/
def optional {α : Type} (ms : Members) (name : String) (read : Json.Reader α) : Bool :=
  match values ms name with
  | [] => true
  | [v] => takes (Json.readOptional read) v
  | _ => false

/-- Whether a parameter is given once and taken by a reader. -/
def required {α : Type} (ms : Members) (name : String) (read : Json.Reader α) : Bool :=
  match values ms name with
  | [v] => takes read v
  | _ => false

/-- Reads one of some names. -/
def oneOf (names : List String) : Json.Reader String :=
  Json.readVariant (fun s => if s ∈ names then some s else none) fun _ => none

/-- The names of the algorithms a key may be made for. -/
def algorithms : List String := [
  "HS256", "HS384", "HS512", "ES256", "ES384", "RS256", "RS384", "RS512", "PS256", "PS384",
  "PS512", "EdDSA", "RSA1_5", "RSA-OAEP", "RSA-OAEP-256"]

/-- The names of the curves. -/
def curves : List String := ["P-256", "P-384", "P-521", "Ed25519"]

/-- Whether the parameters common to all keys are well formed. -/
def hasCommon (ms : Members) : Bool :=
  optional ms "use" Json.readText && optional ms "key_ops" (Json.readList Json.readText) &&
    optional ms "alg" (oneOf algorithms) && optional ms "kid" Json.readText &&
    optional ms "x5u" Json.readText && optional ms "x5c" (Json.readList Json.readText) &&
    optional ms "x5t" Json.readText && optional ms "x5t#S256" Json.readText

/-- Whether the parameters are those of one kind of key. -/
def hasAlgorithm (ms : Members) : Bool :=
  (required ms "kty" (oneOf ["EC"]) && required ms "crv" (oneOf curves) &&
    required ms "x" Json.readText && required ms "y" Json.readText) ||
  (required ms "kty" (oneOf ["RSA"]) && required ms "n" Json.readText &&
    required ms "e" Json.readText) ||
  (required ms "kty" (oneOf ["oct"]) && required ms "k" Json.readText) ||
  (required ms "kty" (oneOf ["OKP"]) && required ms "crv" (oneOf curves) &&
    required ms "x" Json.readText)

/-- Reads a key, of which nothing is kept. -/
def read : Json.Reader Unit
  | .obj members ending => do
    if !(Json.obj members ending).isReadable 126 then throw .malformed
    let ms := members.filterMap fun m =>
      match m.1 with
      | .quoted (.text name) => some (name, m.2)
      | _ => none
    if hasCommon ms && hasAlgorithm ms then return () else throw .shape
  | v => .error (Json.mismatch v)

end Courier.TokenKey
