import Courier.Crypto.Der
import Courier.Crypto.P256
import Courier.Crypto.Pem

/-!
# Keys that sign

A key file is taken as the key of an elliptic curve if it holds a private key and the first
algorithm that it names is that of elliptic curves. Whether the key belongs to the one curve that is
used, and is whole, is seen only when it is to sign.
-/

namespace Courier

/-- The key of a file, as it stands there. -/
structure SigningKey where
  bytes : List UInt8
  deriving DecidableEq, Repr, Inhabited

namespace SigningKey

/-- An algorithm that keys are for. -/
inductive Algorithm where
  | ellipticCurve
  | rsa
  | edwards
  deriving DecidableEq, Repr

/-- The algorithm with an identifier. -/
def Algorithm.ofId? : List Nat → Option Algorithm
  | [1, 2, 840, 10045, 2, 1] => some .ellipticCurve
  | [1, 2, 840, 113549, 1, 1, 1] => some .rsa
  | [1, 3, 101, 112] => some .edwards
  | _ => none

/-- The key in the text of a key file. -/
def ofPem? (text : String) : Option SigningKey := do
  let (kind, bytes) ← Pem.parse? text
  guard (kind = "PRIVATE KEY")
  let algorithm ← (← Der.identifiers? bytes).findSome? Algorithm.ofId?
  guard (algorithm = .ellipticCurve)
  return ⟨bytes⟩

/-- The written identifier of the curve. -/
def curve : List UInt8 :=
  [0x06, 0x08, 0x2A, 0x86, 0x48, 0xCE, 0x3D, 0x03, 0x01, 0x07]

/-- The written algorithm of keys of the curve. -/
def algorithm : List UInt8 :=
  [0x06, 0x07, 0x2A, 0x86, 0x48, 0xCE, 0x3D, 0x02, 0x01] ++ curve

/-- The secret and the public half of a key. -/
def halves? (key : SigningKey) : Option (List UInt8 × List UInt8) := do
  let whole ← Der.only? 0x30 key.bytes
  let (version, rest) ← Der.expect? 0x02 whole
  let (named, rest) ← Der.expect? 0x30 rest
  let (inner, rest) ← Der.expect? 0x04 rest
  guard (version = [0] ∧ named = algorithm ∧ (← Der.skip? 0xA0 rest).isEmpty)
  let pair ← Der.only? 0x30 inner
  let (version, rest) ← Der.expect? 0x02 pair
  let (secret, rest) ← Der.expect? 0x04 rest
  guard (version = [1])
  let rest ←
    match Der.expect? 0xA0 rest with
    | some (named, rest) => if named = curve then some rest else none
    | none => some rest
  match ← Der.only? 0x03 (← Der.only? 0xA1 rest) with
  | 0 :: point => some (secret, point)
  | _ => none

/-- Whether a key can sign: it belongs to the curve, and its two halves to each other. -/
def canSign (key : SigningKey) : Bool :=
  match key.halves? with
  | none => false
  | some (secret, point) =>
    let n := Der.natOf secret
    secret.length = 32 && 0 < n && n < P256.order && point = P256.encode (P256.times n P256.base)

end SigningKey

end Courier
