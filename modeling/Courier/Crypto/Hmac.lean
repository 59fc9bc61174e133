import Courier.Crypto.Sha256

/-!
# Keyed digests

The digest of a message under a key is taken twice, each time behind a block made of the key. A key
longer than a block counts by its own digest.
-/

namespace Courier.Hmac

/-- A key filled up to a block. -/
def blockKey (key : List UInt8) : List UInt8 :=
  let short := if key.length > 64 then Sha256.digest key else key
  short ++ List.replicate (64 - short.length) 0

/-- The digest of a message under a key. -/
def sha256 (key message : List UInt8) : List UInt8 :=
  let k := blockKey key
  Sha256.digest (k.map (· ^^^ 0x5c) ++ Sha256.digest (k.map (· ^^^ 0x36) ++ message))

theorem length_sha256 (key message : List UInt8) : (sha256 key message).length = 32 :=
  Sha256.length_digest _

end Courier.Hmac
