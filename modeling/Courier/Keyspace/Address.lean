import Courier.Settings.Basic
import Courier.ServiceError
import Courier.Text.Decimal
import Courier.Url.Parse

/-!
# The address of a keyspace

A keyspace is reached at an address of one of a few schemes, over the network or at a place of the
machine. Any other address is refused before anything is asked.
-/

namespace Courier.Keyspace

/-- Why a text is not the address of a keyspace. -/
inductive AddressFault where
  | malformed
  | noHost
  | badNumber
  deriving DecidableEq, Repr, Inhabited

/-- The sentence about a fault. -/
def AddressFault.message : AddressFault → String
  | .malformed => "Redis URL did not parse- InvalidClientConfig"
  | .noHost => "Missing hostname- InvalidClientConfig"
  | .badNumber => "Invalid database number- InvalidClientConfig"

/-- The schemes of addresses on the network. -/
def networkSchemes : List String :=
  ["redis", "rediss", "valkey", "valkeys"]

/-- The schemes of addresses on the same machine. -/
def localSchemes : List String :=
  ["redis+unix", "valkey+unix", "unix"]

/-- Whether a character may stand in the name of a host. -/
def inHost (c : Char) : Bool :=
  c.toNat ≠ 0 && c ∉ [' ', '<', '>', '@', '[', '\\', ']', '^', '|']

/-- The host in front of a port, if the port is a number that can be one. -/
def host? (authority : List Char) : Option (List Char) :=
  let place := ((Cut.last? '@' authority).map Prod.snd).getD authority
  let isBracketed := place.head? = some '['
  let host := if isBracketed then place.takeWhile (· ≠ ']') else place.takeWhile (· ≠ ':')
  let after := place.drop (host.length + if isBracketed then 1 else 0)
  let port := after.drop 1
  let isPort := after.isEmpty || (after.head? = some ':' &&
    (port.isEmpty || ((Decimal.digits? port).any fun n => n ≤ 65535)))
  if isPort && (isBracketed || host.all inHost) then some host else none

/-- Checks what follows the scheme of an address on the network. -/
def checkNetwork : List Char → Except AddressFault Unit
  | '/' :: '/' :: rest =>
    let isEnd (c : Char) : Bool := c ∈ ['/', '?', '#']
    match host? (rest.takeWhile (!isEnd ·)) with
    | none => .error .malformed
    | some [] => .error .noHost
    | some _ =>
      let path := (rest.dropWhile (!isEnd ·)).takeWhile fun c => c ∉ ['?', '#']
      let number := ((path.dropWhile (· = '/')).reverse.dropWhile (· = '/')).reverse
      if number.isEmpty ∨ (Decimal.time? (String.ofList number)).isSome then .ok ()
      else .error .badNumber
  | _ => .error .noHost

/-- Checks an address. -/
def checkAddress (address : String) : Except AddressFault Unit :=
  match Url.scheme? (Url.significant address) with
  | none => .error .malformed
  | some (scheme, rest) =>
    if scheme ∈ networkSchemes then checkNetwork rest
    else if scheme ∈ localSchemes then .ok ()
    else .error .malformed

/-- Refuses settings whose address is none of a keyspace. -/
def checkSettings (s : RedisSettings) : Except ServiceError Unit :=
  (checkAddress s.url).mapError fun fault =>
    .configuration ("Failed to create Redis manager: " ++ fault.message)

end Courier.Keyspace
