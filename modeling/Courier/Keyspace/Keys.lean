import Courier.Client

/-!
# Keys

The keys under which the tokens and the registration of a client stand in a shared keyspace. The
platform stands where no user's name can be mistaken for it: behind the last colon of the one key,
and before the first colon after the mark of the other.
-/

namespace Courier.Keyspace

/-- The key of a client's tokens. -/
def tokenKey (c : Client) : String :=
  "UID_PID_TOKEN_STATUS:" ++ c.user ++ ":" ++ toString c.platform.toInt

/-- The key of a client's registration. -/
def registrationKey (c : Client) : String :=
  "PUSH_TOKEN:" ++ toString c.platform.toInt ++ ":" ++ c.user

end Courier.Keyspace
