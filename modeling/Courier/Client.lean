import Courier.Platform
import Courier.ServiceError

/-!
# Clients

A client is a user on a platform. Tokens are issued to clients, and a client is what a token lets
in. The number of its platform need not be one that is known.
-/

namespace Courier

/-- A user on a platform. -/
structure Client where
  user : String
  platform : Int32
  deriving DecidableEq, Repr, Inhabited

/-- Why a request names no known platform. -/
def unknownPlatform (n : Int32) : ServiceError :=
  .invalidArgument ("unknown platform_id " ++ toString n.toInt)

/-- Refuses a platform that is not known. -/
def checkPlatform (n : Int32) : Except ServiceError Unit :=
  if (Platform.ofId? n).isSome then .ok () else .error (unknownPlatform n)

/-- Refuses a user without a name. -/
def checkUser (user : String) : Except ServiceError Unit :=
  if user = "" then .error (.invalidArgument "user_id is empty") else .ok ()

end Courier
