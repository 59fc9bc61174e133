import Courier.Group.Cache
import Courier.Http.Outgoing
import Courier.Json.Record

/-!
# The source of group members

The members of a group are asked for at another service. Its reply counts only if it reports
success twice, by its status and by the code in its body.
-/

namespace Courier.Group.Source

/-- What the other service says about a group. All of it may be left out. -/
structure Listing where
  code : Int32
  message : String
  users : List String
  deriving DecidableEq, Repr, Inhabited

/-- The fields of a listing. -/
def fields : List Json.Field := [
  .of "code" .defaulted Json.readCode,
  .of "message" .defaulted Json.readText,
  .of "user_ids" .defaulted (Json.readList Json.readText)]

/-- Reads a listing. -/
def Listing.read : Json.Reader Listing := fun v => do
  let given ← Json.readFields fields v
  return {
    code := ← given.getD "code" Json.readCode 0
    message := ← given.getD "message" Json.readText ""
    users := ← given.getD "user_ids" (Json.readList Json.readText) [] }

/-- The members in a listing. -/
def Listing.members (l : Listing) : Members :=
  if l.code = 0 then .ok l.users
  else .error (.network ("membership rpc error code=" ++ toString l.code.toInt ++ " message=" ++
    l.message))

/-- The call that asks for the members of a group. -/
def request (service group : String) : Http.Outgoing where
  address := Http.withoutSlashes service ++ "/group/get_group_member_user_ids"
  headers := []
  body := .object [("group_id", .text group)]

/-- The members of a group, by what came of the call. -/
def conclude (group : String) : Except Http.CallFault Http.Reply → Members
  | .error fault => .error (.network fault.message)
  | .ok reply =>
    if reply.isSuccess then
      match (Json.Document.ofBytes reply.content).read Listing.read with
      | .ok listing => listing.members
      | .error _ => .error (.network Http.CallFault.unreadable.message)
    else
      .error (.network ("membership rpc returned " ++ Http.Status.text reply.status ++
        " for group " ++ group))

/-- Without a success of the call there are no members. -/
theorem conclude_ne_ok {group : String} {result : Except Http.CallFault Http.Reply}
    (h : ∀ reply, result = .ok reply → reply.isSuccess = false) (members : List String) :
    conclude group result ≠ .ok members := by
  cases result with
  | error fault => simp [conclude]
  | ok reply => simp [conclude, h reply rfl]

end Courier.Group.Source
