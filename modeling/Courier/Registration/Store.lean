import Courier.Client
import Courier.Json.Print
import Courier.Table

/-!
# Registrations for notifications

A client registers the token under which its vendor's push service knows its device. A user has at
most one registration a platform; the registrations of a user come in the order of their platforms.

As with sessions, taking a registration out and dropping a user's list once it is empty are two
steps.
-/

namespace Courier

/-- Where a client's notifications go. -/
structure Registration where
  user : String
  platform : Int32
  pushToken : String
  /-- In milliseconds since 1970. -/
  updatedAt : Int64
  deriving DecidableEq, Repr, Inhabited

namespace Registration

/-- A registration as JSON. -/
def toJson (r : Registration) : Json :=
  .object [
    ("user_id", .text r.user),
    ("platform_id", .ofInt r.platform.toInt),
    ("push_token", .text r.pushToken),
    ("updated_at", .ofInt r.updatedAt.toInt)]

/-- The fields of a registration. -/
def fields : List Json.Field := [
  .of "user_id" .required Json.readText,
  .of "platform_id" .required Json.readCode,
  .of "push_token" .required Json.readText,
  .of "updated_at" .required Json.readTime]

/-- Reads a registration. -/
def read : Json.Reader Registration := fun v => do
  let given ← Json.readFields fields v
  return {
    user := ← given.get "user_id" Json.readText
    platform := ← given.get "platform_id" Json.readCode
    pushToken := ← given.get "push_token" Json.readText
    updatedAt := ← given.get "updated_at" Json.readTime }

/-- Puts a registration at the place of its platform, instead of one that is there. -/
def place (r : Registration) : List Registration → List Registration
  | [] => [r]
  | x :: rest =>
    if r.platform < x.platform then r :: x :: rest
    else if r.platform = x.platform then r :: rest
    else x :: place r rest

end Registration

/-- The registrations of all users. -/
structure RegistrationStore where
  users : Table String (List Registration)

namespace RegistrationStore

instance : EmptyCollection RegistrationStore where
  emptyCollection := ⟨∅⟩

instance : Inhabited RegistrationStore where
  default := ∅

/-- The registrations of a user, in the order of their platforms. -/
def ofUser (s : RegistrationStore) (user : String) : List Registration :=
  (s.users.get? user).getD []

/-- Registers a client, instead of an earlier registration. -/
def register (s : RegistrationStore) (r : Registration) : RegistrationStore :=
  ⟨s.users.insert r.user (r.place (s.ofUser r.user))⟩

/-- Takes out the registration of a client. -/
def strike (s : RegistrationStore) (c : Client) : RegistrationStore :=
  ⟨s.users.modify c.user fun list => list.filter fun r => r.platform ≠ c.platform⟩

/-- Drops the list of a user if it is empty. -/
def tidy (s : RegistrationStore) (user : String) : RegistrationStore :=
  ⟨s.users.alter user (Option.filter fun list => !list.isEmpty)⟩

/-- Whether a client is registered. -/
def contains (s : RegistrationStore) (c : Client) : Bool :=
  (s.ofUser c.user).any fun r => r.platform = c.platform

/-- Takes out the registration of a client, and tells whether there was one. -/
def unregister (s : RegistrationStore) (c : Client) : Bool × RegistrationStore :=
  (s.contains c, (s.strike c).tidy c.user)

variable (s : RegistrationStore) (c : Client) (r : Registration) (user : String)

@[simp] theorem ofUser_empty : (∅ : RegistrationStore).ofUser user = [] := rfl

@[simp] theorem ofUser_tidy (other : String) : (s.tidy other).ofUser user = s.ofUser user := by
  by_cases h : user = other
  · subst h
    cases hs : s.users.get? user with
    | none => simp [ofUser, tidy, Table.get?_alter, hs]
    | some list => cases list <;> simp [ofUser, tidy, Table.get?_alter, hs, Option.filter]
  · simp [ofUser, tidy, Table.get?_alter, h]

@[simp] theorem ofUser_register :
    (s.register r).ofUser user =
      if user = r.user then r.place (s.ofUser user) else s.ofUser user := by
  by_cases h : user = r.user <;> simp [ofUser, register, Table.get?_insert, h]

@[simp] theorem ofUser_unregister :
    (s.unregister c).2.ofUser user =
      if user = c.user then (s.ofUser user).filter fun r => r.platform ≠ c.platform
      else s.ofUser user := by
  rw [unregister, ofUser_tidy]
  by_cases h : user = c.user
  · cases hs : s.users.get? c.user <;> simp [ofUser, strike, Table.get?_modify, h, hs]
  · simp [ofUser, strike, Table.get?_modify, h]

end RegistrationStore

end Courier
