import Courier.Proofs.Json.Record
import Courier.Proofs.Keyspace.Footprint
import Courier.Proofs.Registration.Ordered

/-!
# Registrations under their keys

A registration stands under the key of its client as a text that is read back as the same
registration. So a keyspace keeps of each client the registration that was put there last, and the
registrations of a user are read in the order of the platforms.
-/

namespace Courier

theorem Registration.read_toJson (r : Registration) : Registration.read r.toJson = .ok r := by
  have ht : ∀ s, Json.readText (.text s) = .ok s := fun s => rfl
  have hp := Json.readCode_ofInt r.platform
  have hu := Json.readTime_ofInt r.updatedAt
  simp [read, toJson, Json.object, Json.readFields, Json.readMembers, fields, Json.Field.of, ht, hp,
    hu, List.find?, List.lookup_cons, Json.Given.get, Json.Given.get?, bind, Except.bind,
    Functor.map, Except.map, pure, Except.pure]

theorem Registration.whole_toJson (r : Registration) : Json.Whole r.toJson := by
  apply Json.Whole.object
  simp [Json.Whole.text]

namespace Keyspace

/-- The text that stands under a key at a time. -/
def textAt (k : Keyspace) (now : Int) (key : String) : Option String :=
  match k.live? now key with
  | some ⟨.text s, _⟩ => some s
  | some ⟨.fields _, _⟩ | none => none

theorem on_text? (k : Keyspace) (now : Int) (key : String) :
    (text? now key).on k = (.ok (k.textAt now key), k) := by
  rw [text?, on_bind, on_find, textAt]
  rcases k.live? now key with _ | ⟨_ | _, _⟩ <;> rfl

theorem on_texts (k : Keyspace) (now : Int) (keys : List String) :
    (keys.mapM (text? now)).on k = (.ok (keys.map (k.textAt now)), k) := by
  induction keys with
  | nil => rfl
  | cons key keys ih => simp [List.mapM_cons, on_bind, on_text?, ih, -bind_pure_comp]

namespace Registrations

variable {k : Keyspace} {now : Int} {c : Client} {r : Registration} {user : String}
  {found : Client → Option Registration}

theorem ofText?_print (r : Registration) : ofText? r.toJson.print = some r := by
  rw [ofText?, Json.ofText_print r.whole_toJson, Json.Document.read, r.read_toJson]
  rfl

/-! ### The operations in closed form -/

/-- What stands under the key of a client that is registered. -/
def entryOf (r : Registration) : Entry :=
  ⟨.text r.toJson.print, none⟩

theorem register_on (r : Registration) (now : Int) (k : Keyspace) :
    (register r).on now k = (.ok (), k.put (registrationKey r.client) (entryOf r)) := rfl

theorem unregister_on (c : Client) (now : Int) (k : Keyspace) :
    (unregister c).on now k =
      (.ok (k.live? now (registrationKey c)).isSome, k.erase (registrationKey c)) := by
  have hd : (send (.delete (registrationKey c))).on now k =
      (.ok (if (k.live? now (registrationKey c)).isSome then 1 else 0 : Nat),
        k.erase (registrationKey c)) := rfl
  refine (Shared.on_bind (send (.delete (registrationKey c)))
    (fun count : Nat => pure (decide (0 < count))) k).trans ?_
  rw [hd]
  cases (k.live? now (registrationKey c)).isSome <;> rfl

theorem ofUser_on (user : String) (now : Int) (k : Keyspace) :
    (ofUser user).on now k =
      (.ok ((registrationKeys user).filterMap fun key => (k.textAt now key).bind ofText?), k) := by
  have ht : (texts (registrationKeys user)).on now k =
      (.ok ((registrationKeys user).map (k.textAt now)), k) :=
    congrArg (fun r : Except Refusal (List (Option String)) × Keyspace =>
      (r.1.mapError Refusal.error, r.2)) (on_texts k now (registrationKeys user))
  rw [ofUser, Shared.on_bind, ← registrationKeys, ht]
  dsimp only
  rw [List.filterMap_map]
  rfl

/-! ### What is kept -/

/-- Whether under the keys of registrations stands what was found for their clients, and nothing
else. -/
def Holds (found : Client → Option Registration) (k : Keyspace) : Prop :=
  ∀ c, k.entries.get? (registrationKey c) = (found c).map entryOf

namespace Holds

theorem register (h : Holds found k) (r : Registration) :
    Holds (Function.update found r.client (some r))
      (k.put (registrationKey r.client) (entryOf r)) := by
  intro c
  rw [get?_entries_put]
  by_cases hc : c = r.client
  · subst hc
    rw [if_pos rfl, Function.update_self]
    rfl
  · rw [if_neg fun hk => hc (registrationKey_injective hk), Function.update_of_ne hc, h c]

theorem unregister (h : Holds found k) (c : Client) :
    Holds (Function.update found c none) (k.erase (registrationKey c)) := by
  intro d
  rw [get?_entries_erase]
  by_cases hd : d = c
  · subst hd
    rw [if_pos rfl, Function.update_self]
    rfl
  · rw [if_neg fun hk => hd (registrationKey_injective hk), Function.update_of_ne hd, h d]

/-- A registration has no end. -/
theorem live? (h : Holds found k) (now : Int) (c : Client) :
    k.live? now (registrationKey c) = (found c).map entryOf := by
  rw [Keyspace.live?, h c]
  cases found c <;> rfl

/-- A registration is read as it was written. -/
theorem ofText?_textAt (h : Holds found k) (now : Int) (c : Client) :
    (k.textAt now (registrationKey c)).bind ofText? = found c := by
  rw [textAt, h.live? now c]
  cases found c with
  | none => rfl
  | some r => exact ofText?_print r

/-- The registrations of a user are read in the order of the platforms. -/
theorem ofUser_on (h : Holds found k) (user : String) (now : Int) :
    (ofUser user).on now k = (.ok (Platform.all.filterMap fun p => found ⟨user, p.id⟩), k) := by
  rw [Registrations.ofUser_on, registrationKeys, List.filterMap_map]
  simp only [Function.comp_def, h.ofText?_textAt now]

end Holds

end Registrations

end Keyspace

end Courier
