import Courier.ServiceError
import Courier.Table

/-!
# The membership cache

The members of a group are looked up at a source and kept. While a group is looked up, all who ask
for it wait for that one load and get what it brings, be it members or an error. Only members are
kept. An invalidation drops what is kept and leaves a load that is under way alone.
-/

namespace Courier

/-- The members of a group, or why they could not be looked up. -/
abbrev Members := Except ServiceError (List String)

namespace Group

/-- A look-up of a group at the source, and what it has brought. -/
structure Load where
  group : String
  result : Option Members

/-- What is known about the members of groups. -/
structure Cache where
  /-- Whether anything is kept at all. -/
  keeps : Bool
  kept : Table String (List String)
  /-- All look-ups that ever were, by number. -/
  loads : Table Nat Load

/-- What one who asks for a group is told. -/
inductive Answer where
  /-- The members that are kept. -/
  | kept (members : List String)
  /-- To wait for a load that is under way. -/
  | await (load : Nat)
  /-- To look the group up. -/
  | load (load : Nat)
  deriving DecidableEq, Repr

namespace Cache

/-- A cache that knows nothing. -/
def new (keeps : Bool) : Cache :=
  ⟨keeps, ∅, ∅⟩

/-- Why a look-up that takes too long fails. -/
def tooSlow (group : String) : ServiceError :=
  .timeout ("membership lookup for group " ++ group)

/-- The load of a group that is under way. -/
def loading? (c : Cache) (group : String) : Option Nat :=
  (c.loads.entries.find? fun l => l.2.group = group && l.2.result.isNone).map Prod.fst

/-- Asks for the members of a group. -/
def ask (c : Cache) (group : String) : Answer × Cache :=
  match c.kept.get? group with
  | some members => (.kept members, c)
  | none =>
    match c.loading? group with
    | some load => (.await load, c)
    | none =>
      let load := c.loads.size
      (.load load, { c with loads := c.loads.insert load ⟨group, none⟩ })

/-- Ends a load. -/
def settle (c : Cache) (load : Nat) (result : Members) : Cache :=
  match c.loads.get? load with
  | none => c
  | some l =>
    { c with
      kept := match result with
        | .ok members => if c.keeps then c.kept.insert l.group members else c.kept
        | .error _ => c.kept
      loads := c.loads.insert load { l with result := some result } }

/-- What a load has brought. -/
def result? (c : Cache) (load : Nat) : Option Members :=
  (c.loads.get? load).bind Load.result

/-- Drops what is kept about a group. -/
def invalidate (c : Cache) (group : String) : Cache :=
  { c with kept := c.kept.erase group }

/-- Whether the members of a group are kept. -/
def contains (c : Cache) (group : String) : Bool :=
  c.kept.contains group

end Cache

end Group

end Courier
