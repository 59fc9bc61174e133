import Courier.Proofs.Session.Chronicle

/-!
# Sessions over whole runs

Whatever is asked of a registry and of the receivers of its sessions, and in whatever order: no
number is given twice, no user keeps an empty list, no inbox holds more than it may, what a
listening receiver has read and has still to read is what its session has taken, and an open
session stays on the list of its user. What is done for one user is nothing to another.
-/

namespace Courier

/-- What is asked of a registry, and of the receivers of its sessions. -/
inductive SessionCall where
  | register (user : String) (platform : Int32)
  | unregister (user : String) (number : Nat)
  | push (user : String) (e : Event)
  | read (number : Nat) (most : Option Nat)
  | hangUp (number : Nat)

namespace SessionCall

/-- What a call leaves of a registry. -/
def leave (r : Registry) : SessionCall → Registry
  | .register user platform => (r.connect user platform).2
  | .unregister user number => r.unregister user number
  | .push user e => (r.pushOnline user e).2
  | .read number most => (r.read number most).2
  | .hangUp number => (r.hangUp number).2

/-- The steps of a call. -/
def steps : SessionCall → List Registry.Operation
  | .register user platform => [.connect user platform]
  | .unregister user number => [.strike user number, .tidy user]
  | .push user e => [.deliver user e, .tidy user]
  | .read number most => [.read number most]
  | .hangUp number => [.hangUp number]

theorem capacity_leave (r : Registry) (call : SessionCall) :
    (call.leave r).capacity = r.capacity := by
  cases call <;> rfl

end SessionCall

namespace Registry

variable {r q : Registry} {user other : String}

/-! ### Lists that are not empty -/

/-- Whether no user keeps an empty list. -/
def IsTrim (r : Registry) : Prop :=
  ∀ user, r.users.get? user ≠ some []

theorem get?_users_tidy (r : Registry) (h : other ≠ user) :
    (r.tidy user).users.get? other = r.users.get? other := by
  simp [tidy, Table.get?_alter, h]

theorem get?_users_strike (r : Registry) (h : other ≠ user) (number : Nat) :
    (r.strike user number).users.get? other = r.users.get? other := by
  simp [strike, Table.get?_modify, h]

theorem get?_users_deliver (r : Registry) (h : other ≠ user) (e : Event) :
    (r.deliver user e).users.get? other = r.users.get? other := by
  simp [deliver, Table.get?_modify, h]

/-- A list that is tidied is not empty. -/
theorem isTrim_tidy (h : ∀ other, other ≠ user → q.users.get? other ≠ some []) :
    (q.tidy user).IsTrim := by
  intro other
  by_cases hu : other = user
  · subst hu
    simp [tidy, Table.get?_alter, Option.filter_eq_some_iff]
  · rw [get?_users_tidy q hu]
    exact h other hu

theorem IsTrim.leave (h : r.IsTrim) (call : SessionCall) : (call.leave r).IsTrim := by
  cases call with
  | register user platform =>
      intro other
      change (r.users.insert user (r.sessions user ++ [⟨r.next, platform⟩])).get? other ≠ some []
      rw [Table.get?_insert]
      split
      · simp
      · exact h other
  | unregister user number =>
      exact isTrim_tidy fun other hu => by
        rw [get?_users_strike r hu]
        exact h other
  | push user e =>
      exact isTrim_tidy fun other hu => by
        rw [get?_users_deliver r hu]
        exact h other
  | read number most => exact h
  | hangUp number => exact h

end Registry

namespace Chronicle

variable {t : Chronicle} {user other : String}

/-- Carries out a call and notes what happens. -/
def perform (t : Chronicle) (call : SessionCall) : Chronicle :=
  t.operateAll call.steps

/-- Carries out calls in order. -/
def performAll (t : Chronicle) (calls : List SessionCall) : Chronicle :=
  calls.foldl perform t

theorem registry_perform (t : Chronicle) (call : SessionCall) :
    (t.perform call).registry = call.leave t.registry := by
  cases call <;> rfl

theorem registry_performAll (t : Chronicle) (calls : List SessionCall) :
    (t.performAll calls).registry = calls.foldl SessionCall.leave t.registry := by
  induction calls generalizing t with
  | nil => rfl
  | cons call calls ih =>
      rw [List.foldl_cons, ← registry_perform]
      exact ih (t.perform call)

theorem IsKept.performAll (h : t.IsKept) (calls : List SessionCall) :
    (t.performAll calls).IsKept :=
  List.foldlRecOn calls perform h fun _ hk call _ => hk.operateAll call.steps

theorem isTrim_performAll (h : t.registry.IsTrim) (calls : List SessionCall) :
    (t.performAll calls).registry.IsTrim := by
  refine List.foldlRecOn (motive := fun u => u.registry.IsTrim) calls perform h ?_
  intro u hu call _
  rw [registry_perform]
  exact hu.leave call

theorem capacity_performAll (t : Chronicle) (calls : List SessionCall) :
    (t.performAll calls).registry.capacity = t.registry.capacity := by
  refine List.foldlRecOn (motive := fun u => u.registry.capacity = t.registry.capacity)
    calls perform rfl ?_
  intro u hu call _
  rw [registry_perform, SessionCall.capacity_leave, hu]

/-! ### Other users -/

/-- Whether a registry is the same to a user: the list of the user is, and so are the inboxes of all
sessions of the user that ever came. -/
structure IsSameTo (t : Chronicle) (user : String) (r : Registry) : Prop where
  list : r.users.get? user = t.registry.users.get? user
  inboxes : ∀ s, (user, s) ∈ t.registered → r.inbox? s.number = t.registry.inbox? s.number

theorem isSameTo_unregister (t : Chronicle) (h : other ≠ user) (number : Nat) :
    t.IsSameTo other (t.registry.unregister user number) where
  list := by
    rw [Registry.unregister, Registry.get?_users_tidy _ h, Registry.get?_users_strike _ h]
  inboxes _ _ := rfl

theorem IsKept.isSameTo_pushOnline (hk : t.IsKept) (h : other ≠ user) (e : Event) :
    t.IsSameTo other (t.registry.pushOnline user e).2 where
  list := by
    rw [Registry.pushOnline, Registry.get?_users_tidy _ h, Registry.get?_users_deliver _ h]
  inboxes s hs := by
    -- who takes the message came for the one user, and no number was given for both
    have hn : s.number ∉ t.registry.takers user e := by
      intro hm
      obtain ⟨taker, ht, he⟩ := List.mem_map.1 hm
      have hr : (user, taker) ∈ t.registered := hk.standing.subset
        (mem_standingOf_iff.1 ((hk.listed user).subset (List.mem_filter.1 ht).1))
      exact h (congrArg Prod.fst (hk.eq_of_number hs hr he.symm))
    refine (t.registry.inbox?_deliver user s.number e).trans ?_
    simp [hn]

/-! ### Whole runs -/

/-- Whatever the capacity is and whatever was called: no number was given twice, no user keeps an
empty list, no inbox holds more than the capacity and one at least, what the receiver of a session
has read and then what waits for it is what the session has taken, and the open sessions of a user
are on the user's list in the order in which they came. To take a session off the list of a user and
to push a message to a user are nothing to any other user. -/
theorem kept_over_runs (capacity : Nat) (calls : List SessionCall) :
    let t := (new capacity).performAll calls
    t.registry = calls.foldl SessionCall.leave (Registry.new capacity) ∧
      (t.registered.map fun x => x.2.number).Nodup ∧
      (∀ user, t.registry.users.get? user ≠ some []) ∧
      (∀ n box, t.registry.inbox? n = some box → box.waiting.length ≤ max capacity 1) ∧
      (∀ n ∈ t.listening, ∃ waiting, t.registry.inbox? n = some ⟨waiting, true⟩ ∧
        t.received n ++ waiting = t.accepted n) ∧
      (∀ user, (t.openOf user).Sublist (t.registry.sessions user) ∧
        (t.registry.sessions user).Sublist (t.standingOf user)) ∧
      ∀ user other, other ≠ user →
        (∀ number, t.IsSameTo other (t.registry.unregister user number)) ∧
        ∀ e, t.IsSameTo other (t.registry.pushOnline user e).2 := by
  intro t
  have kept : t.IsKept := (IsKept.new capacity).performAll calls
  have size : t.registry.capacity = max capacity 1 := capacity_performAll (new capacity) calls
  refine ⟨registry_performAll _ calls, kept.numbers.imp Nat.ne_of_lt,
    isTrim_performAll (by exact nofun) calls, fun n box hb => size ▸ kept.bounded n box hb,
    kept.told, fun user => ⟨kept.stays user, kept.listed user⟩, fun user other h => ?_⟩
  exact ⟨t.isSameTo_unregister h, kept.isSameTo_pushOnline h⟩

end Chronicle

end Courier
