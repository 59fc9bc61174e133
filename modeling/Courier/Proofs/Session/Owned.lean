import Courier.Proofs.Table
import Courier.Session.Registry

/-!
# Sessions belong to one user

Whatever is done with a registry, in whatever order, no session is on the lists of two users. Main
statement: messages for different users can be delivered in either order, with the same results and
the same registry in the end.
-/

namespace Courier.Registry

/-- What can be done with a registry. The two steps of delivering a message and of taking a session
off a list may have others between them. -/
inductive Operation where
  | connect (user : String) (platform : Int32)
  | strike (user : String) (number : Nat)
  | tidy (user : String)
  | hangUp (number : Nat)
  | read (number : Nat) (most : Option Nat)
  | deliver (user : String) (e : Event)

/-- Carries out an operation. -/
def operate (r : Registry) : Operation → Registry
  | .connect user platform => (r.connect user platform).2
  | .strike user number => r.strike user number
  | .tidy user => r.tidy user
  | .hangUp number => (r.hangUp number).2
  | .read number most => (r.read number most).2
  | .deliver user e => r.deliver user e

/-- Carries out operations in order. -/
def operateAll (r : Registry) (operations : List Operation) : Registry :=
  operations.foldl operate r

@[simp] theorem sessions_strike (r : Registry) (user other : String) (number : Nat) :
    (r.strike user number).sessions other =
      if other = user then (r.sessions user).filter fun s => s.number ≠ number
      else r.sessions other := by
  rw [← sessions_tidy _ user, ← unregister, sessions_unregister]

@[simp] theorem sessions_deliver (r : Registry) (user other : String) (e : Event) :
    (r.deliver user e).sessions other =
      if other = user then (r.sessions user).filter fun s => r.offer user e s ≠ .gone
      else r.sessions other := by
  have h : (r.deliver user e).sessions other = (r.pushOnline user e).2.sessions other :=
    (sessions_tidy _ user other).symm
  rw [h, sessions_pushOnline]

theorem sessions_strike_sublist (r : Registry) (user other : String) (number : Nat) :
    ((r.strike user number).sessions other).Sublist (r.sessions other) := by
  rw [sessions_strike]
  split
  · rename_i hu
    exact hu ▸ List.filter_sublist
  · exact List.Sublist.refl _

theorem sessions_deliver_sublist (r : Registry) (user other : String) (e : Event) :
    ((r.deliver user e).sessions other).Sublist (r.sessions other) := by
  rw [sessions_deliver]
  split
  · rename_i hu
    exact hu ▸ List.filter_sublist
  · exact List.Sublist.refl _

/-- Only a new session comes on a list. -/
theorem sessions_operate_sublist (r : Registry) {o : Operation} (h : ∀ u p, o ≠ .connect u p)
    (user : String) : ((r.operate o).sessions user).Sublist (r.sessions user) := by
  cases o with
  | connect u p => exact absurd rfl (h u p)
  | strike u number => exact sessions_strike_sublist r u user number
  | tidy u => exact (sessions_tidy r u user).symm ▸ List.Sublist.refl _
  | hangUp number => exact List.Sublist.refl _
  | read number most => exact List.Sublist.refl _
  | deliver u e => exact sessions_deliver_sublist r u user e

/-- Whether each session is on the list of one user only, and has a number that was given. -/
structure IsOwned (r : Registry) : Prop where
  numbers : ∀ user, ∀ s ∈ r.sessions user, s.number < r.next
  owner : ∀ user other, ∀ s ∈ r.sessions user, ∀ t ∈ r.sessions other,
    s.number = t.number → user = other

namespace IsOwned

variable {r q : Registry}

theorem new (capacity : Nat) : IsOwned (new capacity) where
  numbers := by simp [Registry.new, sessions]
  owner := by simp [Registry.new, sessions]

/-- Taking sessions off lists is no matter. -/
theorem mono (h : r.IsOwned) (hn : q.next = r.next)
    (hs : ∀ user, q.sessions user ⊆ r.sessions user) : q.IsOwned where
  numbers user s hm := hn ▸ h.numbers user s (hs user hm)
  owner user other s hm t ht := h.owner user other s (hs user hm) t (hs other ht)

theorem connect (h : r.IsOwned) (user : String) (platform : Int32) :
    (r.connect user platform).2.IsOwned := by
  have cases : ∀ other, ∀ s ∈ (r.connect user platform).2.sessions other,
      s ∈ r.sessions other ∨ other = user ∧ s.number = r.next := by
    intro other s hs
    rw [sessions_connect] at hs
    split at hs
    · rename_i hu
      cases List.mem_append.1 hs with
      | inl hs => exact .inl (hu ▸ hs)
      | inr hs => exact .inr ⟨hu, by rw [List.mem_singleton.1 hs]⟩
    · exact .inl hs
  constructor
  · intro other s hs
    apply Nat.lt_succ_of_le
    rcases cases other s hs with hs | ⟨-, hs⟩
    · exact Nat.le_of_lt (h.numbers other s hs)
    · exact Nat.le_of_eq hs
  · intro u v s hs t ht he
    rcases cases u s hs with hu | ⟨rfl, hu⟩ <;> rcases cases v t ht with hv | ⟨rfl, hv⟩
    · exact h.owner u v s hu t hv he
    · have := h.numbers u s hu
      omega
    · have := h.numbers v t hv
      omega
    · rfl

theorem strike (h : r.IsOwned) (user : String) (number : Nat) : (r.strike user number).IsOwned :=
  h.mono (q := r.strike user number) rfl fun other =>
    (sessions_strike_sublist r user other number).subset

theorem tidy (h : r.IsOwned) (user : String) : (r.tidy user).IsOwned :=
  h.mono (q := r.tidy user) rfl fun other s hs => by rwa [sessions_tidy] at hs

theorem deliver (h : r.IsOwned) (user : String) (e : Event) : (r.deliver user e).IsOwned :=
  h.mono (q := r.deliver user e) rfl fun other => (sessions_deliver_sublist r user other e).subset

theorem pushOnline (h : r.IsOwned) (user : String) (e : Event) : (r.pushOnline user e).2.IsOwned :=
  (h.deliver user e).tidy user

theorem operate (h : r.IsOwned) (o : Operation) : (r.operate o).IsOwned := by
  cases o with
  | connect user platform => exact h.connect user platform
  | strike user number => exact h.strike user number
  | tidy user => exact h.tidy user
  | hangUp number => exact h.mono rfl fun _ => List.Subset.refl _
  | read number most => exact h.mono rfl fun _ => List.Subset.refl _
  | deliver user e => exact h.deliver user e

theorem operateAll (h : r.IsOwned) (operations : List Operation) :
    (r.operateAll operations).IsOwned := by
  induction operations generalizing r with
  | nil => exact h
  | cons o operations ih => exact ih (h.operate o)

end IsOwned

/-- Keeps those of a user's sessions that pass, drops the list if nothing is left of it, and puts a
message in the inboxes with certain numbers. -/
def push (r : Registry) (user : String) (keep : Session → Bool) (takers : List Nat) (e : Event) :
    Registry :=
  { r with
    users := (r.users.modify user (List.filter keep)).filter fun k list => k ≠ user || !list.isEmpty
    inboxes := r.inboxes.mapValues fun number box =>
      if number ∈ takers then { box with waiting := box.waiting ++ [e] } else box }

/-- The numbers of the sessions that take a message. -/
def takers (r : Registry) (user : String) (e : Event) : List Nat :=
  (r.offers user e .taken).map Session.number

/-- The sessions that a message does not find gone. -/
def stays (r : Registry) (user : String) (e : Event) (s : Session) : Bool :=
  r.offer user e s ≠ .gone

theorem pushOnline_eq (r : Registry) (user : String) (e : Event) :
    (r.pushOnline user e).2 = r.push user (r.stays user e) (r.takers user e) e := by
  rw [pushOnline, tidy, deliver, push]
  simp only [Table.alter_filter]
  rfl

variable {r : Registry} {user other : String} (e f : Event)

theorem push_congr {keep keep' : Session → Bool} {takers : List Nat}
    (h : ∀ s ∈ r.sessions user, keep s = keep' s) :
    r.push user keep takers e = r.push user keep' takers e := by
  have hm : r.users.modify user (List.filter keep) = r.users.modify user (List.filter keep') := by
    apply Table.modify_congr
    intro list hl
    apply List.filter_congr
    intro s hs
    apply h
    rwa [sessions, hl]
  rw [push, push, hm]

/-- Changes for different users, in different inboxes, can be made in either order. -/
theorem push_comm (r : Registry) (hu : user ≠ other) {keep keep' : Session → Bool}
    {takers takers' : List Nat} (ht : ∀ n ∈ takers, n ∉ takers') :
    (r.push user keep takers e).push other keep' takers' f =
      (r.push other keep' takers' f).push user keep takers e := by
  simp only [push]
  congr 1
  · rw [Table.modify_filter _ (by simp [Ne.symm hu]), Table.modify_filter _ (by simp [hu]),
      Table.filter_comm, Table.modify_comm _ hu]
  · apply Table.ext
    simp only [Table.entries_mapValues, List.map_map]
    apply List.map_congr_left
    rintro ⟨n, box⟩ -
    by_cases hn : n ∈ takers
    · simp [hn, ht n hn]
    · simp [hn]

variable (h : r.IsOwned) (hu : user ≠ other)

include h hu

theorem disjoint_takers : ∀ n ∈ r.takers user e, n ∉ r.takers other f := by
  intro n hn hm
  obtain ⟨s, hs, rfl⟩ := List.mem_map.1 hn
  obtain ⟨t, ht, he⟩ := List.mem_map.1 hm
  exact hu (h.owner user other s (List.mem_filter.1 hs).1 t (List.mem_filter.1 ht).1 he.symm)

/-- What becomes of a message for one user does not depend on a delivery to another. -/
theorem offer_pushOnline {s : Session} (hs : s ∈ r.sessions other) :
    (r.pushOnline user e).2.offer other f s = r.offer other f s := by
  have hn : s.number ∉ (r.offers user e .taken).map Session.number := by
    intro hm
    obtain ⟨t, ht, hts⟩ := List.mem_map.1 hm
    exact hu (h.owner user other t (List.mem_filter.1 ht).1 s hs hts)
  have hi : (r.pushOnline user e).2.inbox? s.number = r.inbox? s.number := by
    rw [inbox?_pushOnline]
    simp [hn]
  simp only [offer, hi]
  rfl

theorem offers_pushOnline (o : Offer) :
    (r.pushOnline user e).2.offers other f o = r.offers other f o := by
  rw [offers, sessions_pushOnline, if_neg (Ne.symm hu)]
  apply List.filter_congr
  intro s hs
  rw [offer_pushOnline e f h hu hs]

theorem takers_pushOnline :
    (r.pushOnline user e).2.takers other f = r.takers other f := by
  rw [takers, takers, offers_pushOnline e f h hu]

theorem resultOf_pushOnline :
    (r.pushOnline user e).2.resultOf other f = r.resultOf other f := by
  simp only [resultOf, offers_pushOnline e f h hu]

theorem pushOnline_pushOnline :
    ((r.pushOnline user e).2.pushOnline other f).2 =
      (r.push user (r.stays user e) (r.takers user e) e).push other (r.stays other f)
        (r.takers other f) f := by
  rw [pushOnline_eq _ other f, takers_pushOnline e f h hu, ← pushOnline_eq r user e]
  apply push_congr
  intro s hs
  rw [sessions_pushOnline, if_neg (Ne.symm hu)] at hs
  rw [stays, stays, offer_pushOnline e f h hu hs]

/-- Messages for different users can be delivered in either order. -/
theorem pushOnline_comm :
    ((r.pushOnline user e).2.pushOnline other f).2 =
      ((r.pushOnline other f).2.pushOnline user e).2 := by
  rw [pushOnline_pushOnline e f h hu, pushOnline_pushOnline f e h (Ne.symm hu)]
  exact push_comm e f r hu (disjoint_takers e f h hu)

end Courier.Registry
