import Courier.Proofs.Session.Owned
import Mathlib.Data.List.Nodup
import Mathlib.Logic.Function.Basic

/-!
# The chronicle of a registry

Beside a registry stands what has happened to it: the sessions that came, those that were not taken
off again, those whose receivers have not hung up, the messages that each session has taken and
those that each receiver has read. Main statement: whatever is done, in whatever order, a session
that still stands and listens is on the list of its user, and what its receiver has read and what
waits in its inbox is what it has taken.
-/

namespace Courier

namespace Registry

variable (r : Registry) (user : String) (number n : Nat) (e : Event)

/-! ### What a step changes -/

@[simp] theorem inbox?_connect (platform : Int32) :
    (r.connect user platform).2.inbox? n =
      if n = r.next then some ⟨[], true⟩ else r.inbox? n :=
  Table.get?_insert r.inboxes r.next ⟨[], true⟩ n

@[simp] theorem inbox?_hangUp :
    (r.hangUp number).2.inbox? n =
      if n = number then (r.inbox? n).map fun _ => ⟨[], false⟩ else r.inbox? n :=
  Table.get?_modify r.inboxes number (fun _ => ⟨[], false⟩) n

@[simp] theorem inbox?_deliver :
    (r.deliver user e).inbox? n = (r.inbox? n).map fun box =>
      if n ∈ r.takers user e then { box with waiting := box.waiting ++ [e] } else box :=
  inbox?_pushOnline r user n e

/-- What is read is no longer in the inbox. -/
theorem read_append (most : Option Nat) {waiting : List Event} {isOpen : Bool}
    (h : r.inbox? number = some ⟨waiting, isOpen⟩) :
    ∃ rest, (r.read number most).2.inbox? number = some ⟨rest, isOpen⟩ ∧
      (r.read number most).1 ++ rest = waiting := by
  refine ⟨waiting.drop (most.getD waiting.length), ?_, ?_⟩
  · refine (Table.get?_modify r.inboxes number _ number).trans ?_
    rw [if_pos rfl, ← inbox?, h]
    rfl
  · simp [read, h]

theorem read_of_inbox?_eq_none (most : Option Nat) (h : r.inbox? number = none) :
    (r.read number most).1 = [] ∧ (r.read number most).2.inbox? number = none := by
  refine ⟨by simp [read, h], ?_⟩
  refine (Table.get?_modify r.inboxes number _ number).trans ?_
  rw [if_pos rfl, ← inbox?, h]
  rfl

theorem inbox?_read_of_ne (most : Option Nat) (h : n ≠ number) :
    (r.read number most).2.inbox? n = r.inbox? n := by
  simp [read, inbox?, Table.get?_modify, h]

variable {r user number n e}

theorem offer_ne_gone {s : Session} {waiting : List Event}
    (h : r.inbox? s.number = some ⟨waiting, true⟩) : r.offer user e s ≠ .gone := by
  rw [offer, h]
  split
  · decide
  · dsimp only
    split <;> decide

/-- A message is only taken where there is room for it. -/
theorem exists_of_mem_takers (h : n ∈ r.takers user e) :
    ∃ waiting, r.inbox? n = some ⟨waiting, true⟩ ∧ waiting.length < r.capacity := by
  obtain ⟨s, hs, rfl⟩ := List.mem_map.1 h
  have ho : r.offer user e s = .taken := by simpa using (List.mem_filter.1 hs).2
  rw [offer] at ho
  split at ho
  · cases ho
  · split at ho
    · rename_i waiting hi
      split at ho
      · exact ⟨waiting, hi, ‹_›⟩
      · cases ho
    · cases ho

end Registry

/-- A registry and what has happened to it. -/
structure Chronicle where
  registry : Registry
  /-- All sessions that came, with their users. -/
  registered : List (String × Session)
  /-- The sessions that were not taken off again, with their users. -/
  standing : List (String × Session)
  /-- The numbers of the sessions whose receivers have not hung up. -/
  listening : List Nat
  /-- The messages that each session has taken. -/
  accepted : Nat → List Event
  /-- The messages that each receiver has read. -/
  received : Nat → List Event

namespace Chronicle

/-- A registry to which nothing has happened. -/
def new (capacity : Nat) : Chronicle :=
  ⟨.new capacity, [], [], [], fun _ => [], fun _ => []⟩

/-- Carries out an operation and notes what happens. -/
def operate (t : Chronicle) (o : Registry.Operation) : Chronicle :=
  let noted := { t with registry := t.registry.operate o }
  match o with
  | .connect user platform =>
    let s : Session := ⟨(t.registry.connect user platform).1, platform⟩
    { noted with
      registered := t.registered ++ [(user, s)]
      standing := t.standing ++ [(user, s)]
      listening := t.listening ++ [s.number] }
  | .strike user number =>
    { noted with standing := t.standing.filter fun x => ¬(x.1 = user ∧ x.2.number = number) }
  | .tidy _ => noted
  | .hangUp number => { noted with listening := t.listening.filter fun n => n ≠ number }
  | .read number most =>
    { noted with received :=
        Function.update t.received number (t.received number ++ (t.registry.read number most).1) }
  | .deliver user e =>
    { noted with accepted := fun n =>
        t.accepted n ++ List.replicate ((t.registry.takers user e).count n) e }

/-- Carries out operations in order. -/
def operateAll (t : Chronicle) (operations : List Registry.Operation) : Chronicle :=
  operations.foldl operate t

/-- The sessions of a user that were not taken off again. -/
def standingOf (t : Chronicle) (user : String) : List Session :=
  (t.standing.filter fun x => x.1 = user).map Prod.snd

/-- Those of them whose receivers have not hung up. -/
def openOf (t : Chronicle) (user : String) : List Session :=
  (t.standingOf user).filter fun s => s.number ∈ t.listening

variable {t : Chronicle} {user other : String} {s : Session} {number : Nat} {platform : Int32}

theorem mem_standingOf_iff : s ∈ t.standingOf user ↔ (user, s) ∈ t.standing := by
  constructor
  · intro hs
    obtain ⟨⟨_, _⟩, hx, rfl⟩ := List.mem_map.1 hs
    obtain ⟨hm, hu⟩ := List.mem_filter.1 hx
    obtain rfl : _ = user := by simpa using hu
    exact hm
  · intro hs
    exact List.mem_map.2 ⟨(user, s), List.mem_filter.2 ⟨hs, by simp⟩, rfl⟩

theorem standingOf_connect :
    (t.operate (.connect user platform)).standingOf other =
      t.standingOf other ++ if other = user then [⟨t.registry.next, platform⟩] else [] := by
  change ((t.standing ++ [(user, (⟨t.registry.next, platform⟩ : Session))]).filter _).map _ = _
  rw [List.filter_append, List.map_append, standingOf]
  by_cases hu : other = user
  · simp [hu]
  · simp [hu, Ne.symm hu]

theorem standingOf_strike :
    (t.operate (.strike user number)).standingOf other =
      if other = user then (t.standingOf user).filter fun s => s.number ≠ number
      else t.standingOf other := by
  change ((t.standing.filter _).filter _).map _ = _
  rw [standingOf, standingOf, List.filter_filter]
  split
  · rename_i hu
    subst hu
    rw [List.filter_map, List.filter_filter]
    congr 1
    apply List.filter_congr
    rintro ⟨owner, s⟩ -
    by_cases hx : owner = other <;> simp [hx]
  · rename_i hu
    congr 1
    apply List.filter_congr
    rintro ⟨owner, s⟩ -
    by_cases hx : owner = other
    · simp [hx, hu]
    · simp [hx]

/-! ### Lists -/

/-- Whether no number is given twice, and each session on a list still stands there. -/
structure IsListed (t : Chronicle) : Prop where
  numbers : (t.registered.map fun x => x.2.number).Pairwise (· < ·)
  given : ∀ x ∈ t.registered, x.2.number < t.registry.next
  standing : t.standing.Sublist t.registered
  listed : ∀ user, (t.registry.sessions user).Sublist (t.standingOf user)

namespace IsListed

theorem new (capacity : Nat) : (new capacity).IsListed where
  numbers := .nil
  given := nofun
  standing := .slnil
  listed _ := .slnil

theorem standing_lt (h : t.IsListed) (hs : s ∈ t.standingOf user) : s.number < t.registry.next :=
  h.given (user, s) (h.standing.subset (mem_standingOf_iff.1 hs))

/-- A session is known by its number. -/
theorem eq_of_number (h : t.IsListed) {x y : String × Session} (hx : x ∈ t.registered)
    (hy : y ∈ t.registered) (he : x.2.number = y.2.number) : x = y :=
  List.inj_on_of_nodup_map (h.numbers.imp Nat.ne_of_lt) hx hy he

/-- The sessions on a list have different numbers. -/
theorem nodup (h : t.IsListed) (user : String) :
    ((t.registry.sessions user).map Session.number).Nodup := by
  have sub : ((t.registry.sessions user).map Session.number).Sublist
      (t.registered.map fun x => x.2.number) := by
    refine ((h.listed user).map Session.number).trans ?_
    rw [standingOf, List.map_map]
    exact (List.filter_sublist.trans h.standing).map _
  exact (h.numbers.sublist sub).imp Nat.ne_of_lt

theorem connect (h : t.IsListed) (user : String) (platform : Int32) :
    (t.operate (.connect user platform)).IsListed where
  numbers := by
    change ((t.registered ++ [(user, (⟨t.registry.next, platform⟩ : Session))]).map _).Pairwise _
    rw [List.map_append, List.pairwise_append]
    refine ⟨h.numbers, List.pairwise_singleton _ _, fun n hn m hm => ?_⟩
    obtain ⟨x, hx, rfl⟩ := List.mem_map.1 hn
    obtain rfl := List.mem_singleton.1 hm
    exact h.given x hx
  given x hx := by
    rcases List.mem_append.1 hx with hx | hx
    · exact Nat.lt_succ_of_lt (h.given x hx)
    · obtain rfl := List.mem_singleton.1 hx
      exact Nat.lt_succ_self _
  standing := h.standing.append (.refl _)
  listed other := by
    change ((t.registry.connect user platform).2.sessions other).Sublist _
    rw [standingOf_connect, Registry.sessions_connect]
    split
    · rename_i hu
      subst hu
      exact (h.listed other).append (.refl _)
    · rw [List.append_nil]
      exact h.listed other

theorem operate (h : t.IsListed) (o : Registry.Operation) : (t.operate o).IsListed := by
  cases o with
  | connect user platform => exact h.connect user platform
  | strike user number =>
      refine ⟨h.numbers, h.given, List.filter_sublist.trans h.standing, fun other => ?_⟩
      change ((t.registry.strike user number).sessions other).Sublist _
      rw [standingOf_strike, Registry.sessions_strike]
      split
      · exact (h.listed user).filter _
      · exact h.listed other
  | tidy user =>
      refine ⟨h.numbers, h.given, h.standing, fun other => ?_⟩
      change ((t.registry.tidy user).sessions other).Sublist _
      rw [Registry.sessions_tidy]
      exact h.listed other
  | hangUp number => exact ⟨h.numbers, h.given, h.standing, h.listed⟩
  | read number most => exact ⟨h.numbers, h.given, h.standing, h.listed⟩
  | deliver user e =>
      exact ⟨h.numbers, h.given, h.standing, fun other =>
        (t.registry.sessions_deliver_sublist user other e).trans (h.listed other)⟩

end IsListed

/-! ### Inboxes -/

/-- Whether no inbox is too full, and what each listening session has taken is read or waits. -/
structure IsTold (t : Chronicle) : Prop where
  bounded : ∀ n box, t.registry.inbox? n = some box → box.waiting.length ≤ t.registry.capacity
  told : ∀ n ∈ t.listening, ∃ waiting, t.registry.inbox? n = some ⟨waiting, true⟩ ∧
    t.received n ++ waiting = t.accepted n
  blank : ∀ n, t.registry.next ≤ n →
    t.registry.inbox? n = none ∧ t.received n = [] ∧ t.accepted n = []

namespace IsTold

theorem new (capacity : Nat) : (new capacity).IsTold where
  bounded _ _ := nofun
  told := nofun
  blank _ _ := ⟨rfl, rfl, rfl⟩

theorem connect (h : t.IsTold) (user : String) (platform : Int32) :
    (t.operate (.connect user platform)).IsTold := by
  have inbox (n : Nat) : (t.operate (.connect user platform)).registry.inbox? n =
      if n = t.registry.next then some ⟨[], true⟩ else t.registry.inbox? n :=
    t.registry.inbox?_connect user n platform
  constructor
  case bounded =>
    intro n box hb
    rw [inbox] at hb
    split at hb
    · cases hb
      exact Nat.zero_le _
    · exact h.bounded n box hb
  case told =>
    intro n hn
    rw [inbox]
    split
    · rename_i he
      obtain ⟨-, hr, ha⟩ := h.blank n (Nat.le_of_eq he.symm)
      refine ⟨[], rfl, ?_⟩
      change t.received n ++ [] = t.accepted n
      rw [hr, ha, List.append_nil]
    · rename_i he
      rcases List.mem_append.1 hn with hn | hn
      · exact h.told n hn
      · exact absurd (List.mem_singleton.1 hn) he
  case blank =>
    intro n hn
    have hlt : t.registry.next < n := hn
    rw [inbox, if_neg (Nat.ne_of_gt hlt)]
    exact h.blank n (Nat.le_of_lt hlt)

theorem hangUp (h : t.IsTold) (number : Nat) : (t.operate (.hangUp number)).IsTold := by
  have inbox (n : Nat) : (t.operate (.hangUp number)).registry.inbox? n =
      if n = number then (t.registry.inbox? n).map fun _ => ⟨[], false⟩
      else t.registry.inbox? n := t.registry.inbox?_hangUp number n
  constructor
  case bounded =>
    intro n box hb
    rw [inbox] at hb
    split at hb
    · obtain ⟨_, -, rfl⟩ := Option.map_eq_some_iff.1 hb
      exact Nat.zero_le _
    · exact h.bounded n box hb
  case told =>
    intro n hn
    obtain ⟨hm, hne⟩ := List.mem_filter.1 hn
    rw [inbox, if_neg (by simpa using hne)]
    exact h.told n hm
  case blank =>
    intro n hn
    obtain ⟨hi, hra⟩ := h.blank n hn
    refine ⟨?_, hra⟩
    rw [inbox, hi]
    split <;> rfl

theorem read (h : t.IsTold) (number : Nat) (most : Option Nat) :
    (t.operate (.read number most)).IsTold := by
  have inbox {n : Nat} (hn : n ≠ number) :
      (t.operate (.read number most)).registry.inbox? n = t.registry.inbox? n :=
    t.registry.inbox?_read_of_ne number n most hn
  have received {n : Nat} (hn : n ≠ number) :
      (t.operate (.read number most)).received n = t.received n := Function.update_of_ne hn _ _
  have own : (t.operate (.read number most)).received number =
      t.received number ++ (t.registry.read number most).1 := Function.update_self _ _ _
  constructor
  case bounded =>
    intro n box hb
    by_cases hn : n = number
    · subst hn
      cases hi : t.registry.inbox? n with
      | none =>
          cases (t.registry.read_of_inbox?_eq_none n most hi).2.symm.trans hb
      | some old =>
          obtain ⟨rest, hr, ha⟩ := t.registry.read_append n most hi
          cases hr.symm.trans hb
          have hlen := congrArg List.length ha
          rw [List.length_append] at hlen
          have hle : rest.length ≤ old.waiting.length := by omega
          exact Nat.le_trans hle (h.bounded n old hi)
    · exact h.bounded n box (inbox hn ▸ hb)
  case told =>
    intro n hn
    obtain ⟨waiting, hi, ht⟩ := h.told n hn
    by_cases he : n = number
    · subst he
      obtain ⟨rest, hr, ha⟩ := t.registry.read_append n most hi
      refine ⟨rest, hr, ?_⟩
      rw [own, List.append_assoc, ha]
      exact ht
    · refine ⟨waiting, (inbox he).trans hi, ?_⟩
      rw [received he]
      exact ht
  case blank =>
    intro n hn
    obtain ⟨hi, hr, ha⟩ := h.blank n hn
    by_cases he : n = number
    · subst he
      obtain ⟨hnone, hstill⟩ := t.registry.read_of_inbox?_eq_none n most hi
      refine ⟨hstill, ?_, ha⟩
      rw [own, hr, hnone]
      rfl
    · exact ⟨(inbox he).trans hi, (received he).trans hr, ha⟩

theorem deliver (h : t.IsTold) (hl : t.IsListed) (user : String) (e : Event) :
    (t.operate (.deliver user e)).IsTold := by
  have inbox (n : Nat) : (t.operate (.deliver user e)).registry.inbox? n =
      (t.registry.inbox? n).map fun box =>
        if n ∈ t.registry.takers user e then { box with waiting := box.waiting ++ [e] } else box :=
    t.registry.inbox?_deliver user n e
  constructor
  case bounded =>
    intro n box hb
    rw [inbox] at hb
    obtain ⟨old, hi, rfl⟩ := Option.map_eq_some_iff.1 hb
    split
    · rename_i hm
      obtain ⟨waiting, hw, hlt⟩ := Registry.exists_of_mem_takers hm
      cases hi.symm.trans hw
      rw [List.length_append]
      exact hlt
    · exact h.bounded n old hi
  case told =>
    intro n hn
    obtain ⟨waiting, hi, ht⟩ := h.told n hn
    rw [inbox, hi, Option.map_some]
    change ∃ w, _ ∧ t.received n ++ w = t.accepted n ++ List.replicate _ e
    by_cases hm : n ∈ t.registry.takers user e
    · -- a number is on the list only once, and so the message is taken once
      rw [if_pos hm, List.count_eq_one_of_mem ?_ hm, ← ht]
      · exact ⟨waiting ++ [e], rfl, (List.append_assoc _ _ _).symm⟩
      · exact (hl.nodup user).sublist (List.filter_sublist.map _)
    · rw [if_neg hm, List.count_eq_zero_of_not_mem hm, ← ht]
      exact ⟨waiting, rfl, (List.append_nil _).symm⟩
  case blank =>
    intro n hn
    obtain ⟨hi, hr, ha⟩ := h.blank n hn
    have hm : n ∉ t.registry.takers user e := by
      intro hm
      obtain ⟨_, hw, -⟩ := Registry.exists_of_mem_takers hm
      rw [hi] at hw
      cases hw
    refine ⟨by rw [inbox, hi]; rfl, hr, ?_⟩
    change t.accepted n ++ List.replicate _ e = []
    rw [ha, List.count_eq_zero_of_not_mem hm]
    rfl

theorem operate (h : t.IsTold) (hl : t.IsListed) (o : Registry.Operation) :
    (t.operate o).IsTold := by
  cases o with
  | connect user platform => exact h.connect user platform
  | strike user number => exact ⟨h.bounded, h.told, h.blank⟩
  | tidy user => exact ⟨h.bounded, h.told, h.blank⟩
  | hangUp number => exact h.hangUp number
  | read number most => exact h.read number most
  | deliver user e => exact h.deliver hl user e

end IsTold

/-! ### Open sessions -/

/-- What holds of a registry and of what has happened to it: among the rest that each open session
stays on the list of its user, in its place. -/
structure IsKept (t : Chronicle) : Prop extends t.IsListed, t.IsTold where
  stays : ∀ user, (t.openOf user).Sublist (t.registry.sessions user)

namespace IsKept

theorem new (capacity : Nat) : (new capacity).IsKept where
  toIsListed := .new capacity
  toIsTold := .new capacity
  stays _ := .slnil

theorem openOf_connect (h : t.IsKept) :
    (t.operate (.connect user platform)).openOf other =
      t.openOf other ++ if other = user then [⟨t.registry.next, platform⟩] else [] := by
  rw [openOf, standingOf_connect, List.filter_append, openOf]
  have listening : (t.operate (.connect user platform)).listening =
      t.listening ++ [t.registry.next] := rfl
  rw [listening]
  congr 1
  · apply List.filter_congr
    intro s hs
    simp [Nat.ne_of_lt (h.standing_lt hs)]
  · split <;> simp

theorem openOf_strike :
    (t.operate (.strike user number)).openOf other =
      if other = user then (t.openOf user).filter fun s => s.number ≠ number
      else t.openOf other := by
  have listening : (t.operate (.strike user number)).listening = t.listening := rfl
  rw [openOf, standingOf_strike, listening]
  split
  · rw [openOf, List.filter_filter, List.filter_filter]
    apply List.filter_congr
    intro s _
    rw [Bool.and_comm]
  · rfl

/-- No open session is found gone. -/
theorem openOf_sublist_deliver (h : t.IsKept) (user : String) (e : Event) :
    (t.openOf other).Sublist ((t.registry.deliver user e).sessions other) := by
  rw [Registry.sessions_deliver]
  split
  · rename_i hu
    subst hu
    -- nobody who listens is gone, so the edit of the list leaves the open sessions as they are
    have open_eq : (t.openOf other).filter (fun s => t.registry.offer other e s ≠ .gone) =
        t.openOf other := by
      apply List.filter_eq_self.2
      intro s hs
      obtain ⟨_, hi, -⟩ := h.told s.number (by simpa using (List.mem_filter.1 hs).2)
      simpa using Registry.offer_ne_gone hi
    exact open_eq ▸ (h.stays other).filter _
  · exact h.stays other

theorem operate (h : t.IsKept) (o : Registry.Operation) : (t.operate o).IsKept where
  toIsListed := h.toIsListed.operate o
  toIsTold := h.toIsTold.operate h.toIsListed o
  stays other := by
    cases o with
    | connect user platform =>
        change List.Sublist _ ((t.registry.connect user platform).2.sessions other)
        rw [h.openOf_connect, Registry.sessions_connect]
        split
        · rename_i hu
          subst hu
          exact (h.stays other).append (.refl _)
        · rw [List.append_nil]
          exact h.stays other
    | strike user number =>
        change List.Sublist _ ((t.registry.strike user number).sessions other)
        rw [openOf_strike, Registry.sessions_strike]
        split
        · exact (h.stays user).filter _
        · exact h.stays other
    | tidy user =>
        change List.Sublist _ ((t.registry.tidy user).sessions other)
        rw [Registry.sessions_tidy]
        exact h.stays other
    | hangUp number =>
        refine List.Sublist.trans ?_ (h.stays other)
        refine List.monotone_filter_right _ fun s hs => ?_
        have hm : s.number ∈ (t.operate (.hangUp number)).listening := of_decide_eq_true hs
        exact decide_eq_true (List.mem_filter.1 hm).1
    | read number most => exact h.stays other
    | deliver user e => exact h.openOf_sublist_deliver user e

theorem operateAll (h : t.IsKept) (operations : List Registry.Operation) :
    (t.operateAll operations).IsKept := by
  induction operations generalizing t with
  | nil => exact h
  | cons o operations ih => exact ih (h.operate o)

end IsKept

end Chronicle

end Courier
