import Courier.Group.Source
import Courier.Proofs.Table

/-!
# What look-ups of groups bring

A look-up comes too late, or its call ends. What the cache tells about a group was brought by a
look-up of that group, and no failure of a look-up is an invalid argument. Main statement: every
step of a cache keeps this.
-/

namespace Courier.Group

/-- What becomes of a look-up. -/
inductive Arrival where
  /-- It takes too long. -/
  | late
  | call (result : Except Http.CallFault Http.Reply)

namespace Arrival

/-- The members of a group, by what becomes of their look-up. -/
def members (group : String) : Arrival → Members
  | .late => .error (Cache.tooSlow group)
  | .call result => Source.conclude group result

/-- Whether a look-up fails: it comes too late, nobody answers its call, or the answer reports no
success, cannot be read or has a code. -/
def Fails : Arrival → Prop
  | .late | .call (.error _) => True
  | .call (.ok reply) =>
    reply.isSuccess = false ∨
      ∀ listing, (Json.Document.ofBytes reply.content).read Source.Listing.read = .ok listing →
        listing.code ≠ 0

theorem fails_iff (group : String) {a : Arrival} :
    a.Fails ↔ ∃ fault, a.members group = .error fault := by
  cases a with
  | late => exact ⟨fun _ => ⟨_, rfl⟩, fun _ => trivial⟩
  | call result =>
      cases result with
      | error fault => exact ⟨fun _ => ⟨_, rfl⟩, fun _ => trivial⟩
      | ok reply =>
          simp only [Fails, members, Source.conclude]
          cases reply.isSuccess with
          | false => simp
          | true =>
              cases (Json.Document.ofBytes reply.content).read Source.Listing.read with
              | error fault => simp
              | ok listing => by_cases hc : listing.code = 0 <;> simp [Source.Listing.members, hc]

/-- No look-up fails for an invalid argument. -/
theorem members_ne_invalidArgument (a : Arrival) (group text : String) :
    a.members group ≠ .error (.invalidArgument text) := by
  cases a with
  | late => simp [members, Cache.tooSlow]
  | call result =>
      cases result with
      | error fault => simp [members, Source.conclude]
      | ok reply =>
          simp only [members, Source.conclude]
          split
          · split
            · rename_i listing _
              by_cases hc : listing.code = 0 <;> simp [Source.Listing.members, hc]
            · simp
          · simp

end Arrival

namespace Cache

/-- Whether all that a cache knows was brought by look-ups, which are numbered in order. -/
structure IsSourced (c : Cache) : Prop where
  kept : ∀ group members, c.kept.get? group = some members →
    ∃ a : Arrival, a.members group = .ok members
  loads : ∀ load l m, c.loads.get? load = some l → l.result = some m →
    ∃ a : Arrival, m = a.members l.group
  numbers : ∀ load ∈ c.loads.keys, load < c.loads.size

/-- Whether a cache comes later: what a look-up is for stays, and what it has brought. -/
def IsLater (c d : Cache) : Prop :=
  ∀ load l, c.loads.get? load = some l →
    ∃ k, d.loads.get? load = some k ∧ k.group = l.group ∧ (l.result.isSome → k = l)

theorem IsLater.refl (c : Cache) : IsLater c c :=
  fun _ l h => ⟨l, h, rfl, fun _ => rfl⟩

theorem IsLater.trans {c d e : Cache} (h : IsLater c d) (k : IsLater d e) : IsLater c e := by
  intro load l hl
  obtain ⟨l', hl', hg, hr⟩ := h load l hl
  obtain ⟨l'', hl'', hg', hr'⟩ := k load l' hl'
  refine ⟨l'', hl'', hg'.trans hg, fun hs => ?_⟩
  have he := hr hs
  exact (hr' (he ▸ hs)).trans he

/-- What a look-up has brought stays. -/
theorem IsLater.result? {c d : Cache} (h : IsLater c d) {load : Nat}
    (hr : (c.result? load).isSome = true) : d.result? load = c.result? load := by
  cases hl : c.loads.get? load with
  | none => simp [Cache.result?, hl] at hr
  | some l =>
      obtain ⟨k, hk, -, he⟩ := h load l hl
      have hs : l.result.isSome = true := by simpa [Cache.result?, hl] using hr
      rw [Cache.result?, Cache.result?, hl, hk, he hs]

/-- A new look-up leaves the others as they are. -/
theorem IsLater.begin {c : Cache} (hn : c.loads.size ∉ c.loads.keys) (group : String) :
    IsLater c { c with loads := c.loads.insert c.loads.size ⟨group, none⟩ } := by
  intro load l hl
  have hne : load ≠ c.loads.size := by
    rintro rfl
    exact hn (Table.mem_keys_iff.2 ⟨l, hl⟩)
  exact ⟨l, by rw [Table.get?_insert, if_neg hne, hl], rfl, fun _ => rfl⟩

/-- The end of a look-up leaves the others as they are. -/
theorem IsLater.close {c : Cache} {load : Nat} {group : String}
    (hl : c.loads.get? load = some ⟨group, none⟩) (kept : Table String (List String))
    (result : Members) :
    IsLater c { c with kept, loads := c.loads.insert load ⟨group, some result⟩ } := by
  intro n l hg
  rw [Table.get?_insert]
  by_cases hn : n = load
  · subst hn
    cases hl.symm.trans hg
    exact ⟨_, if_pos rfl, rfl, by simp⟩
  · exact ⟨l, by rw [if_neg hn, hg], rfl, fun _ => rfl⟩

/-- What is kept after a group is dropped was kept before, of another group. -/
theorem kept_invalidate {c : Cache} {dropped group : String} {members : List String}
    (h : (c.invalidate dropped).kept.get? group = some members) :
    group ≠ dropped ∧ c.kept.get? group = some members := by
  rw [invalidate, Table.get?_erase] at h
  split at h
  · cases h
  · exact ⟨‹_›, h⟩

/-- What a look-up has brought when one of all of them is told anew. -/
theorem result?_insert (c : Cache) (kept : Table String (List String)) (n : Nat) (l : Load)
    (load : Nat) : Cache.result? { c with kept, loads := c.loads.insert n l } load =
      if load = n then l.result else c.result? load := by
  rw [result?, Table.get?_insert]
  split <;> rfl

theorem IsSourced.new (keeps : Bool) : IsSourced (new keeps) where
  kept := by simp [Cache.new]
  loads := by simp [Cache.new]
  numbers := by simp [Cache.new, Table.mem_keys_iff]

variable {c : Cache} {group : String}

theorem loading?_eq_some {load : Nat} (h : c.loading? group = some load) :
    c.loads.get? load = some ⟨group, none⟩ := by
  obtain ⟨⟨n, l⟩, hf, rfl⟩ := Option.map_eq_some_iff.1 h
  have hp := List.find?_some hf
  simp only [decide_eq_true_eq, Bool.and_eq_true, Option.isNone_iff_eq_none] at hp
  obtain ⟨hg, hr⟩ := hp
  have hl : l = ⟨group, none⟩ := by
    cases l
    cases hg
    cases hr
    rfl
  exact Table.get?_eq_some_iff.2 (hl ▸ List.mem_of_find?_eq_some hf)

/-- What one who asks for a group is told: members that a look-up has brought, or a look-up of the
group that is under way. -/
theorem IsSourced.ask (h : IsSourced c) (group : String) :
    IsSourced (c.ask group).2 ∧ IsLater c (c.ask group).2 ∧
      match (c.ask group).1 with
      | .kept members => ∃ a : Arrival, a.members group = .ok members
      | .await load | .load load => (c.ask group).2.loads.get? load = some ⟨group, none⟩ := by
  unfold Cache.ask
  cases hk : c.kept.get? group with
  | some members => exact ⟨h, .refl c, h.kept group members hk⟩
  | none =>
      cases hl : c.loading? group with
      | some load => exact ⟨h, .refl c, loading?_eq_some hl⟩
      | none =>
          have hn : c.loads.size ∉ c.loads.keys := fun hm => Nat.lt_irrefl _ (h.numbers _ hm)
          refine ⟨⟨h.kept, ?_, Table.lt_size_insert_size h.numbers _⟩, .begin hn group,
            Table.get?_insert_self _ _ _⟩
          intro load l m hg hr
          rcases Table.get?_insert_eq_some_iff.1 hg with ⟨-, rfl⟩ | ⟨-, hg⟩
          · cases hr
          · exact h.loads load l m hg hr

/-- What becomes of a look-up that is under way. -/
def arrive (c : Cache) (load : Nat) (a : Arrival) : Cache :=
  match c.loads.get? load with
  | some ⟨group, none⟩ => c.settle load (a.members group)
  | _ => c

/-- A look-up that has ended has brought something. -/
theorem isSome_result?_arrive {load : Nat} (h : load ∈ c.loads.keys) (a : Arrival) :
    ((c.arrive load a).result? load).isSome = true := by
  obtain ⟨⟨group, result⟩, hl⟩ := Table.mem_keys_iff.1 h
  cases result with
  | none => simp [Cache.arrive, settle, result?, hl]
  | some members => simp [Cache.arrive, result?, hl]

theorem IsSourced.arrive (h : IsSourced c) (load : Nat) (a : Arrival) :
    IsSourced (c.arrive load a) ∧ IsLater c (c.arrive load a) := by
  unfold Cache.arrive
  split
  · rename_i group hl
    have hk : load ∈ c.loads.keys := Table.mem_keys_iff.2 ⟨_, hl⟩
    simp only [settle, hl]
    refine ⟨⟨?_, ?_, Table.lt_size_insert_of_mem h.numbers hk _⟩, .close hl _ _⟩
    · intro g members hg
      dsimp only at hg
      split at hg
      · rename_i ms hm
        split at hg
        · rcases Table.get?_insert_eq_some_iff.1 hg with ⟨rfl, rfl⟩ | ⟨-, hg⟩
          · exact ⟨a, hm⟩
          · exact h.kept g members hg
        · exact h.kept g members hg
      · exact h.kept g members hg
    · intro n l m hg hr
      rcases Table.get?_insert_eq_some_iff.1 hg with ⟨-, rfl⟩ | ⟨-, hg⟩
      · cases hr
        exact ⟨a, rfl⟩
      · exact h.loads n l m hg hr
  · exact ⟨h, .refl c⟩

theorem IsSourced.invalidate (h : IsSourced c) (group : String) :
    IsSourced (c.invalidate group) ∧ IsLater c (c.invalidate group) := by
  refine ⟨{ h with kept := ?_ }, .refl c⟩
  exact fun g members hg => h.kept g members (kept_invalidate hg).2

end Cache

end Courier.Group
