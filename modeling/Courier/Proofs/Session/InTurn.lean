import Courier.Proofs.Session.Owned

/-!
# Sessions in turn

A message for a user can be offered to the user's sessions one after the other, so that a session
is asked when the earlier ones have the message already. Main statement: whatever was done with a
registry before, that is the same as to offer it to all of them at once, because the sessions of a
user have different numbers. No inbox can therefore get the message twice.
-/

namespace Courier.Registry

/-- Puts a message last in the inboxes with certain numbers. -/
def put (r : Registry) (e : Event) (numbers : List Nat) : Registry :=
  { r with
    inboxes := r.inboxes.mapValues fun number box =>
      if number ∈ numbers then { box with waiting := box.waiting ++ [e] } else box }

/-- Offers a message to sessions, one after the other, and tells what becomes of it at each. -/
def offerInTurn (user : String) (e : Event) :
    List Session → Registry → List (Session × Offer) × Registry
  | [], r => ([], r)
  | s :: rest, r =>
    let o := r.offer user e s
    let (later, t) := offerInTurn user e rest (if o = .taken then r.put e [s.number] else r)
    ((s, o) :: later, t)

variable {r : Registry} {user : String} {e : Event}

theorem put_nil : r.put e [] = r := by
  have h : (r.put e []).inboxes = r.inboxes := by
    apply Table.ext
    simp [put, Table.entries_mapValues]
  exact congrArg (fun inboxes => { r with inboxes }) h

theorem put_put {number : Nat} {numbers : List Nat} (h : number ∉ numbers) :
    (r.put e [number]).put e numbers = r.put e (number :: numbers) := by
  simp only [put]
  congr 1
  apply Table.ext
  simp only [Table.entries_mapValues, List.map_map]
  apply List.map_congr_left
  rintro ⟨n, box⟩ -
  by_cases hn : n = number
  · simp [hn, h]
  · simp [hn]

/-- A message in another inbox makes no difference to a session. -/
theorem offer_put {s : Session} {numbers : List Nat} (h : s.number ∉ numbers) :
    (r.put e numbers).offer user e s = r.offer user e s := by
  have hi : (r.put e numbers).inbox? s.number = r.inbox? s.number := by
    simp [put, inbox?, h]
  simp only [offer, hi]
  rfl

/-- Sessions with different numbers fare in turn as they would at once. -/
theorem offerInTurn_eq {l : List Session} (h : (l.map Session.number).Nodup) :
    offerInTurn user e l r = (l.map fun s => (s, r.offer user e s),
      r.put e ((l.filter fun s => r.offer user e s = .taken).map Session.number)) := by
  induction l generalizing r with
  | nil => simp [offerInTurn, put_nil]
  | cons s rest ih =>
      rw [List.map_cons, List.nodup_cons] at h
      obtain ⟨hs, hrest⟩ := h
      by_cases ho : r.offer user e s = .taken
      · -- the later sessions have other numbers and do not notice what this one took
        have later : ∀ t ∈ rest, (r.put e [s.number]).offer user e t = r.offer user e t := by
          intro t ht
          apply offer_put
          intro hn
          exact hs (List.mem_singleton.1 hn ▸ List.mem_map_of_mem ht)
        have hfilter : (rest.filter fun t => (r.put e [s.number]).offer user e t = .taken) =
            rest.filter fun t => r.offer user e t = .taken :=
          List.filter_congr fun t ht => by rw [later t ht]
        have hmap : (rest.map fun t => (t, (r.put e [s.number]).offer user e t)) =
            rest.map fun t => (t, r.offer user e t) :=
          List.map_congr_left fun t ht => by rw [later t ht]
        have hn : s.number ∉ (rest.filter fun t => r.offer user e t = .taken).map Session.number :=
          fun hm => hs ((List.filter_sublist.map _).subset hm)
        rw [offerInTurn, if_pos ho, ih hrest, hfilter, hmap, put_put hn]
        simp [ho]
      · rw [offerInTurn, if_neg ho, ih hrest]
        simp [ho]

/-- Whether the sessions of each user have different numbers. -/
def IsDistinct (r : Registry) : Prop :=
  ∀ user, ((r.sessions user).map Session.number).Nodup

theorem IsDistinct.new (capacity : Nat) : IsDistinct (new capacity) := by
  intro user
  simp [Registry.new, sessions]

/-- A new session has a number that no other has. -/
theorem IsDistinct.connect (h : r.IsDistinct) (ho : r.IsOwned) (user : String) (platform : Int32) :
    (r.connect user platform).2.IsDistinct := by
  intro other
  rw [sessions_connect]
  split
  · rw [List.map_append, List.nodup_append]
    refine ⟨h user, by simp, ?_⟩
    rintro n hn m hm rfl
    obtain ⟨s, hs, rfl⟩ := List.mem_map.1 hn
    have hlt := ho.numbers user s hs
    have : s.number = r.next := by simpa using hm
    omega
  · exact h other

theorem IsDistinct.operateAll (h : r.IsDistinct) (ho : r.IsOwned) (operations : List Operation) :
    (r.operateAll operations).IsDistinct := by
  induction operations generalizing r with
  | nil => exact h
  | cons o operations ih =>
      refine ih ?_ (ho.operate o)
      by_cases hc : ∃ u p, o = .connect u p
      · obtain ⟨u, p, rfl⟩ := hc
        exact h.connect ho u p
      · intro user
        have hs := r.sessions_operate_sublist (fun u p hp => hc ⟨u, p, hp⟩) user
        exact (h user).sublist (hs.map _)

/-- A delivery offers the message to the user's sessions in turn, and then takes off the list those
that it found gone. -/
theorem deliver_eq_offerInTurn (capacity : Nat) (operations : List Operation) (user : String)
    (e : Event) :
    let r := (Registry.new capacity).operateAll operations
    let (offered, t) := offerInTurn user e (r.sessions user) r
    (∀ o, r.offers user e o = (offered.filter fun x => x.2 = o).map Prod.fst) ∧
      r.deliver user e = { t with
        users := t.users.modify user fun _ =>
          (offered.filter fun x => x.2 ≠ .gone).map Prod.fst } := by
  intro r
  have distinct : r.IsDistinct := (IsDistinct.new capacity).operateAll (.new capacity) operations
  rw [offerInTurn_eq (distinct user)]
  constructor
  · intro o
    simp [offers, List.filter_map, Function.comp_def]
  · have hl : ∀ list, r.users.get? user = some list → r.sessions user = list := by
      intro list hl
      rw [sessions, hl]
      rfl
    rw [deliver, Table.modify_congr fun list h => ?_]
    · rfl
    · rw [hl list h]
      simp [List.filter_map, Function.comp_def]

end Courier.Registry
