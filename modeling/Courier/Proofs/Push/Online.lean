import Courier.Proofs.Push.Apart
import Courier.Proofs.Session.Calls

/-!
# Delivery to sessions

A message for a user is offered to the user's sessions in one pass, which counts the sessions that
take it and those that are full, and keeps all but those that are gone. Main statement: whatever was
done with the registry before, the message comes once to each session that is open, has room and is
not passed over, closed sessions that are not passed over are off the list, nothing else changes for
anybody, and the answer tells the number of sessions that it came to, or why it came to none.
-/

namespace Courier.Registry

/-! ### One pass -/

/-- How far a pass has come: the registry, how many sessions have taken the message, how many were
full, and which stay on the list. -/
structure Pass where
  registry : Registry
  taken : Nat
  full : Nat
  staying : List Session

/-- Offers a message to one more session, with what the earlier ones have taken. -/
def Pass.visit (user : String) (e : Event) (p : Pass) (s : Session) : Pass :=
  match p.registry.offer user e s with
  | .skipped => { p with staying := p.staying ++ [s] }
  | .taken => {
      registry := p.registry.put e [s.number]
      taken := p.taken + 1
      full := p.full
      staying := p.staying ++ [s] }
  | .full => { p with full := p.full + 1, staying := p.staying ++ [s] }
  | .gone => p

/-- Delivers a message in one pass over the sessions of a user. -/
def passOnline (r : Registry) (user : String) (e : Event) :
    Except ServiceError OnlineResult × Registry :=
  let p := (r.sessions user).foldl (Pass.visit user e) ⟨r, 0, 0, []⟩
  let result :=
    if 0 < p.taken then .ok (.delivered p.taken)
    else if 0 < p.full then .error (.serviceUnavailable ("session queues full for " ++ user))
    else .ok .noLiveSession
  (result,
    { p.registry with users := p.registry.users.modify user fun _ => p.staying }.tidy user)

variable {r q : Registry} {user other : String} {e : Event} {s : Session} {n : Nat}

/-- A pass goes through the sessions in turn. -/
theorem foldl_visit (l : List Session) (p : Pass) :
    let offered := (offerInTurn user e l p.registry).1
    l.foldl (Pass.visit user e) p = {
      registry := (offerInTurn user e l p.registry).2
      taken := p.taken + offered.countP fun x => x.2 = .taken
      full := p.full + offered.countP fun x => x.2 = .full
      staying := p.staying ++ (offered.filter fun x => x.2 ≠ .gone).map Prod.fst } := by
  -- a later session is offered the message by the registry that the earlier ones have left, so the
  -- pass so far is any
  induction l generalizing p with
  | nil => simp [offerInTurn]
  | cons s rest ih =>
      rw [List.foldl_cons, ih]
      cases ho : p.registry.offer user e s with
      | skipped => simp [offerInTurn, Pass.visit, ho]
      | taken => simp [offerInTurn, Pass.visit, ho, Nat.add_assoc, Nat.add_comm]
      | full => simp [offerInTurn, Pass.visit, ho, Nat.add_assoc, Nat.add_comm]
      | gone => simp [offerInTurn, Pass.visit, ho]

/-- In a registry of any history, a pass brings what all offers at once do. -/
theorem passOnline_eq (capacity : Nat) (operations : List Operation) (user : String) (e : Event) :
    let r := (new capacity).operateAll operations
    r.passOnline user e = r.pushOnline user e := by
  intro r
  obtain ⟨hoffers, hdeliver⟩ := deliver_eq_offerInTurn capacity operations user e
  have count (o : Offer) : ((offerInTurn user e (r.sessions user) r).1.countP fun x => x.2 = o) =
      (r.offers user e o).length := by
    rw [hoffers o, List.length_map, List.countP_eq_length_filter]
  rw [pushOnline, passOnline, foldl_visit, hdeliver, resultOf]
  simp only [Nat.zero_add, List.nil_append, count]
  rfl

/-! ### What a delivery does -/

/-- Whether a message for a user passes over a session: the user has sent it from the session's
platform. -/
def PassesOver (user : String) (e : Event) (s : Session) : Prop :=
  user = e.sender ∧ e.senderPlatform = some s.platform

/-- Whether a session is open and its inbox has room for a message. -/
def HasRoom (r : Registry) (s : Session) : Prop :=
  ∃ waiting, r.inbox? s.number = some ⟨waiting, true⟩ ∧ waiting.length < r.capacity

/-- Whether a session is open and its inbox is full. -/
def IsFull (r : Registry) (s : Session) : Prop :=
  ∃ waiting, r.inbox? s.number = some ⟨waiting, true⟩ ∧ r.capacity ≤ waiting.length

theorem passedOver_eq_some_iff : passedOver user e = some s.platform ↔ PassesOver user e s := by
  by_cases h : user = e.sender <;> simp [passedOver, PassesOver, h]

theorem offer_of_not_passesOver (h : ¬ PassesOver user e s) :
    (r.offer user e s = .taken ↔ r.HasRoom s) ∧ (r.offer user e s = .full ↔ r.IsFull s) ∧
      (r.offer user e s = .gone ↔ ¬ r.IsOpen s) := by
  rw [offer, if_neg (mt passedOver_eq_some_iff.1 h), HasRoom, IsFull, IsOpen]
  rcases r.inbox? s.number with - | ⟨waiting, - | -⟩
  · simp
  · simp
  · by_cases hw : waiting.length < r.capacity
    · simp [hw]
    · simp [hw, Nat.not_lt.1 hw]

theorem offer_of_passesOver (h : PassesOver user e s) : r.offer user e s = .skipped :=
  if_pos (passedOver_eq_some_iff.2 h)

theorem offer_eq_taken_iff :
    r.offer user e s = .taken ↔ ¬ PassesOver user e s ∧ r.HasRoom s := by
  by_cases h : PassesOver user e s
  · simp [offer_of_passesOver h, h]
  · simp [(offer_of_not_passesOver h).1, h]

theorem offer_eq_full_iff :
    r.offer user e s = .full ↔ ¬ PassesOver user e s ∧ r.IsFull s := by
  by_cases h : PassesOver user e s
  · simp [offer_of_passesOver h, h]
  · simp [(offer_of_not_passesOver h).2.1, h]

theorem offer_ne_gone_iff :
    r.offer user e s ≠ .gone ↔ PassesOver user e s ∨ r.IsOpen s := by
  by_cases h : PassesOver user e s
  · simp [offer_of_passesOver h, h]
  · simp [(offer_of_not_passesOver h).2.2, h]

instance (r q : Registry) (e : Event) (n : Nat) : Decidable (r.Receives q e n) :=
  let received := (r.inbox? n).any fun box => box.isOpen &&
    (q.inbox? n).any fun later => later.isOpen && later.waiting = box.waiting ++ [e]
  decidable_of_iff (received = true) <| by
    simp only [received, Receives]
    rcases r.inbox? n with - | ⟨before, - | -⟩ <;> rcases q.inbox? n with - | ⟨after, - | -⟩ <;>
      simp

/-- The number of a user's sessions that a message has come to between two registries. -/
def reached (r q : Registry) (user : String) (e : Event) : Nat :=
  (r.sessions user).countP fun s => r.Receives q e s.number

/-- Whether a message was delivered to the sessions of a user between two registries, and with what
result. -/
structure IsDelivered (r q : Registry) (user : String) (e : Event)
    (result : Except ServiceError OnlineResult) : Prop where
  /-- The sessions have an inbox each. -/
  numbers : ((r.sessions user).map Session.number).Nodup
  came : ∀ s ∈ r.sessions user, r.Receives q e s.number ↔ ¬ PassesOver user e s ∧ r.HasRoom s
  inboxes : ∀ n, q.inbox? n = r.inbox? n ∨ r.Receives q e n ∧ ∃ s ∈ r.sessions user, s.number = n
  order : (q.sessions user).Sublist (r.sessions user)
  stays : ∀ s ∈ r.sessions user, s ∈ q.sessions user ↔ PassesOver user e s ∨ r.IsOpen s
  others : ∀ other, other ≠ user → q.users.get? other = r.users.get? other ∧
    ∀ s ∈ r.sessions other, q.inbox? s.number = r.inbox? s.number
  rest : q.capacity = r.capacity ∧ q.next = r.next
  delivered : ∀ n, result = .ok (.delivered n) ↔ 0 < n ∧ n = r.reached q user e
  congested : ∀ fault, result = .error fault ↔ r.reached q user e = 0 ∧
    (∃ s ∈ r.sessions user, ¬ PassesOver user e s ∧ r.IsFull s) ∧
      fault = .serviceUnavailable ("session queues full for " ++ user)
  absent : result = .ok .noLiveSession ↔ r.reached q user e = 0 ∧
    ¬ ∃ s ∈ r.sessions user, ¬ PassesOver user e s ∧ r.IsFull s

theorem receives_iff (h : r.IsDistinct) (hs : s ∈ r.sessions user) :
    r.Receives (r.pushOnline user e).2 e s.number ↔ r.offer user e s = .taken := by
  rw [Receives, inbox?_pushOnline, ← takers, ← mem_takers_of_isDistinct h hs]
  constructor
  · rintro ⟨waiting, hw, hq⟩
    -- an inbox that takes nothing has what it had, and that is one message less
    by_contra hn
    rw [hw] at hq
    simp [hn] at hq
  · intro hn
    obtain ⟨waiting, hw⟩ := isOpen_of_taken ((mem_takers_of_isDistinct h hs).1 hn)
    exact ⟨waiting, hw, by simp [hw, hn]⟩

theorem reached_eq (h : r.IsDistinct) :
    r.reached (r.pushOnline user e).2 user e = (r.offers user e .taken).length := by
  rw [reached, offers, ← List.countP_eq_length_filter]
  apply List.countP_congr
  intro s hs
  simp [receives_iff h hs]

theorem exists_isFull_iff :
    (∃ s ∈ r.sessions user, ¬ PassesOver user e s ∧ r.IsFull s) ↔
      0 < (r.offers user e .full).length := by
  simp only [← offer_eq_full_iff, List.length_pos_iff_exists_mem, offers, List.mem_filter,
    decide_eq_true_eq]

/-- What is said of a message tells how many sessions it came to, or why it came to none. -/
theorem resultOf_cases (r : Registry) (user : String) (e : Event) :
    (∀ n, r.resultOf user e = .ok (.delivered n) ↔
        0 < n ∧ n = (r.offers user e .taken).length) ∧
      (∀ fault, r.resultOf user e = .error fault ↔ (r.offers user e .taken).length = 0 ∧
        0 < (r.offers user e .full).length ∧
          fault = .serviceUnavailable ("session queues full for " ++ user)) ∧
      (r.resultOf user e = .ok .noLiveSession ↔ (r.offers user e .taken).length = 0 ∧
        ¬ 0 < (r.offers user e .full).length) := by
  rw [resultOf]
  generalize (r.offers user e .taken).length = taken
  generalize (r.offers user e .full).length = full
  rcases Nat.eq_zero_or_pos taken with rfl | ht
  · have hn : ∀ n, 0 < n → n ≠ 0 := fun n => Nat.ne_of_gt
    rcases Nat.eq_zero_or_pos full with rfl | hf
    · simpa using hn
    · simpa [hf, eq_comm] using hn
  · simp only [if_pos ht, Except.ok.injEq, OnlineResult.delivered.injEq, Nat.ne_of_gt ht,
      reduceCtorEq, false_and, implies_true, and_true]
    exact fun n => ⟨fun h => h ▸ ⟨ht, rfl⟩, fun h => h.2.symm⟩

theorem isDelivered_pushOnline (h : r.IsDistinct) (ho : r.IsOwned) (user : String) (e : Event) :
    r.IsDelivered (r.pushOnline user e).2 user e (r.pushOnline user e).1 := by
  obtain ⟨delivered, congested, absent⟩ := resultOf_cases r user e
  have inbox (n : Nat) (hn : n ∉ r.takers user e) :
      (r.pushOnline user e).2.inbox? n = r.inbox? n := by
    rw [inbox?_pushOnline, ← takers]
    simp [hn]
  constructor
  case numbers => exact h user
  case came =>
    intro s hs
    rw [receives_iff h hs, offer_eq_taken_iff]
  case inboxes =>
    intro n
    by_cases hn : n ∈ r.takers user e
    · obtain ⟨s, hs, hoffer, rfl⟩ := mem_takers_iff.1 hn
      exact .inr ⟨(receives_iff h hs).2 hoffer, s, hs, rfl⟩
    · exact .inl (inbox n hn)
  case order =>
    rw [sessions_pushOnline, if_pos rfl]
    exact List.filter_sublist
  case stays =>
    intro s hs
    rw [sessions_pushOnline, if_pos rfl, List.mem_filter, ← offer_ne_gone_iff]
    simp [hs]
  case others =>
    intro other hu
    refine ⟨?_, fun s hs => inbox s.number fun hn => ?_⟩
    · rw [pushOnline, get?_users_tidy _ hu, get?_users_deliver r hu]
    · obtain ⟨t, ht, -, he⟩ := mem_takers_iff.1 hn
      exact hu (ho.owner other user s hs t ht he.symm)
  case rest => exact ⟨rfl, rfl⟩
  case delivered =>
    rw [reached_eq h]
    exact delivered
  case congested =>
    rw [reached_eq h, exists_isFull_iff]
    exact congested
  case absent =>
    rw [reached_eq h, exists_isFull_iff]
    exact absent

/-- Whatever was done with a registry, a message for a user is delivered in one pass: it comes once,
and last, to those sessions of the user that are open, have room and are not passed over; those that
are closed and not passed over are off the list; the others stay there in their order, and nothing
else changes, for this user or another. The result is the number of sessions that it came to, or
that a session was full, or that there was none. -/
theorem delivered_after_run (capacity : Nat) (operations : List Operation) (user : String)
    (e : Event) :
    let r := (new capacity).operateAll operations
    let (result, q) := r.pushOnline user e
    r.passOnline user e = (result, q) ∧ r.IsDelivered q user e result := by
  intro r
  exact ⟨passOnline_eq capacity operations user e, isDelivered_pushOnline
    ((IsDistinct.new capacity).operateAll (.new capacity) operations)
    ((IsOwned.new capacity).operateAll operations) user e⟩

/-- Of a session that is full, one with room, a closed one and a closed one that is passed over, the
second gets the message and the third is off the list. -/
example :
    let e : Event := ⟨"", "a", some 1, .direct "b", [], true, 0⟩
    let r := (new 1).operateAll [.connect "a" 0, .deliver "a" e, .connect "a" 0, .connect "a" 0,
      .hangUp 3, .connect "a" 1, .hangUp 4]
    let (result, q) := r.pushOnline "a" e
    result.toOption = some (.delivered 1) ∧ (q.sessions "a").map Session.number = [1, 2, 4] := by
  decide

end Courier.Registry
