import Courier.Proofs.Stream.Conserved

/-!
# What a failed settlement leaves

Settling a delivery fails if there is none with the number, which changes nothing, or if it is refused
when the stream is closed, which takes it out of flight. Main statement: nothing else ever makes a
settlement fail, and the deliveries in flight are at every moment as many as were handed out and not
settled, those that a closed stream did not take back among the settled ones.
-/

namespace Courier.EventStream

variable {α β : Type} {s t : EventStream α} {n : Nat} {e : ServiceError}

/-- Only what is not in flight cannot be acknowledged. -/
theorem ack_eq_error_iff :
    s.ack n = (.error e, t) ↔ s.inFlight.get? n = none ∧ e = noDelivery n ∧ t = s := by
  unfold EventStream.ack
  cases hf : s.inFlight.get? n with
  | none =>
      constructor
      · rintro ⟨⟩
        exact ⟨rfl, rfl, rfl⟩
      · rintro ⟨-, rfl, rfl⟩
        rfl
  | some envelope =>
      constructor
      · intro h
        cases h
      · rintro ⟨h, -⟩
        cases h

/-- What is not in flight cannot be refused, nor is it taken back once the stream is closed. -/
theorem nack_eq_error_iff :
    s.nack n = (.error e, t) ↔
      (s.inFlight.get? n = none ∧ e = noDelivery n ∧ t = s) ∨
        ((s.inFlight.get? n).isSome = true ∧ s.isOpen = false ∧ e = closed ∧
          t = { s with inFlight := s.inFlight.erase n }) := by
  cases hf : s.inFlight.get? n with
  | none =>
      have hn : s.nack n = (.error (noDelivery n), s) := by rw [EventStream.nack, hf]
      rw [hn]
      constructor
      · rintro ⟨⟩
        exact .inl ⟨rfl, rfl, rfl⟩
      · rintro (⟨-, rfl, rfl⟩ | ⟨h, -⟩)
        · rfl
        · cases h
  | some envelope =>
      rw [nack_eq hf]
      cases ho : s.isOpen with
      | true =>
          constructor
          · intro h
            rw [if_pos rfl] at h
            split at h <;> cases h
          · rintro (⟨h, -⟩ | ⟨-, h, -⟩) <;> cases h
      | false =>
          rw [if_neg (by simp)]
          constructor
          · rintro ⟨⟩
            exact .inr ⟨rfl, rfl, rfl, rfl⟩
          · rintro (⟨h, -⟩ | ⟨-, -, rfl, rfl⟩)
            · cases h
            · rfl

/-! ### How many are in flight -/

theorem flying_add (g h : Multiset (Place × Envelope β)) : flying (g + h) = flying g + flying h :=
  Multiset.filterMap_add _ _ _

theorem flying_eq_zero {h : Multiset (Place × Envelope β)} (hp : ∀ x ∈ h, ∀ n, x.1 ≠ .flight n) :
    flying h = 0 := by
  induction h using Multiset.induction_on with
  | empty => rfl
  | cons x h ih =>
      rw [flying_cons h x.2 (hp x (Multiset.mem_cons_self _ _))]
      exact ih fun y hy => hp y (Multiset.mem_cons_of_mem hy)

theorem flying_row_eq_zero {place : Nat → Place} (hp : ∀ m n, place m ≠ .flight n)
    (t : Table Nat (Envelope β)) : flying (row place t) = 0 := by
  apply flying_eq_zero
  intro x hx
  obtain ⟨y, -, rfl⟩ := List.mem_map.1 (Multiset.mem_coe.1 hx)
  exact hp y.1

theorem card_flying_row (t : Table Nat (Envelope β)) :
    (flying (row .flight t)).card = t.size := by
  rw [row, Table.size]
  induction t.entries with
  | nil => rfl
  | cons x rest ih =>
      rw [List.map_cons, ← Multiset.cons_coe, flying_cons_flight, Multiset.card_cons, ih]
      rfl

theorem card_flying (s : EventStream β) : (flying (holdings s)).card = s.inFlight.size := by
  have hq : flying (s.queue.map fun e => (Place.queue, e) : Multiset (Place × Envelope β)) = 0 := by
    apply flying_eq_zero
    intro x hx
    obtain ⟨e, -, rfl⟩ := List.mem_map.1 (Multiset.mem_coe.1 hx)
    simp
  calc
    (flying (holdings s)).card = (flying (row .flight s.inFlight)).card := by
      rw [holdings, flying_add, flying_add, flying_add, hq, flying_row_eq_zero (by simp),
        flying_row_eq_zero (by simp), zero_add, zero_add, zero_add]
    _ = s.inFlight.size := card_flying_row _

/-- Whether the deliveries that were handed out are those that were settled and those in flight. -/
structure Ledger.IsBalanced (l : Ledger β) : Prop where
  sound : IsSound l.stream
  handed : (handed l.log : Multiset (Delivery β)) = ↑(settled l.log) + flying (holdings l.stream)

namespace Ledger.IsBalanced

variable {l : Ledger β}

theorem new (capacity delay : Nat) : (Ledger.new capacity delay : Ledger β).IsBalanced where
  sound := .new capacity delay
  handed := rfl

theorem step (h : l.IsBalanced) (a : Act β) : (l.step a).IsBalanced where
  sound := h.sound.after l.log a
  handed := handed_effect h.handed (effect_after l.log h.sound a)

theorem run (h : l.IsBalanced) (acts : List (Act β)) : (l.run acts).IsBalanced := by
  induction acts generalizing l with
  | nil => exact h
  | cons a acts ih => exact ih (h.step a)

theorem size_inFlight (h : l.IsBalanced) :
    l.stream.inFlight.size + (settled l.log).length = (EventStream.handed l.log).length := by
  have hc := congrArg Multiset.card h.handed
  rw [Multiset.card_add, card_flying, Multiset.coe_card, Multiset.coe_card] at hc
  omega

end Ledger.IsBalanced

/-- At every moment of a run on a new stream: a settlement that fails leaves the stream as it was,
except that a closed stream does not take back a delivery that is refused, which is then the only one
that is not in flight any more; and there are as many deliveries in flight as were handed out and not
settled. -/
theorem failed_settlement_after_run (capacity delay : Nat) (acts : List (Act α)) (n : Nat)
    (e : ServiceError) (t : EventStream α) :
    let l := (Ledger.new capacity delay).run acts
    let s := l.stream
    (s.ack n = (.error e, t) ↔ s.inFlight.get? n = none ∧ e = noDelivery n ∧ t = s) ∧
      (s.nack n = (.error e, t) ↔
        (s.inFlight.get? n = none ∧ e = noDelivery n ∧ t = s) ∨
          ((s.inFlight.get? n).isSome = true ∧ s.isOpen = false ∧ e = closed ∧
            t = { s with inFlight := s.inFlight.erase n })) ∧
      s.inFlight.size + (settled l.log).length = (handed l.log).length := by
  intro l s
  have balanced : l.IsBalanced := (Ledger.IsBalanced.new capacity delay).run acts
  exact ⟨ack_eq_error_iff, nack_eq_error_iff, balanced.size_inFlight⟩

/-- A delivery that is refused when the stream is closed is not in flight any more, though it could
not be given back. -/
theorem nack_after_close :
    let s := ((Ledger.new 8 0).run [.publish "a", .take, .close]).stream
    (s.nack 1).1 = .error closed ∧ s.inFlight.size = 1 ∧ (s.nack 1).2.inFlight.size = 0 :=
  ⟨rfl, rfl, rfl⟩

end Courier.EventStream
