import Courier.Proofs.Table
import Courier.Stream.Queue
import Mathlib.Algebra.Order.Group.Multiset
import Mathlib.Tactic.Abel

/-!
# The ledger of a stream

Any number of callers act on a stream, in any order; between their calls messages come back from
their time away and go from the line into the queue. A ledger notes what came of each act. All that
an act can do is to bring one message in, to move one from place to place, or to take one out.
-/

namespace Courier.EventStream

variable {α : Type}

/-- A call on a stream, or what a stream does in the background. -/
inductive Act (α : Type) where
  | publish (payload : α)
  /-- A publisher no longer waits for its message to get out of the line. -/
  | giveUp (ticket : Nat)
  | take
  | letIn (ticket : Nat)
  | ack (number : Nat)
  | nack (number : Nat)
  | comeBack (ticket : Nat)
  | close
  deriving DecidableEq, Repr

/-- What comes of an act. -/
inductive Note (α : Type) where
  /-- A publish has ended: its message is in the queue. -/
  | published (payload : α)
  /-- A publisher waits: its message is in line. -/
  | waits (ticket : Nat) (payload : α)
  | handed (d : Delivery α)
  | acked (d : Delivery α)
  | nacked (d : Delivery α)
  /-- A delivery was refused when the stream was closed. -/
  | dropped (d : Delivery α)
  | closed
  /-- The act failed, or moved a message that was delivered before. -/
  | other
  deriving DecidableEq, Repr

/-- The delivery that is in flight under a number. -/
def delivery? (s : EventStream α) (number : Nat) : Option (Delivery α) :=
  (s.inFlight.get? number).map fun e => ⟨number, e.attempt, e.payload⟩

/-- The tickets under which publishers wait or have waited. -/
def tickets (log : List (Note α)) : List Nat :=
  log.filterMap fun
    | .waits ticket _ => some ticket
    | _ => none

/-- Carries out an act, after those that were noted. Only a publisher gives up its ticket. -/
def after (log : List (Note α)) (s : EventStream α) : Act α → EventStream α
  | .publish payload => (s.publish payload).2
  | .giveUp ticket => if ticket ∈ tickets log then s.withdraw ticket else s
  | .take => (s.take?.map Prod.snd).getD s
  | .letIn ticket => s.letInOne ticket
  | .ack number => (s.ack number).2
  | .nack number => (s.nack number).2
  | .comeBack ticket => s.comeBack ticket
  | .close => s.close

/-- What is noted of an act. -/
def note (log : List (Note α)) (s : EventStream α) : Act α → Note α
  | .publish payload =>
    match (s.publish payload).1 with
    | .ok none => .published payload
    | .ok (some ticket) => .waits ticket payload
    | .error _ => .other
  | .take =>
    match s.take? with
    | some (d, _) => .handed d
    | none => .other
  | .letIn ticket =>
    match s.line.get? ticket with
    | some e =>
      if ticket ∈ tickets log ∧ s.queue.length < s.capacity then .published e.payload else .other
    | none => .other
  | .ack number =>
    match (s.ack number).1, s.delivery? number with
    | .ok _, some d => .acked d
    | _, _ => .other
  | .nack number =>
    match (s.nack number).1, s.delivery? number with
    | .ok _, some d => .nacked d
    | .error _, some d => .dropped d
    | _, none => .other
  | .close => .closed
  | .giveUp _ | .comeBack _ => .other

/-- A stream and the notes of all acts on it. -/
structure Ledger (α : Type) where
  log : List (Note α)
  stream : EventStream α

/-- Carries out an act and notes what came of it. -/
def Ledger.step (l : Ledger α) (a : Act α) : Ledger α :=
  ⟨l.log ++ [note l.log l.stream a], after l.log l.stream a⟩

/-- Carries out acts in order. -/
def Ledger.run (l : Ledger α) (acts : List (Act α)) : Ledger α :=
  acts.foldl Ledger.step l

/-- Where a stream keeps a message. -/
inductive Place where
  | queue
  | line (ticket : Nat)
  | away (ticket : Nat)
  | flight (number : Nat)
  deriving DecidableEq, Repr

/-- The messages in a table, each with its place. -/
def row (place : Nat → Place) (t : Table Nat (Envelope α)) : Multiset (Place × Envelope α) :=
  ↑(t.entries.map fun x => (place x.1, x.2))

/-- All messages that a stream keeps, each with its place. -/
def holdings (s : EventStream α) : Multiset (Place × Envelope α) :=
  ↑(s.queue.map fun e => (Place.queue, e)) + row .line s.line + row .away s.away +
    row .flight s.inFlight

theorem row_insert (place : Nat → Place) {t : Table Nat (Envelope α)} {n : Nat} (h : n ∉ t.keys)
    (e : Envelope α) : row place (t.insert n e) = (place n, e) ::ₘ row place t := by
  simp only [row, Table.entries_insert_of_notMem h, List.map_append, ← Multiset.coe_add,
    ← Multiset.singleton_add]
  exact add_comm _ _

theorem row_erase (place : Nat → Place) {t : Table Nat (Envelope α)} {n : Nat} {e : Envelope α}
    (h : t.get? n = some e) : row place t = (place n, e) ::ₘ row place (t.erase n) := by
  simp only [row, Multiset.cons_coe, Multiset.coe_eq_coe]
  exact (Table.perm_erase h).map _

/-- Whether the bounds and the counters of a stream are kept. -/
structure IsSound (s : EventStream α) : Prop where
  fits : s.queue.length ≤ s.capacity
  line : ∀ n ∈ s.line.keys, n < s.ticket
  away : ∀ n ∈ s.away.keys, n < s.ticket
  flight : ∀ n ∈ s.inFlight.keys, n < s.next

namespace IsSound

theorem new (capacity delay : Nat) : IsSound (.new capacity delay : EventStream α) where
  fits := Nat.zero_le _
  line := by simp [EventStream.new, Table.mem_keys_iff]
  away := by simp [EventStream.new, Table.mem_keys_iff]
  flight := by simp [EventStream.new, Table.mem_keys_iff]

variable {s : EventStream α} (h : IsSound s)

include h

theorem withdraw (n : Nat) : IsSound (s.withdraw n) :=
  { h with line := fun k hk => h.line k (Table.mem_keys_of_mem_erase hk) }

theorem eraseFlight (n : Nat) : IsSound { s with inFlight := s.inFlight.erase n } :=
  { h with flight := fun k hk => h.flight k (Table.mem_keys_of_mem_erase hk) }

theorem eraseAway (n : Nat) : IsSound { s with away := s.away.erase n } :=
  { h with away := fun k hk => h.away k (Table.mem_keys_of_mem_erase hk) }

theorem sendAway (e : Envelope α) :
    IsSound { s with away := s.away.insert s.ticket e, ticket := s.ticket + 1 } where
  fits := h.fits
  line k hk := Nat.lt_succ_of_lt (h.line k hk)
  away k hk := by
    rcases Table.mem_keys_insert_iff.1 hk with rfl | hk
    · exact Nat.lt_succ_self _
    · exact Nat.lt_succ_of_lt (h.away k hk)
  flight := h.flight

theorem enter (e : Envelope α) : IsSound (s.enter e) := by
  unfold EventStream.enter
  split
  · rename_i hr
    have : s.queue.length < s.capacity := by
      simp only [hasRoom, Bool.and_eq_true, decide_eq_true_eq] at hr
      exact hr.2
    exact { h with fits := by simpa using Nat.succ_le_of_lt this }
  · exact {
      fits := h.fits
      line := by
        intro k hk
        rcases Table.mem_keys_insert_iff.1 hk with rfl | hk
        · exact Nat.lt_succ_self _
        · exact Nat.lt_succ_of_lt (h.line k hk)
      away := fun k hk => Nat.lt_succ_of_lt (h.away k hk)
      flight := h.flight }

theorem letInOne (n : Nat) : IsSound (s.letInOne n) := by
  unfold EventStream.letInOne
  split
  · exact h
  · split
    · exact {
        fits := by simpa using Nat.succ_le_of_lt ‹_›
        line := fun k hk => h.line k (Table.mem_keys_of_mem_erase hk)
        away := h.away
        flight := h.flight }
    · exact h

theorem publish (payload : α) : IsSound (s.publish payload).2 := by
  unfold EventStream.publish
  split
  · exact h
  · exact h.enter _

theorem take {d : Delivery α} {t : EventStream α} (ht : s.take? = some (d, t)) : IsSound t := by
  unfold take? at ht
  split at ht
  · cases ht
  · cases ht
    rename_i e rest hq
    exact {
      fits := by
        have := h.fits
        simp only [hq, List.length_cons] at this
        exact Nat.le_of_succ_le this
      line := h.line
      away := h.away
      flight := by
        intro k hk
        rcases Table.mem_keys_insert_iff.1 hk with rfl | hk
        · exact Nat.lt_succ_self _
        · exact Nat.lt_succ_of_lt (h.flight k hk) }

theorem ack (n : Nat) : IsSound (s.ack n).2 := by
  unfold EventStream.ack
  split
  · exact h
  · exact h.eraseFlight n

theorem nack (n : Nat) : IsSound (s.nack n).2 := by
  unfold EventStream.nack
  split
  · exact h
  · have he := h.eraseFlight n
    dsimp only
    split
    · exact he
    · split
      · exact he.enter _
      · exact he.sendAway _

theorem comeBack (n : Nat) : IsSound (s.comeBack n) := by
  unfold EventStream.comeBack
  split
  · exact h
  · exact (h.eraseAway n).enter _

theorem after (log : List (Note α)) (a : Act α) : IsSound (after log s a) := by
  cases a with
  | publish payload => exact h.publish payload
  | giveUp n =>
      simp only [EventStream.after]
      split
      · exact h.withdraw n
      · exact h
  | take =>
      simp only [EventStream.after]
      cases ht : s.take? with
      | none => exact h
      | some r => exact h.take ht
  | letIn n => exact h.letInOne n
  | ack n => exact h.ack n
  | nack n => exact h.nack n
  | comeBack n => exact h.comeBack n
  | close => exact { h with }

end IsSound

/-- Where a message goes that enters. -/
def entrance (s : EventStream α) : Place :=
  if s.hasRoom then .queue else .line s.ticket

section Holdings

variable (s : EventStream α) {n : Nat} {e : Envelope α}

theorem holdings_push (e : Envelope α) :
    holdings { s with queue := s.queue ++ [e] } = (.queue, e) ::ₘ holdings s := by
  simp only [holdings, List.map_append, List.map_singleton, ← Multiset.coe_add,
    Multiset.coe_singleton, ← Multiset.singleton_add]
  abel

theorem holdings_pop {rest : List (Envelope α)} (h : s.queue = e :: rest) :
    holdings s = (.queue, e) ::ₘ holdings { s with queue := rest } := by
  simp only [holdings, h, List.map_cons, ← Multiset.cons_coe, ← Multiset.singleton_add]
  abel

theorem holdings_eraseLine (h : s.line.get? n = some e) :
    holdings s = (.line n, e) ::ₘ holdings { s with line := s.line.erase n } := by
  simp only [holdings, row_erase .line h, ← Multiset.singleton_add]
  abel

theorem holdings_eraseAway (h : s.away.get? n = some e) :
    holdings s = (.away n, e) ::ₘ holdings { s with away := s.away.erase n } := by
  simp only [holdings, row_erase .away h, ← Multiset.singleton_add]
  abel

theorem holdings_eraseFlight (h : s.inFlight.get? n = some e) :
    holdings s = (.flight n, e) ::ₘ holdings { s with inFlight := s.inFlight.erase n } := by
  simp only [holdings, row_erase .flight h, ← Multiset.singleton_add]
  abel

variable {s} (hs : IsSound s)

include hs

theorem holdings_enter (e : Envelope α) :
    holdings (s.enter e) = (s.entrance, e) ::ₘ holdings s := by
  by_cases h : s.hasRoom
  · rw [enter, if_pos h, entrance, if_pos h, holdings_push]
  · have hk : s.ticket ∉ s.line.keys := fun hk => Nat.lt_irrefl _ (hs.line _ hk)
    rw [enter, if_neg h, entrance, if_neg h]
    simp only [holdings, row_insert .line hk, ← Multiset.singleton_add]
    abel

theorem holdings_sendAway (e : Envelope α) :
    holdings { s with away := s.away.insert s.ticket e, ticket := s.ticket + 1 } =
      (.away s.ticket, e) ::ₘ holdings s := by
  have hk : s.ticket ∉ s.away.keys := fun hk => Nat.lt_irrefl _ (hs.away _ hk)
  simp only [holdings, row_insert .away hk, ← Multiset.singleton_add]
  abel

theorem holdings_handOut (e : Envelope α) :
    holdings { s with inFlight := s.inFlight.insert s.next e, next := s.next + 1 } =
      (.flight s.next, e) ::ₘ holdings s := by
  have hk : s.next ∉ s.inFlight.keys := fun hk => Nat.lt_irrefl _ (hs.flight _ hk)
  simp only [holdings, row_insert .flight hk, ← Multiset.singleton_add]
  abel

end Holdings

/-- All that an act can do to the messages of a stream: bring one in, move one or take one out. -/
inductive Effect (log : List (Note α)) (s t : EventStream α) (a : Act α) : Note α → Prop where
  | publish (payload : α) :
    a = .publish payload →
    holdings t = (.queue, ⟨1, payload⟩) ::ₘ holdings s → t.next = s.next →
    Effect log s t a (.published payload)
  | wait (payload : α) :
    a = .publish payload →
    holdings t = (.line s.ticket, ⟨1, payload⟩) ::ₘ holdings s → t.next = s.next →
    s.ticket < t.ticket → Effect log s t a (.waits s.ticket payload)
  | giveUp (n : Nat) (e : Envelope α) :
    n ∈ tickets log → holdings s = (.line n, e) ::ₘ holdings t → t.next = s.next →
    Effect log s t a .other
  | letIn (n : Nat) (e : Envelope α) (rest) :
    n ∈ tickets log → holdings s = (.line n, e) ::ₘ rest → holdings t = (.queue, e) ::ₘ rest →
    t.next = s.next → Effect log s t a (.published e.payload)
  | move (p q : Place) (e : Envelope α) (rest) :
    ((∃ n, n ∉ tickets log ∧ p = .line n) ∨ ∃ n, p = .away n) →
    (q = .queue ∨ q = .line s.ticket) → holdings s = (p, e) ::ₘ rest →
    holdings t = (q, e) ::ₘ rest → t.next = s.next → Effect log s t a .other
  | hand (e : Envelope α) (rest) :
    holdings s = (.queue, e) ::ₘ rest → holdings t = (.flight s.next, e) ::ₘ rest →
    t.next = s.next + 1 → Effect log s t a (.handed ⟨s.next, e.attempt, e.payload⟩)
  | ack (n : Nat) (e : Envelope α) :
    holdings s = (.flight n, e) ::ₘ holdings t → t.next = s.next →
    Effect log s t a (.acked ⟨n, e.attempt, e.payload⟩)
  | nack (n : Nat) (e : Envelope α) (q : Place) (rest) :
    s.isOpen = true → (q = .queue ∨ q = .line s.ticket ∨ q = .away s.ticket) →
    holdings s = (.flight n, e) ::ₘ rest →
    holdings t = (q, { e with attempt := e.attempt + 1 }) ::ₘ rest → t.next = s.next →
    Effect log s t a (.nacked ⟨n, e.attempt, e.payload⟩)
  | drop (n : Nat) (e : Envelope α) :
    s.isOpen = false → holdings s = (.flight n, e) ::ₘ holdings t → t.next = s.next →
    Effect log s t a (.dropped ⟨n, e.attempt, e.payload⟩)
  | close : holdings t = holdings s → t.next = s.next → Effect log s t a .closed
  | other : t = s → Effect log s t a .other

/-- Whether what an act does to a stream, and what is noted of it, is one of the effects. -/
abbrev HasEffect (log : List (Note α)) (s : EventStream α) (a : Act α) : Prop :=
  Effect log s (after log s a) a (note log s a)

section Effect

variable (log : List (Note α)) {s : EventStream α} (hs : IsSound s)

theorem entrance_cases (s : EventStream α) : s.entrance = .queue ∨ s.entrance = .line s.ticket := by
  unfold entrance
  split
  · exact .inl rfl
  · exact .inr rfl

@[simp] theorem enter_next (s : EventStream α) (e : Envelope α) : (s.enter e).next = s.next := by
  unfold enter
  split <;> rfl

/-- What comes of refusing a delivery that is in flight. -/
theorem nack_eq {n : Nat} {e : Envelope α} (hf : s.inFlight.get? n = some e) :
    s.nack n =
      if s.isOpen then
        if s.delay = 0 then
          (.ok none, enter { s with inFlight := s.inFlight.erase n }
            { e with attempt := e.attempt + 1 })
        else
          (.ok (some s.ticket), { s with
            inFlight := s.inFlight.erase n
            away := s.away.insert s.ticket { e with attempt := e.attempt + 1 }
            ticket := s.ticket + 1 })
      else (.error closed, { s with inFlight := s.inFlight.erase n }) := by
  unfold EventStream.nack
  rw [hf]
  cases s.isOpen <;> simp

include hs

theorem effect_publish (payload : α) : HasEffect log s (.publish payload) := by
  cases ho : s.isOpen with
  | false =>
      have hp : s.publish payload = (.error closed, s) := by simp [EventStream.publish, ho]
      simp only [HasEffect, after, note, hp]
      exact .other rfl
  | true =>
      have hh := holdings_enter hs ⟨1, payload⟩
      by_cases hr : s.hasRoom
      · have hp : s.publish payload = (.ok none, s.enter ⟨1, payload⟩) := by
          simp [EventStream.publish, ho, hr]
        rw [entrance, if_pos hr] at hh
        simp only [HasEffect, after, note, hp]
        exact .publish payload rfl hh (enter_next _ _)
      · have hp : s.publish payload = (.ok (some s.ticket), s.enter ⟨1, payload⟩) := by
          simp [EventStream.publish, ho, hr]
        have ht : s.ticket < (s.enter ⟨1, payload⟩).ticket := by
          rw [enter, if_neg hr]
          exact Nat.lt_succ_self _
        rw [entrance, if_neg hr] at hh
        simp only [HasEffect, after, note, hp]
        exact .wait payload rfl hh (enter_next _ _) ht

omit hs in
theorem effect_giveUp (n : Nat) : HasEffect log s (.giveUp n) := by
  by_cases hn : n ∈ tickets log
  · simp only [HasEffect, after, note, if_pos hn]
    cases hl : s.line.get? n with
    | some e => exact .giveUp n e hn (holdings_eraseLine s hl) rfl
    | none =>
        apply Effect.other
        rw [withdraw, Table.erase_of_get?_eq_none hl]
  · simp only [HasEffect, after, note, if_neg hn]
    exact .other rfl

theorem effect_take : HasEffect log s .take := by
  cases hq : s.queue with
  | nil =>
      have ht : s.take? = none := by rw [take?, hq]
      simp only [HasEffect, after, note, ht]
      exact .other rfl
  | cons e rest =>
      have ht : s.take? = some (⟨s.next, e.attempt, e.payload⟩, { s with
          queue := rest, inFlight := s.inFlight.insert s.next e, next := s.next + 1 }) := by
        rw [take?, hq]
      have hr : IsSound { s with queue := rest } := by
        refine { hs with fits := ?_ }
        have := hs.fits
        simp only [hq, List.length_cons] at this
        exact Nat.le_of_succ_le this
      simp only [HasEffect, after, note, ht]
      exact .hand e _ (holdings_pop s hq) (holdings_handOut hr e) rfl

omit hs in
theorem effect_letIn (n : Nat) : HasEffect log s (.letIn n) := by
  cases hl : s.line.get? n with
  | none =>
      simp only [HasEffect, after, note, letInOne, hl]
      exact .other rfl
  | some e =>
      by_cases hc : s.queue.length < s.capacity
      · have he := holdings_eraseLine s hl
        have hp := holdings_push { s with line := s.line.erase n } e
        by_cases hn : n ∈ tickets log
        · simp only [HasEffect, after, note, letInOne, hl, if_pos hc, if_pos (And.intro hn hc)]
          exact .letIn n e _ hn he hp rfl
        · simp only [HasEffect, after, note, letInOne, hl, if_pos hc,
            if_neg (fun h : n ∈ tickets log ∧ _ => hn h.1)]
          exact .move _ _ e _ (.inl ⟨n, hn, rfl⟩) (.inl rfl) he hp rfl
      · simp only [HasEffect, after, note, letInOne, hl, if_neg hc,
          if_neg (fun h : n ∈ tickets log ∧ _ => hc h.2)]
        exact .other rfl

omit hs in
theorem effect_ack (n : Nat) : HasEffect log s (.ack n) := by
  cases hf : s.inFlight.get? n with
  | none =>
      simp only [HasEffect, after, note, EventStream.ack, hf]
      exact .other rfl
  | some e =>
      simp only [HasEffect, after, note, EventStream.ack, delivery?, hf, Option.map_some]
      exact .ack n e (holdings_eraseFlight s hf) rfl

theorem effect_nack (n : Nat) : HasEffect log s (.nack n) := by
  cases hf : s.inFlight.get? n with
  | none =>
      simp only [HasEffect, after, note, EventStream.nack, delivery?, hf, Option.map_none]
      exact .other rfl
  | some e =>
      have he := holdings_eraseFlight s hf
      have hk := hs.eraseFlight n
      have hd : s.delivery? n = some ⟨n, e.attempt, e.payload⟩ := by rw [delivery?, hf]; rfl
      cases ho : s.isOpen with
      | false =>
          have hn := nack_eq hf
          rw [if_neg (by simp [ho])] at hn
          simp only [HasEffect, after, note, hn, hd]
          exact .drop n e ho he rfl
      | true =>
          have hn := nack_eq hf
          rw [if_pos ho] at hn
          by_cases hz : s.delay = 0
          · rw [if_pos hz] at hn
            have hb := entrance_cases { s with inFlight := s.inFlight.erase n }
            simp only [HasEffect, after, note, hn, hd]
            refine .nack n e _ _ ho ?_ he (holdings_enter hk _) (enter_next _ _)
            exact hb.imp_right .inl
          · rw [if_neg hz] at hn
            simp only [HasEffect, after, note, hn, hd]
            exact .nack n e _ _ ho (.inr (.inr rfl)) he (holdings_sendAway hk _) rfl

theorem effect_comeBack (n : Nat) : HasEffect log s (.comeBack n) := by
  cases ha : s.away.get? n with
  | none =>
      simp only [HasEffect, after, note, EventStream.comeBack, ha]
      exact .other rfl
  | some e =>
      simp only [HasEffect, after, note, EventStream.comeBack, ha]
      exact .move _ _ e _ (.inr ⟨n, rfl⟩) (entrance_cases { s with away := s.away.erase n })
        (holdings_eraseAway s ha) (holdings_enter (hs.eraseAway n) e) (enter_next _ _)

/-- Every act has one of the effects. -/
theorem effect_after (a : Act α) : HasEffect log s a := by
  cases a with
  | publish payload => exact effect_publish log hs payload
  | giveUp n => exact effect_giveUp log n
  | take => exact effect_take log hs
  | letIn n => exact effect_letIn log n
  | ack n => exact effect_ack log n
  | nack n => exact effect_nack log hs n
  | comeBack n => exact effect_comeBack log hs n
  | close => exact .close rfl rfl

end Effect

/-- What no act but closing changes, and the tickets, which only go up. -/
structure IsLater (s t : EventStream α) : Prop where
  capacity : t.capacity = s.capacity
  isOpen : t.isOpen = s.isOpen
  ticket : s.ticket ≤ t.ticket

theorem isLater_enter (s : EventStream α) (e : Envelope α) : IsLater s (s.enter e) := by
  unfold enter
  split
  · exact ⟨rfl, rfl, Nat.le_refl _⟩
  · exact ⟨rfl, rfl, Nat.le_succ _⟩

theorem isLater_nack (s : EventStream α) (n : Nat) : IsLater s (s.nack n).2 := by
  unfold EventStream.nack
  split
  · exact ⟨rfl, rfl, Nat.le_refl _⟩
  · dsimp only
    split
    · exact ⟨rfl, rfl, Nat.le_refl _⟩
    · split
      · exact { isLater_enter { s with inFlight := s.inFlight.erase n } _ with }
      · exact ⟨rfl, rfl, Nat.le_succ _⟩

theorem isLater_after (log : List (Note α)) (s : EventStream α) {a : Act α} (h : a ≠ .close) :
    IsLater s (after log s a) := by
  cases a with
  | publish payload =>
      simp only [after, EventStream.publish]
      split
      · exact ⟨rfl, rfl, Nat.le_refl _⟩
      · exact isLater_enter s _
  | giveUp n =>
      simp only [after]
      split <;> exact ⟨rfl, rfl, Nat.le_refl _⟩
  | take =>
      simp only [after, take?]
      split <;> exact ⟨rfl, rfl, Nat.le_refl _⟩
  | letIn n =>
      simp only [after, letInOne]
      split
      · exact ⟨rfl, rfl, Nat.le_refl _⟩
      · split <;> exact ⟨rfl, rfl, Nat.le_refl _⟩
  | ack n =>
      simp only [after, EventStream.ack]
      split <;> exact ⟨rfl, rfl, Nat.le_refl _⟩
  | nack n => exact isLater_nack s n
  | comeBack n =>
      simp only [after, EventStream.comeBack]
      split
      · exact ⟨rfl, rfl, Nat.le_refl _⟩
      · exact { isLater_enter { s with away := s.away.erase n } _ with }
  | close => exact absurd rfl h

/-- The delivery that an act settles. -/
def Act.number? : Act α → Option Nat
  | .ack n | .nack n => some n
  | _ => none

@[simp] theorem enter_inFlight (s : EventStream α) (e : Envelope α) :
    (s.enter e).inFlight = s.inFlight := by
  unfold enter
  split <;> rfl

/-- Without taking a message, the deliveries in flight change by settling one only. -/
theorem inFlight_after (log : List (Note α)) (s : EventStream α) {a : Act α} (h : a ≠ .take) :
    (after log s a).next = s.next ∧ (after log s a).inFlight =
      match a.number? with
      | some n => s.inFlight.erase n
      | none => s.inFlight := by
  cases a with
  | publish payload =>
      simp only [after, EventStream.publish, Act.number?]
      split <;> simp
  | giveUp n =>
      simp only [after, Act.number?]
      split <;> exact ⟨rfl, rfl⟩
  | take => exact absurd rfl h
  | letIn n =>
      simp only [after, letInOne, Act.number?]
      split
      · exact ⟨rfl, rfl⟩
      · split <;> exact ⟨rfl, rfl⟩
  | ack n =>
      simp only [after, EventStream.ack, Act.number?]
      cases hf : s.inFlight.get? n with
      | none => exact ⟨rfl, (Table.erase_of_get?_eq_none hf).symm⟩
      | some e => exact ⟨rfl, rfl⟩
  | nack n =>
      simp only [after, Act.number?]
      cases hf : s.inFlight.get? n with
      | none =>
          rw [EventStream.nack, hf]
          exact ⟨rfl, (Table.erase_of_get?_eq_none hf).symm⟩
      | some e =>
          rw [nack_eq hf]
          split
          · split <;> simp
          · exact ⟨rfl, rfl⟩
  | comeBack n =>
      simp only [after, EventStream.comeBack, Act.number?]
      split <;> simp
  | close => exact ⟨rfl, rfl⟩

theorem eq_take_of_note (log : List (Note α)) (s : EventStream α) {a : Act α} {d : Delivery α}
    (h : note log s a = .handed d) : a = .take := by
  cases a with
  | take => rfl
  | publish payload =>
      simp only [note] at h
      split at h <;> cases h
  | letIn n =>
      simp only [note] at h
      split at h
      · split at h <;> cases h
      · cases h
  | ack n =>
      simp only [note] at h
      split at h <;> cases h
  | nack n =>
      simp only [note] at h
      split at h <;> cases h
  | giveUp n => cases h
  | comeBack n => cases h
  | close => cases h

/-- A delivery that is in flight can be acknowledged, and can be refused. -/
theorem note_settle (log : List (Note α)) {s : EventStream α} {n : Nat} {d : Delivery α}
    (h : s.delivery? n = some d) :
    note log s (.ack n) = .acked d ∧
      (note log s (.nack n) = .nacked d ∨ note log s (.nack n) = .dropped d) := by
  obtain ⟨e, he, -⟩ := Option.map_eq_some_iff.1 h
  constructor
  · simp [note, EventStream.ack, he, h]
  · have hn := nack_eq he
    cases ho : s.isOpen with
    | false =>
        rw [if_neg (by simp [ho])] at hn
        simp [note, hn, h]
    | true =>
        rw [if_pos ho] at hn
        by_cases hz : s.delay = 0
        · rw [if_pos hz] at hn
          simp [note, hn, h]
        · rw [if_neg hz] at hn
          simp [note, hn, h]

theorem note_eq_closed_iff (log : List (Note α)) (s : EventStream α) (a : Act α) :
    note log s a = .closed ↔ a = .close := by
  cases a <;> simp only [note] <;> (try split) <;> (try split) <;> simp

end Courier.EventStream
