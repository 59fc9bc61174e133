import Courier.Proofs.Stream.Conserved
import Mathlib.Algebra.BigOperators.Group.Multiset.Basic

/-!
# Closed streams run out

What is still to be handed out waits in the queue, in line or away. On a closed stream every act
leaves a message there, brings it closer to being handed out or takes it away, and none comes back: a
refused delivery is dropped. Main statement: whatever happens after a stream is closed, a message is
handed out at most once more, and not at all if it was in flight.
-/

namespace Courier.EventStream

variable {α β : Type}

/-- How far a place is from being handed out. -/
def Place.rank : Place → Nat
  | .flight _ => 0
  | .queue => 1
  | .line _ => 2
  | .away _ => 3

/-- The messages that are still to be handed out, each with its place. -/
def pending (s : EventStream β) : Multiset (Place × Envelope β) :=
  ↑(s.queue.map fun e => (Place.queue, e)) + row .line s.line + row .away s.away

/-- What the messages that are still to be handed out say. -/
def waiting (s : EventStream β) : Multiset β :=
  (pending s).map fun x => x.2.payload

section Pending

variable {s t : EventStream β} {n : Nat} {e : Envelope β}

theorem holdings_eq (s : EventStream β) : holdings s = pending s + row .flight s.inFlight :=
  rfl

theorem pending_eq_cons {x : Place × Envelope β} (hf : t.inFlight = s.inFlight)
    (h : holdings s = x ::ₘ holdings t) : pending s = x ::ₘ pending t := by
  rw [holdings_eq, holdings_eq, hf, ← Multiset.cons_add] at h
  exact add_right_cancel h

theorem waiting_cons {x : Place × Envelope β} (h : pending s = x ::ₘ pending t) :
    waiting s = x.2.payload ::ₘ waiting t := by
  rw [waiting, h, Multiset.map_cons]
  rfl

theorem waiting_eq (s : EventStream β) : waiting s =
    ↑((s.queue ++ s.line.values ++ s.away.values).map Envelope.payload) := by
  simp [waiting, pending, row, Table.values, Function.comp_def]

theorem mem_pending_queue : (.queue, e) ∈ pending s ↔ e ∈ s.queue := by
  simp [pending, row]

theorem mem_pending_line : (.line n, e) ∈ pending s ↔ s.line.get? n = some e := by
  simp [pending, row, Table.get?_eq_some_iff]

theorem mem_pending_away : (.away n, e) ∈ pending s ↔ s.away.get? n = some e := by
  simp [pending, row, Table.get?_eq_some_iff]

theorem flight_notMem_pending : (.flight n, e) ∉ pending s := by
  simp [pending, row]

/-- A closed stream is drained once nothing is left to be handed out. -/
theorem isDrained_iff : s.isDrained = true ↔ s.isOpen = false ∧ pending s = 0 := by
  rw [← Multiset.card_eq_zero]
  simp [isDrained, pending, row, Table.isEmpty, and_assoc, and_comm]

end Pending

/-- All that an act can do to a closed stream: leave what is pending, bring a message closer to
being handed out, take one out of the line or hand one out. -/
inductive Drain (s t : EventStream β) : Note β → Prop where
  | still {x : Note β} : x.handed? = none → pending t = pending s → Drain s t x
  | move {x : Note β} (p q : Place) (e : Envelope β) (rest) :
    x.handed? = none → q.rank < p.rank → pending s = (p, e) ::ₘ rest →
    pending t = (q, e) ::ₘ rest → Drain s t x
  | giveUp {x : Note β} (n : Nat) (e : Envelope β) :
    x.handed? = none → pending s = (.line n, e) ::ₘ pending t → Drain s t x
  | hand (e : Envelope β) :
    pending s = (.queue, e) ::ₘ pending t → Drain s t (.handed ⟨s.next, e.attempt, e.payload⟩)

section Drain

variable (log : List (Note β)) {s : EventStream β} {n : Nat}

/-- Acknowledging leaves what is pending. -/
theorem pending_ack : pending (s.ack n).2 = pending s := by
  unfold EventStream.ack
  split <;> rfl

/-- A closed stream takes nothing back. -/
theorem pending_nack (ho : s.isOpen = false) : pending (s.nack n).2 = pending s := by
  cases hf : s.inFlight.get? n with
  | none => rw [EventStream.nack, hf]
  | some e =>
      rw [nack_eq hf, if_neg (by simp [ho])]
      rfl

theorem drain_giveUp : Drain s (after log s (.giveUp n)) (note log s (.giveUp n)) := by
  by_cases hn : n ∈ tickets log
  · simp only [after, note, if_pos hn]
    cases hl : s.line.get? n with
    | some e => exact .giveUp n e rfl (pending_eq_cons rfl (holdings_eraseLine s hl))
    | none =>
        refine .still rfl ?_
        rw [withdraw, Table.erase_of_get?_eq_none hl]
  · simp only [after, note, if_neg hn]
    exact .still rfl rfl

theorem drain_take : Drain s (after log s .take) (note log s .take) := by
  cases hq : s.queue with
  | nil =>
      have ht : s.take? = none := by rw [take?, hq]
      simp only [after, note, ht]
      exact .still rfl rfl
  | cons e rest =>
      have ht : s.take? = some (⟨s.next, e.attempt, e.payload⟩, { s with
          queue := rest, inFlight := s.inFlight.insert s.next e, next := s.next + 1 }) := by
        rw [take?, hq]
      have hp : pending s = (.queue, e) ::ₘ pending { s with queue := rest } :=
        pending_eq_cons rfl (holdings_pop s hq)
      simp only [after, note, ht]
      exact .hand e hp

theorem drain_letIn : Drain s (after log s (.letIn n)) (note log s (.letIn n)) := by
  have quiet : (note log s (.letIn n)).handed? = none := by
    simp only [note]
    split
    · split <;> rfl
    · rfl
  cases hl : s.line.get? n with
  | none =>
      refine .still quiet ?_
      simp only [after, letInOne, hl]
  | some e =>
      by_cases hc : s.queue.length < s.capacity
      · have he : pending s = (.line n, e) ::ₘ pending { s with line := s.line.erase n } :=
          pending_eq_cons rfl (holdings_eraseLine s hl)
        refine .move (.line n) .queue e _ quiet (Nat.lt_succ_self 1) he ?_
        simp only [after, letInOne, hl, if_pos hc]
        exact pending_eq_cons rfl (holdings_push { s with line := s.line.erase n } e)
      · refine .still quiet ?_
        simp only [after, letInOne, hl, if_neg hc]

theorem drain_comeBack (hs : IsSound s) :
    Drain s (after log s (.comeBack n)) (note log s (.comeBack n)) := by
  cases ha : s.away.get? n with
  | none =>
      refine .still rfl ?_
      simp only [after, EventStream.comeBack, ha]
  | some e =>
      have he : pending s = (.away n, e) ::ₘ pending { s with away := s.away.erase n } :=
        pending_eq_cons rfl (holdings_eraseAway s ha)
      have hq : ({ s with away := s.away.erase n } : EventStream β).entrance.rank < 3 := by
        rcases entrance_cases { s with away := s.away.erase n } with h | h <;> simp [h, Place.rank]
      refine .move (.away n) _ e _ rfl hq he ?_
      simp only [after, EventStream.comeBack, ha]
      exact pending_eq_cons (enter_inFlight _ _).symm (holdings_enter (hs.eraseAway n) e)

/-- Every act drains a closed stream or leaves what is pending. -/
theorem drain_after (hs : IsSound s) (ho : s.isOpen = false) (a : Act β) :
    Drain s (after log s a) (note log s a) := by
  cases a with
  | publish payload =>
      have hp : s.publish payload = (.error closed, s) := by simp [EventStream.publish, ho]
      simp only [after, note, hp]
      exact .still rfl rfl
  | giveUp n => exact drain_giveUp log
  | take => exact drain_take log
  | letIn n => exact drain_letIn log
  | ack n =>
      refine .still ?_ pending_ack
      simp only [note]
      split <;> rfl
  | nack n =>
      refine .still ?_ (pending_nack ho)
      simp only [note]
      split <;> rfl
  | comeBack n => exact drain_comeBack log hs
  | close => exact .still rfl rfl

end Drain

/-- What is left to do with the messages that are still to be handed out, if each of them costs so
much from then on. -/
def backlog (cost : Nat) (s : EventStream β) : Nat :=
  ((pending s).map fun x => cost + x.1.rank).sum

/-- Draining a stream leaves less to do. -/
theorem Drain.backlog_lt {s t : EventStream β} {x : Note β} (h : Drain s t x) (cost : Nat) :
    x.handed? = none ∧ pending t = pending s ∨
      backlog cost t + (if x.handed?.isSome then cost else 0) < backlog cost s := by
  cases h with
  | still hx hp => exact .inl ⟨hx, hp⟩
  | move p q e rest hx hlt hs ht =>
      right
      simp only [backlog, hs, ht, Multiset.map_cons, Multiset.sum_cons, hx]
      simpa using hlt
  | giveUp n e hx hs =>
      right
      simp only [backlog, hs, Multiset.map_cons, Multiset.sum_cons, hx, Place.rank]
      simp
  | hand e hs =>
      right
      simp only [backlog, hs, Multiset.map_cons, Multiset.sum_cons, Place.rank, Note.handed?,
        Option.isSome_some, if_true]
      omega

theorem Drain.pending_eq_zero {s t : EventStream β} {x : Note β} (h : Drain s t x)
    (hs : pending s = 0) : pending t = 0 := by
  cases h with
  | still _ hp => exact hp.trans hs
  | move p q e rest _ _ hp => exact absurd (hs.symm.trans hp) (Multiset.zero_ne_cons)
  | giveUp n e _ hp => exact absurd (hs.symm.trans hp) (Multiset.zero_ne_cons)
  | hand e hp => exact absurd (hs.symm.trans hp) (Multiset.zero_ne_cons)

theorem closed_after (log : List (Note β)) {s : EventStream β} (ho : s.isOpen = false)
    (a : Act β) : (after log s a).isOpen = false := by
  by_cases hc : a = .close
  · subst hc
    rfl
  · exact (isLater_after log s hc).isOpen.trans ho

/-- What is handed out was waiting, and it waits no more. -/
theorem Drain.waiting_le {s t : EventStream β} {x : Note β} (h : Drain s t x) :
    waiting t + ↑(x.handed?.toList.map Delivery.payload) ≤ waiting s := by
  cases h with
  | still hx hp => simp [hx, waiting, hp]
  | move p q e rest hx _ hs ht => simp [hx, waiting, hs, ht]
  | giveUp n e hx hs =>
      rw [hx, waiting_cons hs]
      simpa using Multiset.le_cons_self _ _
  | hand e hs =>
      rw [waiting_cons hs, ← Multiset.singleton_add, add_comm]
      exact le_rfl

/-- A drained stream stays so. -/
theorem isDrained_after (log : List (Note β)) {s : EventStream β} (hs : IsSound s)
    (h : s.isDrained = true) (a : Act β) : (after log s a).isDrained = true := by
  obtain ⟨ho, hp⟩ := isDrained_iff.1 h
  exact isDrained_iff.2 ⟨closed_after log ho a, (drain_after log hs ho a).pending_eq_zero hp⟩

namespace Ledger

/-- The deliveries that were handed out between two moments. -/
def handedSince (l k : Ledger β) : List (Delivery β) :=
  handed (k.log.drop l.log.length)

/-- Whatever happens after a stream is closed, all that is handed out was waiting by then. -/
theorem waiting_run {l : Ledger β} (hs : IsSound l.stream) (ho : l.stream.isOpen = false)
    (acts : List (Act β)) : ∃ notes, (l.run acts).log = l.log ++ notes ∧
      waiting (l.run acts).stream + ↑((handed notes).map Delivery.payload) ≤ waiting l.stream := by
  induction acts generalizing l with
  | nil => exact ⟨[], (List.append_nil _).symm, by simp [handed, run]⟩
  | cons a acts ih =>
      obtain ⟨notes, hl, hw⟩ := @ih (l.step a) (hs.after l.log a) (closed_after l.log ho a)
      have hd := (drain_after l.log hs ho a).waiting_le
      refine ⟨note l.log l.stream a :: notes, ?_, ?_⟩
      · exact hl.trans (List.append_assoc _ _ _)
      · have hsplit : handed (note l.log l.stream a :: notes) =
            (note l.log l.stream a).handed?.toList ++ handed notes := by
          simp only [handed, List.filterMap_cons]
          cases (note l.log l.stream a).handed? <;> rfl
        calc
          waiting ((l.step a).run acts).stream +
                ↑((handed (note l.log l.stream a :: notes)).map Delivery.payload) =
              waiting ((l.step a).run acts).stream + ↑((handed notes).map Delivery.payload) +
                ↑((note l.log l.stream a).handed?.toList.map Delivery.payload) := by
            rw [hsplit, List.map_append, ← Multiset.coe_add]
            abel
          _ ≤ waiting (l.step a).stream +
                ↑((note l.log l.stream a).handed?.toList.map Delivery.payload) :=
            add_le_add_left hw _
          _ ≤ waiting l.stream := hd

/-- Whether every message that is handed out between two moments waits in the first, in the queue,
in line or away, and is handed out once only; so none is that is in flight in the first. -/
structure IsOnceMore (l k : Ledger (Nat × α)) : Prop where
  once : ((l.handedSince k).map fun d => d.payload.1).Nodup
  waiting : ∀ d ∈ l.handedSince k,
    d.payload ∈ (l.stream.queue ++ l.stream.line.values ++ l.stream.away.values).map
      Envelope.payload
  notAgain : ∀ d ∈ l.handedSince k, ∀ e ∈ l.stream.inFlight.values, d.payload.1 ≠ e.payload.1

/-- After a stream is closed each of its messages is handed out at most once more. -/
theorem isOnceMore_run {bound : Nat} {l : Ledger (Nat × α)} (k : IsKept bound l.log l.stream)
    (ho : l.stream.isOpen = false) (acts : List (Act (Nat × α))) : IsOnceMore l (l.run acts) := by
  obtain ⟨notes, hl, hw⟩ := waiting_run k.sound ho acts
  have hsince : l.handedSince (l.run acts) = handed notes := by
    rw [handedSince, hl, List.drop_left]
  have hle : ((handed notes).map Delivery.payload : Multiset (Nat × α)) ≤
      EventStream.waiting l.stream := (Multiset.le_add_left _ _).trans hw
  -- the messages that wait and those in flight have different labels
  have hnodup : ((EventStream.waiting l.stream).map Prod.fst +
      (row .flight l.stream.inFlight).map fun x => x.2.payload.1).Nodup := by
    refine Multiset.nodup_of_le ?_ k.nodup
    rw [labels, holdings_eq, Multiset.map_add, EventStream.waiting, Multiset.map_map]
    exact Multiset.le_add_right _ _
  obtain ⟨hwait, -, hdisj⟩ := Multiset.nodup_add.1 hnodup
  have hmem : ∀ d ∈ l.handedSince (l.run acts), d.payload ∈ EventStream.waiting l.stream := by
    intro d hd
    rw [hsince] at hd
    exact Multiset.mem_of_le hle (Multiset.mem_coe.2 (List.mem_map_of_mem hd))
  refine ⟨?_, ?_, ?_⟩
  · have hn := Multiset.nodup_of_le (Multiset.map_le_map hle) hwait
    rw [Multiset.map_coe, Multiset.coe_nodup, List.map_map] at hn
    rwa [hsince]
  · intro d hd
    have := hmem d hd
    rwa [waiting_eq, Multiset.mem_coe] at this
  · intro d hd e he hde
    refine Multiset.disjoint_left.1 hdisj (Multiset.mem_map_of_mem Prod.fst (hmem d hd)) ?_
    obtain ⟨x, hx, rfl⟩ := List.mem_map.1 he
    refine Multiset.mem_map.2 ⟨(.flight x.1, x.2), ?_, hde.symm⟩
    exact Multiset.mem_coe.2 (List.mem_map_of_mem hx)

/-- In a run on a new stream that is closed, each message is handed out at most once more. -/
theorem isOnceMore_of_close (capacity delay : Nat) (before after : List (Act α)) :
    IsOnceMore ((new capacity delay).run (labelled (before ++ [.close])))
      ((new capacity delay).run (labelled (before ++ [.close] ++ after))) := by
  have hclose :
      ((new capacity delay).run (labelled (before ++ [.close]))).stream.isOpen = false := by
    rw [labelled_append, run, List.foldl_append]
    rfl
  obtain ⟨more, hmore⟩ : ∃ more : List (Act (Nat × α)),
      labelled (before ++ [.close] ++ after) = labelled (before ++ [.close]) ++ more := by
    unfold labelled
    exact ⟨_, List.mapIdx_append⟩
  have hrun : (new capacity delay).run (labelled (before ++ [.close] ++ after)) =
      ((new capacity delay).run (labelled (before ++ [.close]))).run more := by
    rw [hmore]
    exact List.foldl_append
  rw [hrun]
  exact isOnceMore_run (isKept_run capacity delay _).1 hclose more

end Ledger
end Courier.EventStream
