import Courier.Proofs.Stream.Kept

/-!
# Labels on messages

A stream never looks at what a message says. Labels can therefore be put on the messages of a run
and taken off again, and the run without them is the same. Main statement: in every run, told apart
by the acts that published them, no message is lost or doubled.
-/

namespace Courier

variable {α β : Type} (f : α → β)

/-- A message that says something else. -/
def Envelope.map (e : Envelope α) : Envelope β :=
  ⟨e.attempt, f e.payload⟩

/-- A delivery that says something else. -/
def Delivery.map (d : Delivery α) : Delivery β :=
  ⟨d.number, d.attempt, f d.payload⟩

namespace EventStream

/-- A stream whose messages say something else. -/
def map (s : EventStream α) : EventStream β where
  capacity := s.capacity
  capacity_pos := s.capacity_pos
  delay := s.delay
  isOpen := s.isOpen
  queue := s.queue.map (Envelope.map f)
  inFlight := s.inFlight.mapValues fun _ => Envelope.map f
  next := s.next
  away := s.away.mapValues fun _ => Envelope.map f
  line := s.line.mapValues fun _ => Envelope.map f
  ticket := s.ticket

/-- An act with a message that says something else. -/
def Act.map : Act α → Act β
  | .publish payload => .publish (f payload)
  | .giveUp ticket => .giveUp ticket
  | .take => .take
  | .letIn ticket => .letIn ticket
  | .ack number => .ack number
  | .nack number => .nack number
  | .comeBack ticket => .comeBack ticket
  | .close => .close

/-- A note of a message that says something else. -/
def Note.map : Note α → Note β
  | .published payload => .published (f payload)
  | .waits ticket payload => .waits ticket (f payload)
  | .handed d => .handed (d.map f)
  | .acked d => .acked (d.map f)
  | .nacked d => .nacked (d.map f)
  | .dropped d => .dropped (d.map f)
  | .closed => .closed
  | .other => .other

/-- A ledger of messages that say something else. -/
def Ledger.map (l : Ledger α) : Ledger β :=
  ⟨l.log.map (Note.map f), l.stream.map f⟩

variable (log : List (Note α)) (s : EventStream α)

@[simp] theorem tickets_map : tickets (log.map (Note.map f)) = tickets log := by
  rw [tickets, tickets, List.filterMap_map]
  congr 1
  funext x
  cases x <;> rfl

@[simp] theorem hasRoom_map : (s.map f).hasRoom = s.hasRoom := by
  simp [hasRoom, map]

theorem map_enter (e : Envelope α) : (s.map f).enter (e.map f) = (s.enter e).map f := by
  unfold enter
  rw [hasRoom_map]
  split
  · simp [map]
  · simp [map, Table.mapValues_insert]

theorem map_letInOne (n : Nat) : (s.map f).letInOne n = (s.letInOne n).map f := by
  have hl : (s.map f).line.get? n = (s.line.get? n).map (Envelope.map f) :=
    Table.get?_mapValues _ _ _
  unfold letInOne
  rw [hl]
  cases s.line.get? n with
  | none => rfl
  | some e =>
      have hq : (s.map f).queue.length < (s.map f).capacity ↔ s.queue.length < s.capacity := by
        simp [map]
      by_cases h : s.queue.length < s.capacity
      · simp only [Option.map_some, if_pos (hq.2 h), if_pos h]
        simp [map, Table.mapValues_erase]
      · simp only [Option.map_some, if_neg (fun hc => h (hq.1 hc)), if_neg h]

theorem map_publish (payload : α) :
    (s.map f).publish (f payload) = ((s.publish payload).1, (s.publish payload).2.map f) := by
  have he : (s.map f).enter ⟨1, f payload⟩ = (s.enter ⟨1, payload⟩).map f :=
    map_enter f s ⟨1, payload⟩
  unfold EventStream.publish
  rw [hasRoom_map, he]
  by_cases h : s.isOpen <;> simp [map, h]

theorem map_withdraw (n : Nat) : (s.map f).withdraw n = (s.withdraw n).map f := by
  simp [withdraw, map, Table.mapValues_erase]

theorem map_take :
    (s.map f).take? = s.take?.map fun r => (r.1.map f, r.2.map f) := by
  cases h : s.queue with
  | nil => simp [take?, map, h]
  | cons e rest => simp [take?, map, h, Table.mapValues_insert, Delivery.map, Envelope.map]

theorem map_inFlight (n : Nat) :
    (s.map f).inFlight.get? n = (s.inFlight.get? n).map (Envelope.map f) :=
  Table.get?_mapValues _ _ _

theorem map_delivery (n : Nat) :
    (s.map f).delivery? n = (s.delivery? n).map (Delivery.map f) := by
  rw [delivery?, delivery?, map_inFlight]
  cases s.inFlight.get? n <;> rfl

theorem map_ack (n : Nat) : (s.map f).ack n = ((s.ack n).1, (s.ack n).2.map f) := by
  rw [EventStream.ack, EventStream.ack, map_inFlight]
  cases s.inFlight.get? n with
  | none => rfl
  | some e => simp [map, Table.mapValues_erase]

theorem map_nack (n : Nat) : (s.map f).nack n = ((s.nack n).1, (s.nack n).2.map f) := by
  cases hf : s.inFlight.get? n with
  | none => simp [EventStream.nack, map_inFlight, hf]
  | some e =>
      have hm : (s.map f).inFlight.get? n = some (e.map f) := by rw [map_inFlight, hf]; rfl
      have he := map_enter f { s with inFlight := s.inFlight.erase n }
        { e with attempt := e.attempt + 1 }
      have hi : map f { s with inFlight := s.inFlight.erase n } =
          { map f s with inFlight := (map f s).inFlight.erase n } := by
        simp [map, Table.mapValues_erase]
      rw [nack_eq hf, nack_eq hm]
      by_cases ho : s.isOpen
      · rw [if_pos (show (s.map f).isOpen = true from ho), if_pos ho]
        by_cases hd : s.delay = 0
        · rw [if_pos (show (s.map f).delay = 0 from hd), if_pos hd, ← he, hi]
          rfl
        · rw [if_neg (show (s.map f).delay ≠ 0 from hd), if_neg hd]
          simp [map, Table.mapValues_erase, Table.mapValues_insert, Envelope.map]
      · rw [if_neg (show ¬ (s.map f).isOpen = true from ho), if_neg ho, hi]

theorem map_comeBack (n : Nat) : (s.map f).comeBack n = (s.comeBack n).map f := by
  have ha : (s.map f).away.get? n = (s.away.get? n).map (Envelope.map f) :=
    Table.get?_mapValues _ _ _
  rw [EventStream.comeBack, EventStream.comeBack, ha]
  cases s.away.get? n with
  | none => rfl
  | some e =>
      have hm : map f { s with away := s.away.erase n } =
          { map f s with away := (map f s).away.erase n } := by
        simp [map, Table.mapValues_erase]
      rw [Option.map_some, ← map_enter, hm]

theorem map_after (a : Act α) :
    after (log.map (Note.map f)) (s.map f) (a.map f) = (after log s a).map f := by
  cases a with
  | publish payload => simp only [Act.map, after, map_publish]
  | giveUp n =>
      simp only [Act.map, after, tickets_map]
      split
      · exact map_withdraw f s n
      · rfl
  | take =>
      simp only [Act.map, after, map_take]
      cases s.take? <;> rfl
  | letIn n => exact map_letInOne f s n
  | ack n => simp only [Act.map, after, map_ack]
  | nack n => simp only [Act.map, after, map_nack]
  | comeBack n => exact map_comeBack f s n
  | close => rfl

theorem map_note (a : Act α) :
    note (log.map (Note.map f)) (s.map f) (a.map f) = (note log s a).map f := by
  cases a with
  | publish payload =>
      simp only [Act.map, note, map_publish]
      cases (s.publish payload).1 with
      | error e => rfl
      | ok ticket => cases ticket <;> rfl
  | take =>
      simp only [Act.map, note, map_take]
      cases s.take? <;> rfl
  | letIn n =>
      have hl : (s.map f).line.get? n = (s.line.get? n).map (Envelope.map f) :=
        Table.get?_mapValues _ _ _
      have hq : (s.map f).queue.length = s.queue.length := List.length_map _
      have hc : (s.map f).capacity = s.capacity := rfl
      simp only [Act.map, note, hl, hq, hc, tickets_map]
      cases s.line.get? n with
      | none => rfl
      | some e =>
          simp only [Option.map_some]
          split <;> rfl
  | ack n =>
      simp only [Act.map, note, map_ack, map_delivery]
      cases (s.ack n).1 <;> cases s.delivery? n <;> rfl
  | nack n =>
      simp only [Act.map, note, map_nack, map_delivery]
      cases (s.nack n).1 <;> cases s.delivery? n <;> rfl
  | giveUp n => rfl
  | comeBack n => rfl
  | close => rfl

/-- What the messages of a run say makes no difference to it. -/
theorem map_run (l : Ledger α) (acts : List (Act α)) :
    (l.map f).run (acts.map (Act.map f)) = (l.run acts).map f := by
  induction acts generalizing l with
  | nil => rfl
  | cons a acts ih =>
      have hs : (l.map f).step (a.map f) = (l.step a).map f := by
        simp [Ledger.step, Ledger.map, map_after, map_note]
      calc
        (l.map f).run ((a :: acts).map (Act.map f)) =
            ((l.map f).step (a.map f)).run (acts.map (Act.map f)) := rfl
        _ = ((l.step a).map f).run (acts.map (Act.map f)) := by rw [hs]
        _ = ((l.step a).run acts).map f := ih _

/-- Acts whose messages are labelled by the number of the act. -/
def labelled (acts : List (Act α)) : List (Act (Nat × α)) :=
  acts.mapIdx fun n a => a.map fun payload => (n, payload)

theorem map_labelled (acts : List (Act α)) : (labelled acts).map (Act.map Prod.snd) = acts := by
  apply List.ext_getElem
  · simp [labelled]
  · intro n _ _
    simp only [labelled, List.getElem_map, List.getElem_mapIdx]
    cases acts[n] <;> rfl

theorem labelled_append (acts : List (Act α)) (a : Act α) :
    labelled (acts ++ [a]) = labelled acts ++ [a.map fun payload => (acts.length, payload)] := by
  simp [labelled, List.mapIdx_append]

end EventStream

end Courier
