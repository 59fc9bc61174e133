import Courier.Proofs.Stream.Labels
import Mathlib.Data.List.Induction

/-!
# Every message of a stream is at one place

What a run of acts on a new stream leaves, message by message. A message is the act that published
it, whatever its bytes. Main statements: at every moment each published message is at one of four
places, and the notes of its deliveries tell its attempts; and receiving is a run of acts, one that
takes a message out of the queue and one for each message in line, which lets it in.
-/

namespace Courier.EventStream

variable {α β : Type}

/-- The refused messages that are not back in the queue: those that stay away, and those in line for
which no publisher waits. -/
def deferred (log : List (Note β)) (s : EventStream β) : List β :=
  s.away.values.map Envelope.payload ++
    (s.line.entries.filter fun x => x.1 ∉ tickets log).map fun x => x.2.payload

/-- The messages at each of the four places. -/
def places (log : List (Note β)) (s : EventStream β) : List (List β) :=
  [s.queue.map Envelope.payload, s.inFlight.values.map Envelope.payload, deferred log s,
    finished log]

/-- What is true at every moment of a run. -/
structure IsConserved (capacity : Nat) (acts : List (Act α)) (log : List (Note (Nat × α)))
    (s : EventStream (Nat × α)) : Prop where
  /-- A published message is one that an act published. -/
  source : ∀ m ∈ published log, acts[m.1]? = some (.publish m.2)
  /-- It is at one of the four places, and there once. -/
  onePlace : ∀ m ∈ published log,
    ((places log s).map fun place => (place.map Prod.fst).count m.1).sum = 1
  /-- Nothing else is there. -/
  noOther : ∀ place ∈ places log s, ∀ m ∈ place, m ∈ published log
  /-- It is handed out with its attempt, and settled by its current delivery. -/
  fair : ∀ before x after, log = before ++ x :: after → IsFair before x
  /-- No delivery number comes again. -/
  numbers : ((handed log).map Delivery.number).Nodup
  /-- None is settled twice. -/
  settledOnce : ((settled log).map Delivery.number).Nodup
  bounded : s.queue.length ≤ max capacity 1

theorem held_holdings (log : List (Note β)) (s : EventStream β) :
    held (tickets log) (holdings s) =
      (s.queue.map Envelope.payload : Multiset β) + ↑(s.inFlight.values.map Envelope.payload) +
        ↑(deferred log s) := by
  have hrow : ∀ (place : Nat → Place) (t : Table Nat (Envelope β)),
      (∀ n, ¬ IsWaiting (tickets log) (place n)) →
      held (tickets log) (row place t) = ↑(t.values.map Envelope.payload) := by
    intro place t hp
    rw [held, row, Multiset.filter_eq_self.2]
    · simp [Table.values, Function.comp_def]
    · rintro ⟨p, e⟩ hx
      obtain ⟨y, -, hy⟩ := List.mem_map.1 (Multiset.mem_coe.1 hx)
      cases hy
      exact hp _
  have hadd : ∀ g h : Multiset (Place × Envelope β),
      held (tickets log) (g + h) = held (tickets log) g + held (tickets log) h := by
    intro g h
    simp [held, Multiset.filter_add]
  have hq : held (tickets log) ↑(s.queue.map fun e => (Place.queue, e)) =
      (s.queue.map Envelope.payload : Multiset β) := by
    rw [held, Multiset.filter_eq_self.2]
    · simp [Function.comp_def]
    · rintro ⟨p, e⟩ hx
      obtain ⟨y, -, hy⟩ := List.mem_map.1 (Multiset.mem_coe.1 hx)
      cases hy
      exact id
  have hl : held (tickets log) (row .line s.line) =
      ↑((s.line.entries.filter fun x => x.1 ∉ tickets log).map fun x => x.2.payload) := by
    have hw : ∀ n, IsWaiting (tickets log) (.line n) ↔ n ∈ tickets log := fun n => Iff.rfl
    simp [held, row, List.filter_map, Function.comp_def, hw]
  rw [holdings, hadd, hadd, hadd, hq, hl, hrow .away _ (fun _ => id), hrow .flight _ (fun _ => id),
    deferred, ← Multiset.coe_add]
  abel

/-- Whether all messages of a stream, and all that were published, are of a kind. -/
structure IsFrom (p : β → Prop) (log : List (Note β)) (s : EventStream β) : Prop where
  held : ∀ y ∈ holdings s, p y.2.payload
  published : ∀ m ∈ published log, p m

theorem IsFrom.effect {p : β → Prop} {log : List (Note β)} {s t : EventStream β} {a : Act β}
    {x : Note β} (hf : IsFrom p log s) (ha : ∀ payload, a = .publish payload → p payload)
    (h : Effect log s t a x) : IsFrom p (log ++ [x]) t := by
  have quiet : x.published? = none → ∀ m ∈ EventStream.published (log ++ [x]), p m := by
    intro hx m hm
    rw [← Multiset.mem_coe, published_append, hx] at hm
    exact hf.published m (by simpa using hm)
  have told : ∀ {m}, x = .published m → p m → ∀ n ∈ EventStream.published (log ++ [x]), p n := by
    rintro m rfl hm n hn
    rw [← Multiset.mem_coe, published_append] at hn
    cases Multiset.mem_add.1 hn with
    | inl hn => exact hf.published n hn
    | inr hn =>
        obtain rfl : n = m := by simpa [Note.published?] using hn
        exact hm
  have moved : ∀ {q r : Place} {e f : Envelope β} {rest}, holdings s = (q, e) ::ₘ rest →
      holdings t = (r, f) ::ₘ rest → f.payload = e.payload →
      ∀ y ∈ holdings t, p y.2.payload := by
    intro q r e f rest hs ht hp y hy
    rw [ht, Multiset.mem_cons] at hy
    rcases hy with rfl | hy
    · exact hp ▸ hf.held (q, e) (hs ▸ Multiset.mem_cons_self _ _)
    · exact hf.held y (hs ▸ Multiset.mem_cons_of_mem hy)
  have came : ∀ {q : Place} {m : β}, p m → holdings t = (q, ⟨1, m⟩) ::ₘ holdings s →
      ∀ y ∈ holdings t, p y.2.payload := by
    intro q m hm ht y hy
    rw [ht, Multiset.mem_cons] at hy
    rcases hy with rfl | hy
    · exact hm
    · exact hf.held y hy
  cases h with
  | publish m hp ht _ => exact ⟨came (ha m hp) ht, told rfl (ha m hp)⟩
  | wait m hp ht _ _ => exact ⟨came (ha m hp) ht, quiet rfl⟩
  | giveUp n e _ hs _ => exact ⟨fun y hy => hf.held y (hs ▸ Multiset.mem_cons_of_mem hy), quiet rfl⟩
  | letIn n e rest _ hs ht _ =>
      exact ⟨moved hs ht rfl, told rfl (hf.held (.line n, e) (hs ▸ Multiset.mem_cons_self _ _))⟩
  | move q r e rest _ _ hs ht _ => exact ⟨moved hs ht rfl, quiet rfl⟩
  | hand e rest hs ht _ => exact ⟨moved hs ht rfl, quiet rfl⟩
  | ack n e hs _ => exact ⟨fun y hy => hf.held y (hs ▸ Multiset.mem_cons_of_mem hy), quiet rfl⟩
  | nack n e q rest _ _ hs ht _ => exact ⟨moved hs ht rfl, quiet rfl⟩
  | drop n e _ hs _ => exact ⟨fun y hy => hf.held y (hs ▸ Multiset.mem_cons_of_mem hy), quiet rfl⟩
  | close hs _ => exact ⟨fun y hy => hf.held y (hs ▸ hy), quiet rfl⟩
  | other hs => exact ⟨fun y hy => hf.held y (hs ▸ hy), quiet rfl⟩

/-- A ledger without notes of a new stream. -/
def Ledger.new (capacity delay : Nat) : Ledger β :=
  ⟨[], .new capacity delay⟩

theorem capacity_after (log : List (Note β)) (s : EventStream β) (a : Act β) :
    (after log s a).capacity = s.capacity := by
  by_cases hc : a = .close
  · rw [hc]
    rfl
  · exact (isLater_after log s hc).capacity

/-- Every run keeps the account. -/
theorem isKept_run (capacity delay : Nat) (acts : List (Act α)) :
    let l := (Ledger.new capacity delay).run (labelled acts)
    IsKept acts.length l.log l.stream ∧
      IsFrom (fun m => acts[m.1]? = some (.publish m.2)) l.log l.stream ∧
      l.stream.capacity = Capacity.atLeastOne capacity := by
  induction acts using List.reverseRecOn with
  | nil =>
      refine ⟨.new capacity delay, ⟨?_, ?_⟩, rfl⟩
      · simp [Ledger.new, Ledger.run, labelled, holdings, new, row,
          EmptyCollection.emptyCollection]
      · simp [Ledger.new, Ledger.run, labelled, published]
  | append_singleton acts a ih =>
      obtain ⟨k, hf, hc⟩ := ih
      have hrun : (Ledger.new capacity delay).run (labelled (acts ++ [a])) =
          ((Ledger.new capacity delay).run (labelled acts)).step
            (a.map fun payload => (acts.length, payload)) := by
        rw [labelled_append, Ledger.run, List.foldl_append]
        rfl
      have ha : ∀ m : Nat × α, (a.map fun payload => (acts.length, payload)) = .publish m →
          m.1 = acts.length ∧ a = .publish m.2 := by
        intro m hm
        cases a with
        | publish payload =>
            cases hm
            exact ⟨rfl, rfl⟩
        | _ => cases hm
      have hg : IsFrom (fun m => (acts ++ [a])[m.1]? = some (.publish m.2))
          ((Ledger.new capacity delay).run (labelled acts)).log
          ((Ledger.new capacity delay).run (labelled acts)).stream := by
        have key : ∀ m : Nat × α, acts[m.1]? = some (.publish m.2) →
            (acts ++ [a])[m.1]? = some (.publish m.2) := fun m hm =>
          (List.getElem?_append_left (List.getElem?_eq_some_iff.1 hm).1).trans hm
        exact ⟨fun y hy => key _ (hf.held y hy), fun m hm => key _ (hf.published m hm)⟩
      rw [hrun]
      refine ⟨?_, ?_, ?_⟩
      · simpa [Ledger.step] using k.after fun m hm => (ha m hm).1
      · refine hg.effect ?_ (effect_after _ k.sound _)
        intro m hm
        simp [(ha m hm).1, (ha m hm).2]
      · exact (capacity_after _ _ _).trans hc

section Account

variable {bound : Nat} {log : List (Note (Nat × α))} {s : EventStream (Nat × α)}
  (k : IsKept bound log s)

include k

theorem published_eq_places :
    (published log : Multiset (Nat × α)) = ((places log s).map (↑·)).sum := by
  rw [k.published, held_holdings]
  simp [places]

/-- No label was published twice. -/
theorem nodup_published : ((published log).map Prod.fst).Nodup := by
  have hle : ((published log).map Prod.fst : Multiset Nat) ≤ labels log s := by
    rw [← Multiset.map_coe, k.published, Multiset.map_add, Multiset.map_coe, labels, held,
      Multiset.map_map]
    exact add_le_add_left (Multiset.map_le_map (Multiset.filter_le _ _)) _
  exact Multiset.coe_nodup.1 (Multiset.nodup_of_le hle k.nodup)

theorem sum_count_places {m : Nat × α} (hm : m ∈ published log) :
    ((places log s).map fun place => (place.map Prod.fst).count m.1).sum = 1 := by
  have hc : ((published log).map Prod.fst).count m.1 = 1 :=
    List.count_eq_one_of_mem (nodup_published k) (List.mem_map_of_mem hm)
  have he := congrArg (fun g => (g.map Prod.fst).count m.1) (published_eq_places k)
  simp only [places, List.map_cons, List.map_nil, List.sum_cons, List.sum_nil, Multiset.map_add,
    Multiset.map_zero, Multiset.count_add, Multiset.count_zero, Multiset.map_coe,
    Multiset.coe_count] at he ⊢
  omega

theorem mem_published_of_mem_places {place : List (Nat × α)} (hp : place ∈ places log s)
    {m : Nat × α} (hm : m ∈ place) : m ∈ published log := by
  rw [← Multiset.mem_coe, published_eq_places k]
  generalize places log s = row at hp
  induction row with
  | nil => cases hp
  | cons first row ih =>
      rw [List.map_cons, List.sum_cons, Multiset.mem_add]
      rcases List.mem_cons.1 hp with rfl | hp
      · exact .inl hm
      · exact .inr (ih hp)

theorem nodup_handed : ((handed log).map Delivery.number).Nodup := by
  rw [k.numbers]
  exact List.nodup_range'

theorem nodup_settled : ((settled log).map Delivery.number).Nodup := by
  have hle : ((settled log).map Delivery.number : Multiset Nat) ≤
      ↑((handed log).map Delivery.number) := by
    rw [← Multiset.map_coe, ← Multiset.map_coe, k.handed]
    exact Multiset.map_le_map (Multiset.le_add_right _ _)
  exact Multiset.coe_nodup.1 (Multiset.nodup_of_le hle (Multiset.coe_nodup.2 (nodup_handed k)))

end Account

/-- In every run on a new stream, in which the messages are told apart by labels that are taken off
again, every message that was published is at one place. -/
theorem isConserved_run (capacity delay : Nat) (acts : List (Act α)) :
    let l := (Ledger.new capacity delay).run (labelled acts)
    (Ledger.new capacity delay).run acts = l.map Prod.snd ∧
      IsConserved capacity acts l.log l.stream := by
  intro l
  obtain ⟨k, hf, hc⟩ := isKept_run capacity delay acts
  constructor
  · calc
      (Ledger.new capacity delay).run acts =
          ((Ledger.new capacity delay).map Prod.snd).run
            ((labelled acts).map (Act.map Prod.snd)) := by
        rw [map_labelled]
        rfl
      _ = l.map Prod.snd := map_run _ _ _
  · exact {
      source := hf.published
      onePlace := fun m hm => sum_count_places k hm
      noOther := fun place hp m hm => mem_published_of_mem_places k hp hm
      fair := k.fair
      numbers := nodup_handed k
      settledOnce := nodup_settled k
      bounded := by
        have := k.sound.fits
        rwa [hc] at this }

/-- Those in line are let in one after the other, and nothing is lost from the log. -/
theorem stream_run_letIn (line : List Nat) (l : Ledger β) :
    (l.run (line.map .letIn)).stream = line.foldl letInOne l.stream ∧
      ∀ x ∈ l.log, x ∈ (l.run (line.map .letIn)).log := by
  induction line generalizing l with
  | nil => exact ⟨rfl, fun x hx => hx⟩
  | cons n line ih =>
      obtain ⟨hs, hl⟩ := ih (l.step (.letIn n))
      exact ⟨hs, fun x hx => hl x (List.mem_append_left _ hx)⟩

/-- Receiving is to take a message out of the queue and to let in those in line, one after the
other. -/
theorem stream_run_receive (l : Ledger β) {d : Delivery β} {t : EventStream β}
    (h : l.stream.receive? = some (d, t)) :
    ∃ line : List Nat, (l.run (.take :: line.map .letIn)).stream = t ∧
      .handed d ∈ (l.run (.take :: line.map .letIn)).log := by
  obtain ⟨⟨c, u⟩, hu, hd⟩ := Option.map_eq_some_iff.1 h
  obtain ⟨rfl, rfl⟩ := Prod.mk.inj hd
  have ht : l.step .take = ⟨l.log ++ [.handed c], u⟩ := by
    simp [Ledger.step, note, after, hu]
  refine ⟨u.line.keys, ?_⟩
  have hr : l.run (.take :: u.line.keys.map .letIn) =
      (l.step .take).run (u.line.keys.map .letIn) := rfl
  rw [hr, ht]
  obtain ⟨hs, hl⟩ := stream_run_letIn u.line.keys ⟨l.log ++ [.handed c], u⟩
  exact ⟨hs, hl _ (by simp)⟩

end Courier.EventStream
