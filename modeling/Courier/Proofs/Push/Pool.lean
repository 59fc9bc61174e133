import Courier.Proofs.Group.LookUp
import Courier.Proofs.Push.Process
import Courier.Proofs.Stream.Kept
import Mathlib.Logic.Function.Basic

/-!
# Workers at the event stream

Each worker of a pool takes a delivery from the stream, talks it to its end and takes the next one.
The workers share the stream and the membership cache with others, who act on both as they like, and
all else that a worker asks is answered in any way. Main statement: a turn of a worker is one of
five steps.
-/

namespace Courier.Push

open Dialogue EventStream

/-- How far the talk about a delivery has come. -/
structure Conversation where
  delivery : Delivery
  talk : List (Exchange Answer)
  rest : Dialogue Answer Verdict
  /-- The look-up whose end is waited for. -/
  load : Option Nat

namespace Conversation

/-- The talk about a delivery before the first question. -/
def start (d : Delivery) : Conversation :=
  ⟨d, [], process d.number d.payload, none⟩

/-- Goes on with an answer. -/
def hear (c : Conversation) {q : Question} (a : Answer q)
    (next : Answer q → Dialogue Answer Verdict) : Conversation :=
  { c with talk := c.talk ++ [⟨q, a⟩], rest := next a, load := none }

/-- Waits for the end of a look-up. -/
def await (c : Conversation) (load : Nat) : Conversation :=
  { c with load := some load }

end Conversation

/-- What the workers share with others. -/
structure Surroundings where
  ledger : Ledger (List UInt8)
  groups : Group.Cache

/-- The act on the stream that a question asks for. -/
def act? : Question → Option (Act (List UInt8))
  | .ack n => some (.ack n)
  | .nack n => some (.nack n)
  | _ => none

namespace Surroundings

/-- Answers a question, or tells the look-up whose end is to be waited for. -/
def answer (s : Surroundings) (load : Option Nat) (outside : (q : Question) → Answer q) :
    (q : Question) → (Answer q ⊕ Nat) × Surroundings
  | .ack n => (.inl (s.ledger.stream.ack n).1, { s with ledger := s.ledger.step (.ack n) })
  | .nack n =>
    (.inl ((s.ledger.stream.nack n).1.map fun _ => ()),
      { s with ledger := s.ledger.step (.nack n) })
  | .members group =>
    match load with
    | some load =>
      match s.groups.result? load with
      | some members => (.inl members, s)
      | none => (.inr load, s)
    | none =>
      let groups := (s.groups.ask group).2
      match (s.groups.ask group).1 with
      | .kept members => (.inl (.ok members), { s with groups })
      | .await load | .load load => (.inr load, { s with groups })
  | q => (.inl (outside q), s)

end Surroundings

/-- A pool of workers. -/
structure Pool (workers : Nat) where
  around : Surroundings
  /-- The talks about all deliveries that the workers have received, by number. -/
  conversations : Table Nat Conversation
  /-- The delivery that each worker is at. -/
  desks : Fin workers → Option Nat

/-- What can happen. -/
inductive Move (workers : Nat) where
  /-- A worker takes its turn; the world answers it, except for the stream and the cache. -/
  | work (worker : Fin workers) (outside : (q : Question) → Answer q)
  /-- A look-up ends. -/
  | arrive (load : Nat) (a : Group.Arrival)
  /-- Someone else acts on the stream, or the stream itself. -/
  | act (a : Act (List UInt8))
  /-- Someone else asks for the members of a group. -/
  | ask (group : String)
  | invalidate (group : String)

namespace Pool

variable {workers : Nat}

/-- Workers without a delivery at a new stream and a new cache. -/
def new (workers capacity delay : Nat) (keeps : Bool) : Pool workers where
  around := ⟨⟨[], .new capacity delay⟩, .new keeps⟩
  conversations := ∅
  desks _ := none

/-- The stream at which the workers are. -/
def stream (p : Pool workers) : EventStream :=
  p.around.ledger.stream

/-- What was noted of the acts on the stream. -/
def log (p : Pool workers) : List (Note (List UInt8)) :=
  p.around.ledger.log

/-- Takes a delivery from the stream to a desk. -/
def receive (p : Pool workers) (i : Fin workers) : Pool workers :=
  match p.stream.take? with
  | none => p
  | some (d, _) =>
    { around := { p.around with ledger := p.around.ledger.step .take }
      conversations := p.conversations.insert d.number (.start d)
      desks := Function.update p.desks i (some d.number) }

/-- Goes on with the talk about a delivery, or leaves it when it is over. -/
def goOn (p : Pool workers) (i : Fin workers) (n : Nat) (c : Conversation)
    (outside : (q : Question) → Answer q) : Pool workers :=
  match c.rest with
  | .done _ => { p with desks := Function.update p.desks i none }
  | .ask q next =>
    match p.around.answer c.load outside q with
    | (.inl a, around) =>
      { p with around, conversations := p.conversations.insert n (c.hear a next) }
    | (.inr load, around) =>
      { p with around, conversations := p.conversations.insert n (c.await load) }

/-- A turn of a worker. -/
def work (p : Pool workers) (i : Fin workers) (outside : (q : Question) → Answer q) :
    Pool workers :=
  match p.desks i with
  | none => p.receive i
  | some n =>
    match p.conversations.get? n with
    | none => p
    | some c => p.goOn i n c outside

/-- What comes of a move. -/
def move (p : Pool workers) : Move workers → Pool workers
  | .work i outside => p.work i outside
  | .arrive load a => { p with around := { p.around with groups := p.around.groups.arrive load a } }
  | .act a => { p with around := { p.around with ledger := p.around.ledger.step a } }
  | .ask group => { p with around := { p.around with groups := (p.around.groups.ask group).2 } }
  | .invalidate group =>
    { p with around := { p.around with groups := p.around.groups.invalidate group } }

/-- Carries out moves in order. -/
def run (p : Pool workers) (moves : List (Move workers)) : Pool workers :=
  moves.foldl move p

/-- The steps of a worker. -/
inductive Works (p : Pool workers) (i : Fin workers) (outside : (q : Question) → Answer q) :
    Pool workers → Prop where
  | idle : p.desks i = none → p.stream.queue = [] → Works p i outside p
  | receive (d : Delivery) (s : EventStream) :
    p.desks i = none → p.stream.take? = some (d, s) →
    Works p i outside {
      around := { p.around with ledger := ⟨p.log ++ [.handed d], s⟩ }
      conversations := p.conversations.insert d.number (.start d)
      desks := Function.update p.desks i (some d.number) }
  | leave (n : Nat) (c : Conversation) (v : Verdict) :
    p.desks i = some n → p.conversations.get? n = some c → c.rest = .done v →
    Works p i outside { p with desks := Function.update p.desks i none }
  | hear (n : Nat) (c : Conversation) (q : Question) (next : Answer q → Dialogue Answer Verdict)
    (a : Answer q) (around : Surroundings) :
    p.desks i = some n → p.conversations.get? n = some c → c.rest = .ask q next →
    p.around.answer c.load outside q = (.inl a, around) →
    Works p i outside
      { p with around, conversations := p.conversations.insert n (c.hear a next) }
  | wait (n : Nat) (c : Conversation) (q : Question) (next : Answer q → Dialogue Answer Verdict)
    (load : Nat) (around : Surroundings) :
    p.desks i = some n → p.conversations.get? n = some c → c.rest = .ask q next →
    p.around.answer c.load outside q = (.inr load, around) →
    Works p i outside
      { p with around, conversations := p.conversations.insert n (c.await load) }

/-- To take a delivery is an act on the stream. -/
theorem step_take {p : Pool workers} {d : Delivery} {s : EventStream}
    (h : p.stream.take? = some (d, s)) :
    p.around.ledger.step .take = ⟨p.log ++ [.handed d], s⟩ := by
  have ht : p.around.ledger.stream.take? = some (d, s) := h
  simp [Ledger.step, note, after, ht, log]

/-- A turn of a worker at a delivery that was received is one of the steps. -/
theorem works_work {p : Pool workers} {i : Fin workers}
    (hd : ∀ n, p.desks i = some n → ∃ c, p.conversations.get? n = some c)
    (outside : (q : Question) → Answer q) : Works p i outside (p.work i outside) := by
  unfold work
  cases hi : p.desks i with
  | none =>
      simp only [receive]
      cases hq : p.stream.queue with
      | nil =>
          have ht : p.stream.take? = none := by rw [take?, hq]
          rw [ht]
          exact .idle hi hq
      | cons e rest =>
          obtain ⟨d, s, ht⟩ : ∃ d s, p.stream.take? = some (d, s) := ⟨_, _, by rw [take?, hq]⟩
          rw [ht, step_take ht]
          exact .receive d s hi ht
  | some n =>
      obtain ⟨c, hc⟩ := hd n hi
      simp only [hc, goOn]
      cases hr : c.rest with
      | done v => exact .leave n c v hi hc hr
      | ask q next =>
          dsimp only
          rcases ha : p.around.answer c.load outside q with ⟨a | load, around⟩
          · exact .hear n c q next a around hi hc hr ha
          · exact .wait n c q next load around hi hc hr ha

end Pool

namespace Surroundings

/-- Whether the stream and the cache are in order. -/
structure IsSound (s : Surroundings) : Prop where
  stream : EventStream.IsSound s.ledger.stream
  groups : s.groups.IsSourced

/-- Whether one state comes after another. -/
structure IsLater (s t : Surroundings) : Prop where
  groups : Group.Cache.IsLater s.groups t.groups
  next : s.ledger.stream.next ≤ t.ledger.stream.next
  log : s.ledger.log ⊆ t.ledger.log

variable {s : Surroundings}

theorem IsLater.refl (s : Surroundings) : IsLater s s :=
  ⟨.refl _, Nat.le_refl _, fun _ h => h⟩

/-- An act on the stream. -/
def act (s : Surroundings) (a : Act (List UInt8)) : Surroundings :=
  { s with ledger := s.ledger.step a }

theorem next_le_after (log : List (Note (List UInt8))) (s : EventStream)
    (a : Act (List UInt8)) : s.next ≤ (after log s a).next := by
  by_cases ha : a = .take
  · subst ha
    simp only [after, take?]
    split <;> simp
  · rw [(inFlight_after log s ha).1]

theorem IsSound.act (h : s.IsSound) (a : Act (List UInt8)) :
    (s.act a).IsSound ∧ IsLater s (s.act a) := by
  constructor
  · exact ⟨h.stream.after _ a, h.groups⟩
  · exact ⟨.refl _, next_le_after _ _ a, List.subset_append_left _ _⟩

/-- What an answer to a question may be. -/
structure IsAnswer (s : Surroundings) (q : Question) (r : (Answer q ⊕ Nat) × Surroundings) :
    Prop where
  sound : r.2.IsSound
  later : IsLater s r.2
  /-- Only a settlement is an act on the stream. -/
  ledger : r.2.ledger = ((act? q).map s.ledger.step).getD s.ledger
  /-- Members were brought by a look-up of their group. -/
  sourced : ∀ answer group members, r.1 = .inl answer →
    (⟨q, answer⟩ : Exchange Answer) = ⟨.members group, members⟩ →
    ∃ a : Group.Arrival, members = a.members group
  /-- What is waited for is a look-up of the group that is under way. -/
  waits : ∀ load, r.1 = .inr load →
    ∃ group, q = .members group ∧ r.2.groups.loads.get? load = some ⟨group, none⟩

/-- Whether a look-up is one of the group that a question asks for. -/
def IsFor (s : Surroundings) (load : Nat) (q : Question) : Prop :=
  ∃ group l, q = .members group ∧ s.groups.loads.get? load = some l ∧ l.group = group

theorem isAnswer_act (h : s.IsSound) {q : Question} {a : Act (List UInt8)} (hq : act? q = some a)
    (answer : Answer q) : IsAnswer s q (.inl answer, s.act a) := by
  obtain ⟨hs, hl⟩ := h.act a
  refine ⟨hs, hl, by rw [hq]; rfl, ?_, by simp⟩
  rintro answer group members - he
  cases he
  cases hq

theorem isAnswer_members (h : s.IsSound) {load : Option Nat} {group : String}
    (hl : ∀ l ∈ load, s.IsFor l (.members group)) (outside : (q : Question) → Answer q) :
    IsAnswer s (.members group) (s.answer load outside (.members group)) := by
  cases load with
  | some load =>
      obtain ⟨g, l, hg, hl, hlg⟩ := hl load rfl
      cases hg
      have hr : s.groups.result? load = l.result := by simp [Group.Cache.result?, hl]
      simp only [answer, hr]
      cases hm : l.result with
      | none =>
          refine ⟨h, .refl s, rfl, by simp, ?_⟩
          intro other he
          cases he
          refine ⟨group, rfl, hl.trans ?_⟩
          cases l
          cases hlg
          cases hm
          rfl
      | some members =>
          refine ⟨h, .refl s, rfl, ?_, by simp⟩
          intro answer g m ha he
          cases ha
          cases he
          obtain ⟨a, ha⟩ := h.groups.loads load l members hl hm
          exact ⟨a, hlg ▸ ha⟩
  | none =>
      obtain ⟨hs, hlater, hm⟩ := h.groups.ask group
      have hsound : IsSound { s with groups := (s.groups.ask group).2 } := ⟨h.stream, hs⟩
      have hl : IsLater s { s with groups := (s.groups.ask group).2 } :=
        ⟨hlater, Nat.le_refl _, fun _ h => h⟩
      have wait : ∀ load, (s.groups.ask group).2.loads.get? load = some ⟨group, none⟩ →
          IsAnswer s (.members group) (.inr load, { s with groups := (s.groups.ask group).2 }) := by
        intro load hload
        refine ⟨hsound, hl, rfl, by simp, ?_⟩
        intro other he
        cases he
        exact ⟨group, rfl, hload⟩
      simp only [answer]
      cases ha : (s.groups.ask group).1 with
      | kept members =>
          rw [ha] at hm
          obtain ⟨a, hm⟩ := hm
          refine ⟨hsound, hl, rfl, ?_, by simp⟩
          intro answer g m ha he
          cases ha
          cases he
          exact ⟨a, hm.symm⟩
      | await load =>
          rw [ha] at hm
          exact wait load hm
      | load load =>
          rw [ha] at hm
          exact wait load hm

/-- Every answer is one that may be. -/
theorem isAnswer_answer (h : s.IsSound) {load : Option Nat} {q : Question}
    (hl : ∀ l ∈ load, s.IsFor l q) (outside : (q : Question) → Answer q) :
    IsAnswer s q (s.answer load outside q) := by
  have other : ∀ q, act? q = none → (∀ group, q ≠ .members group) → ∀ answer : Answer q,
      IsAnswer s q (.inl answer, s) := by
    intro q ha hm answer
    refine ⟨h, .refl s, by rw [ha]; rfl, ?_, by simp⟩
    intro answer group members _ he
    exact absurd (congrArg Sigma.fst he) (hm group)
  cases q with
  | ack n => exact isAnswer_act h rfl _
  | nack n => exact isAnswer_act h rfl _
  | members group => exact isAnswer_members h hl outside
  | _ => exact other _ rfl (by simp) _

end Surroundings

end Courier.Push
