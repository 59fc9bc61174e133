import Courier.Proofs.Push.Cause
import Courier.Proofs.Stream.Closed

/-!
# Workers that stop

A worker stops when it asks for a delivery and none will ever come: the stream is closed, and no
message is left in the queue, in line or away. Main statement: once all workers have stopped the
stream holds no message at all, and what they have received since it was closed was waiting by then.
-/

namespace Courier.Push

open Dialogue EventStream

/-- Workers at the event stream, of whom some have stopped. -/
structure Shift (workers : Nat) where
  pool : Pool workers
  stopped : Fin workers → Bool

namespace Shift

variable {workers : Nat}

/-- Workers at a new stream, of whom none has stopped. -/
def new (workers capacity delay : Nat) (keeps : Bool) : Shift workers :=
  ⟨.new workers capacity delay keeps, fun _ => false⟩

/-- The stream at which the workers are. -/
def stream (s : Shift workers) : EventStream :=
  s.pool.stream

/-- A turn of a worker. One without a delivery stops if none will ever come. -/
def turn (s : Shift workers) (i : Fin workers) (outside : (q : Question) → Answer q) :
    Shift workers :=
  if s.stopped i then s
  else if s.pool.desks i = none ∧ s.stream.isDrained then
    { s with stopped := Function.update s.stopped i true }
  else { s with pool := s.pool.work i outside }

/-- What comes of a move. -/
def move (s : Shift workers) : Move workers → Shift workers
  | .work i outside => s.turn i outside
  | m => { s with pool := s.pool.move m }

/-- Carries out moves in order. -/
def run (s : Shift workers) (moves : List (Move workers)) : Shift workers :=
  moves.foldl move s

/-- The act on the stream that a turn of a worker brings about. -/
def turnAct? (s : Shift workers) (i : Fin workers) : Option (Act (List UInt8)) :=
  if s.stopped i then none
  else
    match s.pool.desks i with
    | none => if s.stream.queue.isEmpty then none else some .take
    | some n =>
      match (s.pool.conversations.get? n).map Conversation.rest with
      | some (.ask q _) => act? q
      | _ => none

/-- The act on the stream that a move brings about. -/
def moveAct? (s : Shift workers) : Move workers → Option (Act (List UInt8))
  | .work i _ => s.turnAct? i
  | .act a => some a
  | .arrive .. | .ask _ | .invalidate _ => none

/-- The acts on the stream that moves bring about. -/
def acts (s : Shift workers) : List (Move workers) → List (Act (List UInt8))
  | [] => []
  | m :: rest => (s.moveAct? m).toList ++ (s.move m).acts rest

variable {s : Shift workers} {i : Fin workers} {m : Move workers} {moves : List (Move workers)}

theorem run_append (more : List (Move workers)) : s.run (moves ++ more) = (s.run moves).run more :=
  List.foldl_append

theorem acts_append (more : List (Move workers)) :
    s.acts (moves ++ more) = s.acts moves ++ (s.run moves).acts more := by
  induction moves generalizing s with
  | nil => rfl
  | cons m moves ih =>
      simp only [List.cons_append, acts, ih, List.append_assoc, run, List.foldl_cons]

/-- Who has stopped does nothing, one without a delivery stops if none will come, and everyone else
works. -/
theorem turn_cases (s : Shift workers) (i : Fin workers) (outside : (q : Question) → Answer q) :
    (s.stopped i = true ∧ s.turn i outside = s) ∨
      (s.stopped i = false ∧ s.pool.desks i = none ∧ s.stream.isDrained = true ∧
        s.turn i outside = { s with stopped := Function.update s.stopped i true }) ∨
      (s.stopped i = false ∧ ¬ (s.pool.desks i = none ∧ s.stream.isDrained = true) ∧
        s.turn i outside = { s with pool := s.pool.work i outside }) := by
  unfold turn
  cases hi : s.stopped i with
  | true => exact .inl ⟨rfl, if_pos rfl⟩
  | false =>
      right
      rw [if_neg (by simp)]
      by_cases hd : s.pool.desks i = none ∧ s.stream.isDrained = true
      · exact .inl ⟨rfl, hd.1, hd.2, if_pos hd⟩
      · exact .inr ⟨rfl, hd, if_neg hd⟩

/-- What every move keeps while nobody else receives. -/
structure IsSound (s : Shift workers) : Prop where
  running : s.pool.IsRunning
  sole : s.pool.IsSole
  stopped : ∀ i, s.stopped i = true → s.pool.desks i = none ∧ s.stream.isDrained = true

theorem IsSound.new (capacity delay : Nat) (keeps : Bool) :
    IsSound (new workers capacity delay keeps) where
  running := .new capacity delay keeps
  sole := .new capacity delay keeps
  stopped := by simp [Shift.new]

theorem run_toList (l : Ledger (List UInt8)) (a : Option (Act (List UInt8))) :
    l.run a.toList = (a.map l.step).getD l := by
  cases a <;> rfl

/-- A worker acts on the stream as its turn says. -/
theorem ledger_work (h : s.pool.IsRunning) (hi : s.stopped i = false)
    (outside : (q : Question) → Answer q) :
    (s.pool.work i outside).around.ledger = s.pool.around.ledger.run (s.turnAct? i).toList := by
  have hw := Pool.works_work (h.desks i) outside
  generalize s.pool.work i outside = r at hw
  rw [run_toList, turnAct?, if_neg (by simp [hi])]
  cases hw with
  | idle hd hq => simp [hd, stream, hq]
  | receive d t hd ht =>
      obtain ⟨e, rest, hq, -, -⟩ := Pool.take?_eq_some ht
      simp [hd, stream, hq, Pool.step_take ht]
  | leave n c v hd hc hr => simp [hd, hc, hr]
  | hear n c q next a t hd hc hr ha =>
      have hl := ((h.faithful n c hc).isAnswer h.sound hr outside).ledger
      rw [ha] at hl
      simpa only [hd, hc, hr, Option.map_some] using hl
  | wait n c q next load t hd hc hr ha =>
      have hl := ((h.faithful n c hc).isAnswer h.sound hr outside).ledger
      rw [ha] at hl
      simpa only [hd, hc, hr, Option.map_some] using hl

/-- A move acts on the stream as its act says. -/
theorem ledger_move (h : s.pool.IsRunning) (m : Move workers) :
    (s.move m).pool.around.ledger = s.pool.around.ledger.run (s.moveAct? m).toList := by
  cases m with
  | work i outside =>
      simp only [move, moveAct?]
      rcases turn_cases s i outside with ⟨hi, ht⟩ | ⟨hi, hd, hs, ht⟩ | ⟨hi, -, ht⟩
      · simp [ht, turnAct?, hi, Ledger.run]
      · have hq : s.stream.queue.isEmpty = true := by
          simp only [isDrained, Bool.and_eq_true] at hs
          exact hs.1.1.2
        simp [ht, turnAct?, hi, hd, hq, Ledger.run]
      · rw [ht]
        exact ledger_work h hi outside
  | act a => rfl
  | arrive load a => rfl
  | ask group => rfl
  | invalidate group => rfl

/-- A worker works at no desk but its own. -/
theorem desks_work {p : Pool workers} (h : p.IsRunning) {j : Fin workers} (hj : j ≠ i)
    (outside : (q : Question) → Answer q) : (p.work i outside).desks j = p.desks j := by
  have hw := Pool.works_work (h.desks i) outside
  generalize p.work i outside = r at hw
  cases hw with
  | receive => exact Function.update_of_ne hj _ _
  | leave => exact Function.update_of_ne hj _ _
  | idle => rfl
  | hear => rfl
  | wait => rfl

/-- A move leaves the stream or acts on it. -/
theorem stream_move (h : s.pool.IsRunning) (m : Move workers) :
    (s.move m).stream = s.stream ∨ ∃ a, (s.move m).stream = after s.pool.log s.stream a := by
  have hl := congrArg Ledger.stream (ledger_move h m)
  cases ha : s.moveAct? m with
  | none =>
      rw [ha] at hl
      exact .inl hl
  | some a =>
      rw [ha] at hl
      exact .inr ⟨a, hl⟩

theorem isDrained_move (h : s.pool.IsRunning) (hs : s.stream.isDrained = true)
    (m : Move workers) : (s.move m).stream.isDrained = true := by
  rcases stream_move h m with hm | ⟨a, hm⟩ <;> rw [hm]
  · exact hs
  · exact isDrained_after _ h.sound.stream hs a

theorem closed_move (h : s.pool.IsRunning) (ho : s.stream.isOpen = false) (m : Move workers) :
    (s.move m).stream.isOpen = false := by
  rcases stream_move h m with hm | ⟨a, hm⟩ <;> rw [hm]
  · exact ho
  · exact closed_after _ ho a

/-- A move leaves the pool or is one of the pool. -/
theorem pool_move (s : Shift workers) (m : Move workers) :
    (s.move m).pool = s.pool ∨ (s.move m).pool = s.pool.move m := by
  cases m with
  | work i outside =>
      simp only [move]
      rcases turn_cases s i outside with ⟨-, ht⟩ | ⟨-, -, -, ht⟩ | ⟨-, -, ht⟩ <;> rw [ht]
      · exact .inl rfl
      · exact .inl rfl
      · exact .inr rfl
  | _ => exact .inr rfl

/-- Who has stopped after a move has no delivery, and had stopped before or stops as none will
come. -/
theorem stopped_move (h : s.IsSound) {j : Fin workers} (hj : (s.move m).stopped j = true) :
    (s.move m).pool.desks j = none ∧ (s.stopped j = true ∨ s.stream.isDrained = true) := by
  cases m with
  | work i outside =>
      simp only [Shift.move] at hj ⊢
      rcases turn_cases s i outside with ⟨-, ht⟩ | ⟨-, hd, hs, ht⟩ | ⟨hi, -, ht⟩ <;> rw [ht] at hj ⊢
      · exact ⟨(h.stopped j hj).1, .inl hj⟩
      · by_cases hji : j = i
        · exact ⟨hji ▸ hd, .inr hs⟩
        · have hj : s.stopped j = true := by simpa [Function.update_of_ne hji] using hj
          exact ⟨(h.stopped j hj).1, .inl hj⟩
      · have hji : j ≠ i := by
          rintro rfl
          exact absurd (hi.symm.trans hj) (by decide)
        exact ⟨(desks_work h.running hji outside).trans (h.stopped j hj).1, .inl hj⟩
  | _ => exact ⟨(h.stopped j hj).1, .inl hj⟩

theorem IsSound.move (h : s.IsSound) (hm : m ≠ .act .take) : (s.move m).IsSound where
  running := by
    rcases pool_move s m with hp | hp <;> rw [hp]
    · exact h.running
    · exact h.running.move m
  sole := by
    rcases pool_move s m with hp | hp <;> rw [hp]
    · exact h.sole
    · exact h.sole.move h.running hm
  stopped j hj := by
    obtain ⟨hd, hs⟩ := stopped_move h hj
    exact ⟨hd, isDrained_move h.running (hs.elim (fun hj => (h.stopped j hj).2) id) m⟩

theorem IsSound.run (h : s.IsSound) (hm : ∀ m ∈ moves, m ≠ .act .take) : (s.run moves).IsSound := by
  induction moves generalizing s with
  | nil => exact h
  | cons m moves ih =>
      obtain ⟨hm, hmoves⟩ := List.forall_mem_cons.1 hm
      exact ih (h.move hm) hmoves

theorem ledger_run (h : s.IsSound) (hm : ∀ m ∈ moves, m ≠ .act .take) :
    (s.run moves).pool.around.ledger = s.pool.around.ledger.run (s.acts moves) := by
  induction moves generalizing s with
  | nil => rfl
  | cons m moves ih =>
      obtain ⟨hm, hmoves⟩ := List.forall_mem_cons.1 hm
      rw [acts, Ledger.run, List.foldl_append]
      exact (ih (h.move hm) hmoves).trans (by rw [ledger_move h.running]; rfl)

/-- Once all workers have stopped nothing is left in the stream: a delivery in flight would have a
worker who is not done with it. -/
theorem IsSound.messages_eq_nil (h : s.IsSound) (hw : 0 < workers)
    (hall : ∀ i, s.stopped i = true) : s.stream.messages = [] := by
  have hd := (h.stopped ⟨0, hw⟩ (hall _)).2
  have hf : s.stream.inFlight.keys = [] := by
    apply List.eq_nil_iff_forall_not_mem.2
    intro n hn
    obtain ⟨c, hc, hs⟩ := h.sole.inFlight n hn
    rcases (h.running.isDutiful hc).settled with ⟨-, ⟨i, hi⟩, -⟩ | ⟨-, ⟨ht, -⟩ | ⟨ht, -⟩⟩
    · cases (h.stopped i (hall i)).1.symm.trans hi
    · cases hs.symm.trans ht
    · cases hs.symm.trans ht
  simp only [isDrained, Table.isEmpty, Bool.and_eq_true, List.isEmpty_iff] at hd
  simp only [Table.keys, List.map_eq_nil_iff] at hf
  simp [messages, Table.values, hd, hf]

/-- What is true at every moment after the stream was closed. -/
structure IsClosing (capacity delay : Nat) (start : Shift workers)
    (before after : List (Move workers)) : Prop where
  /-- If messages are told apart by labels, which are taken off again, each that was in the queue,
  in line or away is handed out at most once more, and none that was in flight. -/
  onceMore :
    let l := (Ledger.new capacity delay).run (labelled (start.acts before))
    let k := (Ledger.new capacity delay).run (labelled (start.acts (before ++ after)))
    (start.run before).pool.around.ledger = l.map Prod.snd ∧
      (start.run (before ++ after)).pool.around.ledger = k.map Prod.snd ∧ l.IsOnceMore k
  /-- All that was handed out has been received, and each delivery is dispatched in one talk. -/
  received : ∀ d, .handed d ∈ (start.run (before ++ after)).pool.log →
    ∃ c, (start.run (before ++ after)).pool.conversations.get? d.number = some c ∧
      c.delivery = d ∧ (start.run (before ++ after)).pool.IsDutiful d.number c
  /-- Once all workers have stopped nothing is left. -/
  emptied : (∀ i, (start.run (before ++ after)).stopped i = true) →
    (start.run (before ++ after)).stream.messages = []

theorem isClosing_run (capacity delay : Nat) (keeps : Bool) (hw : 0 < workers)
    {before after : List (Move workers)} (hb : ∀ m ∈ before, m ≠ .act .take)
    (ha : ∀ m ∈ after, m ≠ .act .take) :
    IsClosing capacity delay (new workers capacity delay keeps) (before ++ [.act .close])
      after := by
  have hclose : ∀ m ∈ before ++ [.act .close], m ≠ .act .take := by
    refine List.forall_mem_append.2 ⟨hb, ?_⟩
    simp
  have hall := List.forall_mem_append.2 ⟨hclose, ha⟩
  have hnew : (new workers capacity delay keeps).IsSound := .new capacity delay keeps
  have hs := hnew.run hall
  refine ⟨?_, fun d hd => ?_, hs.messages_eq_nil hw⟩
  · intro l k
    have hl := isConserved_run capacity delay
      ((new workers capacity delay keeps).acts (before ++ [.act .close]))
    have hk := isConserved_run capacity delay
      ((new workers capacity delay keeps).acts (before ++ [.act .close] ++ after))
    refine ⟨(ledger_run hnew hclose).trans hl.1, (ledger_run hnew hall).trans hk.1, ?_⟩
    have hsplit : ∀ s : Shift workers, s.acts [.act .close] = [.close] := fun _ => rfl
    simp only [l, k, acts_append, hsplit]
    exact Ledger.isOnceMore_of_close capacity delay _ _
  · obtain ⟨c, hc, hcd⟩ := hs.sole.handed d hd
    exact ⟨c, hc, hcd, hs.running.isDutiful hc⟩

end Shift
end Courier.Push
