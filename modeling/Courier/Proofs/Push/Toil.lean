import Courier.Proofs.Push.Shift
import Mathlib.Algebra.BigOperators.Group.Finset.Basic
import Mathlib.Algebra.Order.BigOperators.Group.Finset

/-!
# What workers still have to do

Of the questions of a talk each takes a worker two steps at most, one to wait and one to hear. Main
statement: after the stream was closed every move leaves less to do, because a message comes closer
to being handed out, a talk goes on or a worker stops, or it leaves everything in its place.
-/

namespace Courier.Push

open Dialogue EventStream

namespace Conversation

/-- The steps that a worker may still need for a talk: each question takes two at most, one to wait
and one to hear, and one more step leaves. -/
def toil (c : Conversation) : Nat :=
  2 + 2 * (3 - c.talk.length) + if c.load.isNone then 1 else 0

theorem toil_start (d : Delivery) : (start d).toil = 9 := rfl

/-- An answer leaves less to do. -/
theorem toil_hear {s : Surroundings} {n : Nat} {c : Conversation} (h : c.IsFaithful s n)
    {q : Question} {next : Answer q → Dialogue Answer Verdict} (hr : c.rest = .ask q next)
    (a : Answer q) : (c.hear a next).toil < c.toil := by
  have ht : c.talk.length ≤ 2 := by
    rcases leads_process h.course with ⟨-, ht, -⟩ | ⟨v, -, -, -, -, -, hd, -⟩
    · exact ht
    · cases hr.symm.trans hd
  have hl : (c.hear a next).talk.length = c.talk.length + 1 := List.length_append
  have hn : (c.hear a next).load = none := rfl
  simp only [toil, hl, hn, Option.isNone_none, if_true]
  omega

theorem toil_await {c : Conversation} (h : c.load = none) (load : Nat) :
    (c.await load).toil < c.toil := by
  simp [toil, await, h]

end Conversation

/-- Who waits for a look-up goes on waiting for the same one. -/
theorem Surroundings.eq_of_answer_inr {s t : Surroundings} {k load : Nat} {q : Question}
    {outside : (q : Question) → Answer q} (h : s.answer (some k) outside q = (.inr load, t)) :
    load = k ∧ t = s := by
  cases q with
  | members group =>
      simp only [answer] at h
      split at h
      · cases h
      · cases h
        exact ⟨rfl, rfl⟩
  | _ => cases h

namespace Pool

variable {workers : Nat} {p r : Pool workers} {i : Fin workers}

/-- The steps that a worker may still need for its delivery and to stop. -/
def toil (p : Pool workers) (i : Fin workers) : Nat :=
  match p.desks i with
  | none => 1
  | some n => ((p.conversations.get? n).map Conversation.toil).getD 0

/-- A talk that goes on leaves no worker more to do, and who is at it less. -/
theorem toil_insert {n : Nat} {c d : Conversation} (hc : p.conversations.get? n = some c)
    (hd : d.toil < c.toil) (around : Surroundings) (hi : p.desks i = some n) :
    (∀ j, toil { p with around, conversations := p.conversations.insert n d } j ≤ p.toil j) ∧
      toil { p with around, conversations := p.conversations.insert n d } i < p.toil i := by
  constructor
  · intro j
    unfold toil
    dsimp only
    cases p.desks j with
    | none => exact le_rfl
    | some m =>
        by_cases hm : m = n
        · subst hm
          simpa [hc] using hd.le
        · simp [Table.get?_insert, hm]
  · simpa [toil, hi, hc] using hd

/-- All that a turn can do to what the workers have to do: it leaves less of it, or it changes
nothing, or it is a delivery more. -/
theorem Works.toil (h : p.IsRunning) {outside : (q : Question) → Answer q}
    (hw : Works p i outside r) :
    (∀ j, r.toil j ≤ p.toil j) ∧
        (r.toil i < p.toil i ∨ r.desks = p.desks ∧ r.conversations = p.conversations) ∨
      p.toil i = 1 ∧ r.toil i = 9 ∧ (∀ j ≠ i, r.toil j = p.toil j) ∧
        ∃ d, p.stream.take? = some (d, r.stream) := by
  cases hw with
  | idle => exact .inl ⟨fun _ => le_rfl, .inr ⟨rfl, rfl⟩⟩
  | receive d s hi ht =>
      right
      refine ⟨by simp [Pool.toil, hi], by simp [Pool.toil, Conversation.toil_start], ?_, d, ht⟩
      intro j hj
      simp only [Pool.toil, Function.update_of_ne hj]
      cases hm : p.desks j with
      | none => rfl
      | some m =>
          obtain ⟨c, hc⟩ := h.desks j m hm
          obtain ⟨e, rest, -, hd, -⟩ := take?_eq_some ht
          have hlt := h.numbers m c hc
          have hne : m ≠ d.number := by
            rw [hd]
            exact Nat.ne_of_lt hlt
          simp [Table.get?_insert, hne]
  | leave n c v hi hc hr =>
      have hlt : Pool.toil { p with desks := Function.update p.desks i none } i < p.toil i := by
        simp only [Pool.toil, Function.update_self, hi, hc, Conversation.toil, Option.map_some,
          Option.getD_some]
        omega
      refine .inl ⟨fun j => ?_, .inl hlt⟩
      by_cases hj : j = i
      · exact hj ▸ hlt.le
      · simp [Pool.toil, Function.update_of_ne hj]
  | hear n c q next a t hi hc hr ha =>
      have hd := Conversation.toil_hear (h.faithful n c hc) hr a
      exact .inl ((toil_insert hc hd t hi).imp_right .inl)
  | wait n c q next load t hi hc hr ha =>
      left
      cases hl : c.load with
      | none =>
          have hd := Conversation.toil_await hl load
          exact (toil_insert hc hd t hi).imp_right .inl
      | some k =>
          rw [hl] at ha
          obtain ⟨rfl, rfl⟩ := Surroundings.eq_of_answer_inr ha
          have hself : c.await load = c := by
            cases c
            cases hl
            rfl
          rw [hself, Table.insert_eq_self hc]
          exact ⟨fun _ => le_rfl, .inr ⟨rfl, rfl⟩⟩

end Pool

namespace Shift

variable {workers : Nat} {s t : Shift workers} {i : Fin workers} {m : Move workers}

/-- What a worker still has to do. -/
def toil (s : Shift workers) (i : Fin workers) : Nat :=
  if s.stopped i then 0 else s.pool.toil i

/-- What is still to be done: each message that is still to be handed out costs its worker eight
steps more than to stop. -/
def rank (s : Shift workers) : Nat :=
  backlog 8 s.stream + ∑ i, s.toil i

/-- Whether everything is in its place, the rest of the surroundings aside. -/
structure IsLike (s t : Shift workers) : Prop where
  stopped : t.stopped = s.stopped
  desks : t.pool.desks = s.pool.desks
  conversations : t.pool.conversations = s.pool.conversations
  pending : pending t.stream = pending s.stream

namespace IsLike

theorem refl (s : Shift workers) : IsLike s s :=
  ⟨rfl, rfl, rfl, rfl⟩

theorem trans {u : Shift workers} (h : IsLike s t) (k : IsLike t u) : IsLike s u :=
  ⟨k.stopped.trans h.stopped, k.desks.trans h.desks, k.conversations.trans h.conversations,
    k.pending.trans h.pending⟩

theorem symm (h : IsLike s t) : IsLike t s :=
  ⟨h.stopped.symm, h.desks.symm, h.conversations.symm, h.pending.symm⟩

theorem rank_eq (h : IsLike s t) : t.rank = s.rank := by
  have ht : t.toil = s.toil := by
    funext i
    rw [toil, toil, h.stopped, Pool.toil, Pool.toil, h.desks, h.conversations]
  rw [rank, rank, ht, backlog, backlog, h.pending]

end IsLike

/-- What the workers have to do, as far as one of them is concerned. -/
theorem sum_toil_add_le (h : ∀ j ≠ i, t.toil j ≤ s.toil j) :
    ∑ j, t.toil j + s.toil i ≤ ∑ j, s.toil j + t.toil i := by
  have hi := Finset.mem_univ i
  have hle : ∑ j ∈ Finset.univ.erase i, t.toil j ≤ ∑ j ∈ Finset.univ.erase i, s.toil j :=
    Finset.sum_le_sum fun j hj => h j (Finset.ne_of_mem_erase hj)
  rw [← Finset.add_sum_erase _ t.toil hi, ← Finset.add_sum_erase _ s.toil hi]
  omega

/-- A move leaves what is pending, or leaves less to do with it. -/
theorem backlog_move (h : s.IsSound) (ho : s.stream.isOpen = false) (m : Move workers)
    (cost : Nat) : pending (s.move m).stream = pending s.stream ∨
      backlog cost (s.move m).stream < backlog cost s.stream := by
  rcases stream_move h.running m with hm | ⟨a, hm⟩ <;> rw [hm]
  · exact .inl rfl
  · rcases (drain_after s.pool.log h.running.sound.stream ho a).backlog_lt cost with ⟨-, hp⟩ | hlt
    · exact .inl hp
    · exact .inr (Nat.lt_of_le_of_lt (Nat.le_add_right _ _) hlt)

/-- If there is less to do with what is pending and no worker has more to do, the end is nearer. -/
theorem rank_lt_or_isLike
    (hb : pending t.stream = pending s.stream ∨ backlog 8 t.stream < backlog 8 s.stream)
    (hle : ∀ j, t.toil j ≤ s.toil j)
    (hlt : (∃ j, t.toil j < s.toil j) ∨ t.stopped = s.stopped ∧ t.pool.desks = s.pool.desks ∧
      t.pool.conversations = s.pool.conversations) : t.rank < s.rank ∨ IsLike s t := by
  have hsum : ∑ j, t.toil j ≤ ∑ j, s.toil j := Finset.sum_le_sum fun j _ => hle j
  rcases hb with hp | hb
  · rcases hlt with ⟨j, hj⟩ | ⟨ho, hd, hc⟩
    · left
      have hb : backlog 8 t.stream = backlog 8 s.stream := by rw [backlog, backlog, hp]
      rw [rank, rank, hb]
      exact Nat.add_lt_add_left
        (Finset.sum_lt_sum (fun j _ => hle j) ⟨j, Finset.mem_univ j, hj⟩) _
    · exact .inr ⟨ho, hd, hc, hp⟩
  · exact .inl (Nat.add_lt_add_of_lt_of_le hb hsum)

/-- A worker who receives a delivery takes over what was to be done with it. -/
theorem rank_lt_of_take (h : s.IsSound) (ho : s.stream.isOpen = false)
    {d : Delivery} (ht : s.stream.take? = some (d, t.stream)) (hs : s.toil i = 1)
    (hi : t.toil i = 9) (hle : ∀ j ≠ i, t.toil j ≤ s.toil j) : t.rank < s.rank := by
  have hd := drain_after s.pool.log h.running.sound.stream ho .take
  have ht' : s.pool.around.ledger.stream.take? = some (d, t.stream) := ht
  simp only [after, note, ht'] at hd
  have hsum := sum_toil_add_le hle
  rcases hd.backlog_lt 8 with ⟨hn, -⟩ | hlt
  · cases hn
  · have hlt : backlog 8 t.stream + 8 < backlog 8 s.stream := hlt
    rw [rank, rank]
    omega

/-- After the stream was closed every move brings the end nearer or leaves everything in its
place. -/
theorem rank_move (h : s.IsSound) (ho : s.stream.isOpen = false) (m : Move workers) :
    (s.move m).rank < s.rank ∨ IsLike s (s.move m) := by
  have hb := backlog_move h ho m 8
  cases m with
  | work i outside =>
      simp only [move] at hb ⊢
      rcases turn_cases s i outside with ⟨-, ht⟩ | ⟨hi, hd, -, ht⟩ | ⟨hi, -, ht⟩ <;> rw [ht] at hb ⊢
      · exact .inr (.refl s)
      · have hlt : toil { s with stopped := Function.update s.stopped i true } i < s.toil i := by
          simp [toil, hi, Pool.toil, hd]
        refine rank_lt_or_isLike hb (fun j => ?_) (.inl ⟨i, hlt⟩)
        by_cases hj : j = i
        · exact hj ▸ hlt.le
        · simp [toil, Function.update_of_ne hj]
      · have hw := (Pool.works_work (h.running.desks i) outside).toil h.running
        have work : ∀ j, toil { s with pool := s.pool.work i outside } j =
            if s.stopped j then 0 else (s.pool.work i outside).toil j := fun _ => rfl
        rcases hw with ⟨hle, hlt⟩ | ⟨hone, hnine, heq, d, htake⟩
        · refine rank_lt_or_isLike hb (fun j => ?_) (hlt.imp (fun hlt => ⟨i, ?_⟩) fun h => ⟨rfl, h⟩)
          · rw [work, toil]
            split
            · exact le_rfl
            · exact hle j
          · simpa [work, toil, hi] using hlt
        · refine .inl (rank_lt_of_take h ho (d := d) (i := i) ?_ ?_ ?_ fun j hj => ?_)
          · exact htake
          · simpa [toil, hi] using hone
          · simpa [work, hi] using hnine
          · rw [work, toil, heq j hj]
  | _ => exact rank_lt_or_isLike hb (fun _ => le_rfl) (.inr ⟨rfl, rfl, rfl⟩)

end Shift
end Courier.Push
