import Courier.Push.Window
import Mathlib.Init

/-!
# Slots of a window

The jobs of a window that have begun stand in slots, numbered in their order, whether their results
are handed on or not. Main statements: beginning a job adds a slot, finishing one fills its slot,
and while jobs are left one of the two can be done.
-/

namespace Courier.Push.Window

variable {α β : Type} {w v : Window α β} {job : Nat} {a : α} {b : β}

/-- All jobs that have begun, with their results. -/
def slots (w : Window α β) : List (α × Option β) :=
  w.handed.map (fun x => (x.1, some x.2)) ++ w.running

/-- Whether all results at the front are handed on. -/
def IsTight (w : Window α β) : Prop :=
  ready w.running = []

theorem map_ready_append_drop (l : List (α × Option β)) :
    (ready l).map (fun x => (x.1, some x.2)) ++ l.drop (ready l).length = l := by
  fun_induction ready l with
  | case1 a b rest ih => simpa using ih
  | case2 l => simp

theorem ready_drop (l : List (α × Option β)) : ready (l.drop (ready l).length) = [] := by
  fun_induction ready l with
  | case1 a b rest ih => simpa using ih
  | case2 l h =>
      unfold ready
      split
      · rename_i a b rest hl
        exact absurd hl (h a b rest)
      · rfl

theorem slots_handOn (w : Window α β) : w.handOn.slots = w.slots := by
  have h := map_ready_append_drop w.running
  calc
    w.handOn.slots = w.handed.map (fun x => (x.1, some x.2)) ++
        ((ready w.running).map (fun x => (x.1, some x.2)) ++
          w.running.drop (ready w.running).length) := by
      simp [slots, handOn]
    _ = w.slots := by rw [h, slots]

/-- A job without a result is not handed on. -/
theorem length_handed_le (h : w.slots[job]? = some (a, none)) : w.handed.length ≤ job := by
  cases Nat.lt_or_ge job w.handed.length with
  | inl hlt =>
      rw [slots, List.getElem?_append_left (by simpa using hlt), List.getElem?_map] at h
      obtain ⟨x, -, hx⟩ := Option.map_eq_some_iff.1 h
      cases hx
  | inr hle => exact hle

/-- Finishing a job fills its slot. -/
theorem slots_finish (h : w.slots[job]? = some (a, none)) (b : β) :
    (w.finish job b).slots = w.slots.modify job fun r => (r.1, some b) := by
  have hle := length_handed_le h
  rw [finish, slots_handOn, slots, slots]
  apply List.ext_getElem?
  intro k
  rw [List.getElem?_modify]
  cases Nat.lt_or_ge k w.handed.length with
  | inl hk =>
      have hjk : job ≠ k := by omega
      rw [List.getElem?_append_left (by simpa using hk),
        List.getElem?_append_left (by simpa using hk)]
      simp [hjk]
  | inr hk =>
      rw [List.getElem?_append_right (by simpa using hk),
        List.getElem?_append_right (by simpa using hk), List.getElem?_modify, List.length_map]
      have hjk : job - w.handed.length = k - w.handed.length ↔ job = k := by omega
      simp [hjk]

@[simp] theorem waiting_finish (w : Window α β) (job : Nat) (b : β) :
    (w.finish job b).waiting = w.waiting := rfl

theorem isTight_finish (w : Window α β) (job : Nat) (b : β) : (w.finish job b).IsTight :=
  ready_drop _

/-- Beginning a job adds a slot. -/
theorem slots_start (h : w.start? = some ((job, a), v)) :
    job = w.slots.length ∧ w.waiting = a :: v.waiting ∧ v.slots = w.slots ++ [(a, none)] ∧
      (w.IsTight → v.IsTight) := by
  unfold start? at h
  cases hw : w.waiting with
  | nil => simp [hw] at h
  | cons c rest =>
      simp only [hw] at h
      split at h
      · cases h
        refine ⟨by simp [slots], rfl, by simp [slots], ?_⟩
        intro ht
        rw [IsTight] at ht ⊢
        dsimp only
        cases hr : w.running with
        | nil => simp [ready]
        | cons x running =>
            obtain ⟨c, r⟩ := x
            cases r with
            | none => simp [ready]
            | some b => simp [hr, ready] at ht
      · cases h

/-- While jobs are left, one has no result yet or one can begin. -/
theorem exists_next (ht : w.IsTight) (h : w.isOver = false) :
    (∃ a, w.slots[w.handed.length]? = some (a, none)) ∨ ∃ j v, w.start? = some (j, v) := by
  cases hr : w.running with
  | cons x running =>
      left
      obtain ⟨a, r⟩ := x
      cases r with
      | none => exact ⟨a, by simp [slots, hr]⟩
      | some b => simp [IsTight, hr, ready] at ht
  | nil =>
      right
      cases hw : w.waiting with
      | nil => simp [isOver, hr, hw] at h
      | cons a rest =>
          have hroom : w.hasRoom = true := by simpa [hasRoom, hr] using w.width_pos
          have hs : w.start? = some ((w.handed.length + w.running.length, a),
              { w with waiting := rest, running := w.running ++ [(a, none)] }) := by
            simp only [start?, hw, hroom, if_true]
          exact ⟨_, _, hs⟩

end Courier.Push.Window
