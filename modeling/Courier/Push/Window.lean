import Courier.Capacity

/-!
# Ordered windows

A window lets a bounded number of jobs run at once and hands their results on in the order of the
jobs. A job counts as running until its result is handed on, so a finished one that waits for an
earlier one still takes its place.
-/

namespace Courier.Push

/-- Jobs in their order: those handed on, those begun, and those to come. -/
structure Window (α β : Type) where
  /-- The number of jobs that may run at once. -/
  width : Nat
  width_pos : 0 < width
  waiting : List α
  /-- The jobs that have begun and are not handed on, with their results. -/
  running : List (α × Option β)
  handed : List (α × β)

namespace Window

variable {α β : Type}

/-- A window of at least one place before which all jobs wait. -/
def new (width : Nat) (jobs : List α) : Window α β where
  width := Capacity.atLeastOne width
  width_pos := Capacity.atLeastOne_pos width
  waiting := jobs
  running := []
  handed := []

/-- Whether another job may begin. -/
def hasRoom (w : Window α β) : Bool :=
  w.running.length < w.width

/-- Begins the next job, if there is one and it has room. It is known by the number of jobs before
it. -/
def start? (w : Window α β) : Option ((Nat × α) × Window α β) :=
  match w.waiting with
  | [] => none
  | a :: rest =>
    if w.hasRoom then
      some ((w.handed.length + w.running.length, a),
        { w with waiting := rest, running := w.running ++ [(a, none)] })
    else none

/-- The results at the front, up to the first that is not there yet. -/
def ready : List (α × Option β) → List (α × β)
  | (a, some b) :: rest => (a, b) :: ready rest
  | _ => []

/-- Hands on all results at the front. -/
def handOn (w : Window α β) : Window α β :=
  { w with
    running := w.running.drop (ready w.running).length
    handed := w.handed ++ ready w.running }

/-- Notes the result of a job that runs. -/
def finish (w : Window α β) (job : Nat) (b : β) : Window α β :=
  { w with running := w.running.modify (job - w.handed.length) fun r => (r.1, some b) }.handOn

/-- Whether all results are handed on. -/
def isOver (w : Window α β) : Bool :=
  w.waiting.isEmpty && w.running.isEmpty

/-- All jobs of a window, in their order. -/
def jobs (w : Window α β) : List α :=
  w.handed.map Prod.fst ++ w.running.map Prod.fst ++ w.waiting

theorem map_fst_ready_append_drop (l : List (α × Option β)) :
    (ready l).map Prod.fst ++ (l.drop (ready l).length).map Prod.fst = l.map Prod.fst := by
  fun_induction ready l with
  | case1 a b rest ih => simpa using ih
  | case2 l => simp

@[simp] theorem jobs_handOn (w : Window α β) : w.handOn.jobs = w.jobs := by
  rw [jobs, jobs, ← map_fst_ready_append_drop w.running]
  simp [handOn]

theorem map_fst_modify (l : List (α × Option β)) (n : Nat) (b : β) :
    (l.modify n fun r => (r.1, some b)).map Prod.fst = l.map Prod.fst := by
  induction l generalizing n with
  | nil => simp
  | cons r rest ih => cases n <;> simp [List.modify_succ_cons, ih]

@[simp] theorem jobs_finish (w : Window α β) (job : Nat) (b : β) :
    (w.finish job b).jobs = w.jobs := by
  rw [finish, jobs_handOn]
  simp [jobs, map_fst_modify]

theorem jobs_start {w v : Window α β} {job : Nat × α} (h : w.start? = some (job, v)) :
    v.jobs = w.jobs := by
  unfold start? at h
  cases hw : w.waiting with
  | nil => simp [hw] at h
  | cons a rest =>
    simp only [hw] at h
    split at h
    · obtain ⟨rfl, rfl⟩ : (_, a) = job ∧ _ = v := by simpa using h
      simp [jobs, hw]
    · cases h

end Window

end Courier.Push
