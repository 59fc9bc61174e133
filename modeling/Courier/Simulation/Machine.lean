import Courier.Simulation.Job

/-!
# The machine

The machine runs jobs one after the other, each as far as it goes without waiting: first the main
job, then the others in the order in which they began to wait. When all of them wait, and only then,
its clock moves to the next moment that one of them waits for.
-/

namespace Courier.Simulation

/-- A job that waits. -/
structure Waiting (W α : Type) where
  isReady : W → Bool
  limit : Option Nat
  next : Unit → Job W α

namespace Waiting

variable {W α : Type}

/-- A job that waits for nothing. -/
def ofJob (job : Job W α) : Waiting W α :=
  ⟨fun _ => true, none, fun _ => job⟩

/-- Whether a job may go on. -/
def goesOn (j : Waiting W α) (time : Nat) (w : W) : Bool :=
  j.isReady w || j.limit.any (· ≤ time)

end Waiting

/-- How far a job has come: to its end, or to a wait. -/
inductive Progress (W α : Type) where
  | over (a : α)
  | waits (j : Waiting W α)

/-- The state of a machine: its clock in milliseconds, its world, and the jobs that wait beside the
main one. -/
structure Machine (W : Type) where
  time : Nat
  world : W
  others : List (Waiting W Unit)

namespace Machine

variable {W α : Type}

/-- Runs a job as far as it goes without waiting. The jobs that it starts wait for their turn. -/
def advance {α : Type} (m : Machine W) : Job W α → Progress W α × Machine W
  | .done a => (.over a, m)
  | .look next => m.advance (next m.time m.world)
  | .change w next => { m with world := w }.advance next
  | .wait isReady limit next =>
    let j : Waiting W α := ⟨isReady, limit, next⟩
    if j.goesOn m.time m.world then m.advance (next ()) else (.waits j, m)
  | .start other next => { m with others := m.others ++ [Waiting.ofJob other] }.advance next

/-- The first of the jobs that may go on, and the rest of them. -/
def next? (m : Machine W) : Option (Waiting W Unit × List (Waiting W Unit)) :=
  match m.others.span fun j => !j.goesOn m.time m.world with
  | (_, []) => none
  | (before, j :: after) => some (j, before ++ after)

/-- Runs one of the other jobs, if one may go on. -/
def turn? (m : Machine W) : Option (Machine W) :=
  m.next?.map fun (j, rest) =>
    match { m with others := rest }.advance (j.next ()) with
    | (.over (), m) => m
    | (.waits j, m) => { m with others := m.others ++ [j] }

/-- Runs the other jobs until each of them waits. -/
def settle : Nat → Machine W → Machine W
  | 0, m => m
  | fuel + 1, m =>
    match m.turn? with
    | some m => m.settle fuel
    | none => m

/-- The next moment that a job waits for. -/
def nextMoment? (m : Machine W) (main : Option Nat) : Option Nat :=
  (main.toList ++ m.others.filterMap Waiting.limit).min?

/-- Runs a main job that waits, and the others beside it. Nothing comes of a main job that waits for
what never comes. -/
def drive {α : Type} : Nat → Machine W → Waiting W α → Option α × Machine W
  | 0, m, _ => (none, m)
  | fuel + 1, m, main =>
    if main.goesOn m.time m.world then
      match m.advance (main.next ()) with
      | (.over a, m) => (some a, m.settle fuel)
      | (.waits main, m) => m.drive fuel main
    else
      match m.turn? with
      | some m => m.drive fuel main
      | none =>
        match m.nextMoment? main.limit with
        | some moment => { m with time := max m.time moment }.drive fuel main
        | none => (none, m)

/-- The number of turns after which a machine stops in any case. -/
def fuel : Nat :=
  4294967296

/-- Runs a main job to its end, and what goes on beside it until it waits. -/
def run {α : Type} (m : Machine W) (main : Job W α) : Option α × Machine W :=
  m.drive fuel (.ofJob main)

end Machine

end Courier.Simulation
