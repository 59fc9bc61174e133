/-!
# Jobs

A job works on a world in steps and now and then waits: until a moment of a clock that only the
machine moves, or until the world is in a certain state. Between two waits nothing comes in between.
A job may start others, which go on beside it.
-/

namespace Courier.Simulation

/-- A job on a world `W` that ends with a value. -/
inductive Job (W : Type) : Type → Type 1 where
  | done {α : Type} (a : α) : Job W α
  /-- Looks at the time and the world. -/
  | look {α : Type} (next : Nat → W → Job W α) : Job W α
  /-- Changes the world. -/
  | change {α : Type} (w : W) (next : Job W α) : Job W α
  /-- Waits until the world is ready, or a moment has come. -/
  | wait {α : Type} (isReady : W → Bool) (limit : Option Nat) (next : Unit → Job W α) : Job W α
  /-- Starts another job. -/
  | start {α : Type} (other : Job W Unit) (next : Job W α) : Job W α

namespace Job

variable {W α β : Type}

/-- Goes on with another job. -/
def bind {α β : Type} : Job W α → (α → Job W β) → Job W β
  | done a, f => f a
  | look next, f => look fun time w => (next time w).bind f
  | change w next, f => change w (next.bind f)
  | wait isReady limit next, f => wait isReady limit fun u => (next u).bind f
  | start other next, f => start other (next.bind f)

instance : Monad (Job W) where
  pure := done
  bind := bind

/-- The time. -/
def time : Job W Nat :=
  look fun time _ => done time

/-- What is seen in the world. -/
def see (f : W → α) : Job W α :=
  look fun _ w => done (f w)

/-- Changes the world and sees what comes of it, in one step. -/
def act (f : W → α × W) : Job W α :=
  look fun _ w =>
    let (a, v) := f w
    change v (done a)

/-- Changes the world. -/
def modify (f : W → W) : Job W Unit :=
  act fun w => ((), f w)

/-- Waits until a moment. -/
def sleepUntil (moment : Nat) : Job W Unit :=
  wait (fun _ => false) (some moment) done

/-- Waits for a span of time. -/
def sleep (span : Nat) : Job W Unit := do
  sleepUntil ((← time) + span)

/-- Waits until the world is ready. -/
def await (isReady : W → Bool) : Job W Unit :=
  wait isReady none done

/-- Waits until the world is ready, but no longer than a span of time. -/
def awaitFor (isReady : W → Bool) (span : Nat) : Job W Unit := do
  wait isReady (some ((← time) + span)) done

/-- Starts another job. -/
def begin (other : Job W Unit) : Job W Unit :=
  start other (done ())

end Job

end Courier.Simulation
