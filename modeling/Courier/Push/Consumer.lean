import Courier.Push.Dispatch

/-!
# Consuming the event stream

A delivery from the stream is settled once its event is dispatched and no recipient failed. What can
never be dispatched is settled too, and so dropped: bytes that are no event, and events that are
refused as invalid. Everything else is to be delivered again.
-/

namespace Courier.Push

/-- How a delivery from the stream ends. -/
inductive Verdict where
  | acked
  | nacked
  | dropped
  deriving DecidableEq, Repr, Inhabited

namespace Verdict

/-- The name of a verdict. -/
def name : Verdict → String
  | .acked => "Acked"
  | .nacked => "Nacked"
  | .dropped => "Dropped"

/-- The verdict on an event by what its dispatch brought. -/
def ofDispatch : Except ServiceError Report → Verdict
  | .ok report => if report.isSuccess then .acked else .nacked
  | .error (.invalidArgument _) => .dropped
  | .error _ => .nacked

end Verdict

/-- Dispatches the event that bytes hold, and tells how their delivery ends. -/
def judge (payload : List UInt8) : Dialogue Answer Verdict :=
  match Event.decode payload with
  | .error _ => .done .dropped
  | .ok e => .ofDispatch <$> (dispatch e).run

/-- Settles a delivery, or has it made again. That neither may be possible any more is no matter. -/
def settle (delivery : Nat) : Verdict → Dialogue Answer Unit
  | .acked | .dropped => .ask (.ack delivery) fun _ => .done ()
  | .nacked => .ask (.nack delivery) fun _ => .done ()

/-- Processes a delivery from the stream. -/
def process (delivery : Nat) (payload : List UInt8) : Dialogue Answer Verdict := do
  let verdict ← judge payload
  settle delivery verdict
  return verdict

end Courier.Push
