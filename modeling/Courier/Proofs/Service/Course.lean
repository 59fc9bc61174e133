import Courier.Proofs.Dialogue
import Courier.Service.Server

/-!
# The service in the course of time

A server answers its questions one after the other, and the world outside may be another one at
each of them: the clock goes on between two questions of one operation. A timeline says who answers
which question.
-/

namespace Courier

/-- The collaborators outside at each question, with a clock that starts after 1970 and never goes
back, and with texts that never come again. -/
structure Timeline where
  outside : Nat → Collaborators
  start : 0 ≤ (outside 0).seconds
  forward : ∀ m n, m ≤ n → (outside m).seconds ≤ (outside n).seconds
  fresh : ∀ m n, (outside m).fresh = (outside n).fresh → m = n

/-- The time in seconds at a question. -/
def Timeline.seconds (line : Timeline) (n : Nat) : Int :=
  (line.outside n).seconds

theorem Timeline.seconds_le (line : Timeline) {m n : Nat} (h : m ≤ n) :
    line.seconds m ≤ line.seconds n :=
  line.forward m n h

theorem Timeline.seconds_nonneg (line : Timeline) (n : Nat) : 0 ≤ line.seconds n :=
  Int.le_trans line.start (line.seconds_le (Nat.zero_le n))

/-- A server and the number of the questions it was asked. -/
structure Course where
  server : Server
  asked : Nat

namespace Course

variable {α β : Type} (line : Timeline)

/-- Answers the next question. -/
def answer (q : Question) : StateM Course (Answer q) := fun s =>
  let (a, server) := Server.answer (line.outside s.asked) q s.server
  (a, ⟨server, s.asked + 1⟩)

/-- Runs a computation of the service. -/
def run (c : Service α) : StateM Course (Except ServiceError α) :=
  Dialogue.run (answer line) c.run

/-- Lets time pass for as many questions as others ask. -/
def idle (n : Nat) (s : Course) : Course :=
  { s with asked := s.asked + n }

variable (s : Course)

@[simp] theorem idle_server (n : Nat) : (s.idle n).server = s.server := rfl

@[simp] theorem idle_asked (n : Nat) : (s.idle n).asked = s.asked + n := rfl

@[simp] theorem run_pure (a : α) : run line (pure a) s = (.ok a, s) := rfl

@[simp] theorem run_throw (e : ServiceError) :
    run line (throw e : Service α) s = (.error e, s) := rfl

@[simp] theorem run_ofExcept (r : Except ServiceError α) :
    run line (Service.ofExcept r) s = (r, s) := rfl

/-- What follows a computation runs from where it ended, unless it failed. -/
theorem run_bind (c : Service α) (f : α → Service β) :
    run line (c >>= f) s =
      match run line c s with
      | (.ok a, t) => run line (f a) t
      | (.error e, t) => (.error e, t) := by
  refine (Dialogue.run_except_bind (answer line) c f s).trans ?_
  rw [← show run line c s = c.run.run (answer line) s from rfl]
  rcases run line c s with ⟨_ | _, _⟩ <;> rfl

@[simp] theorem run_now :
    run line Service.now s = (.ok (line.seconds s.asked), ⟨s.server, s.asked + 1⟩) := rfl

@[simp] theorem run_freshId :
    run line Service.freshId s =
      (.ok (line.outside s.asked).fresh, ⟨s.server, s.asked + 1⟩) := rfl

@[simp] theorem run_lookupToken (c : Client) (token : String) :
    run line (Service.lookupToken c token) s =
      (.ok (s.server.tokens.lookup (line.seconds s.asked) c token),
        ⟨s.server, s.asked + 1⟩) := rfl

@[simp] theorem run_issueToken (c : Client) (token : String) (expires : Int) :
    run line (Service.issueToken c token expires) s =
      let done := s.server.tokens.issue (line.seconds s.asked) c token expires
      (.ok done.1, ⟨{ s.server with tokens := done.2 }, s.asked + 1⟩) := rfl

@[simp] theorem run_kickTokens (c : Client) :
    run line (Service.kickTokens c) s =
      let done := s.server.tokens.kickAll (line.seconds s.asked) c
      (.ok done.1, ⟨{ s.server with tokens := done.2 }, s.asked + 1⟩) := rfl

end Course

end Courier
