import Courier.Proofs.Dialogue
import Courier.Service.Server

/-!
# Talks with a server

A computation of the service that fails asks nothing more. A server answers the questions of a talk
one after the other, each with the world outside as it is by then. Main statement: a talk of quiet
questions leaves the server as it is.
-/

namespace Courier

open Dialogue

namespace Service

variable {α β : Type} {c : Service α} {f : α → Service β} {p o : Question → Prop}

theorem asks_bind (h : c.run.Asks p) (hf : ∀ a, (f a).run.Asks p) : (c >>= f).run.Asks p := by
  refine Asks.bind h fun result => ?_
  cases result with
  | ok a => exact hf a
  | error e => trivial

theorem asks_bind_once (h : c.run.Asks p) (hf : ∀ a, (f a).run.AsksOnce p o) :
    (c >>= f).run.AsksOnce p o := by
  refine Asks.bind_once h fun result => ?_
  cases result with
  | ok a => exact hf a
  | error e => trivial

theorem asksOnce_bind (h : c.run.AsksOnce p o) (hf : ∀ a, (f a).run.Asks p) :
    (c >>= f).run.AsksOnce p o := by
  refine AsksOnce.bind h fun result => ?_
  cases result with
  | ok a => exact hf a
  | error e => trivial

/-- A talk that brings a value through two computations brings one through each. -/
theorem leads_bind_ok_iff {b : β} {talk : List (Exchange Answer)} :
    Leads (c >>= f).run talk (.done (.ok b)) ↔ ∃ a before after, talk = before ++ after ∧
      Leads c.run before (.done (.ok a)) ∧ Leads (f a).run after (.done (.ok b)) := by
  refine leads_bind_done_iff.trans ⟨?_, ?_⟩
  · rintro ⟨result, before, after, ht, hb, ha⟩
    cases result with
    | ok a => exact ⟨a, before, after, ht, hb, ha⟩
    | error e => cases ha
  · rintro ⟨a, before, after, ht, hb, ha⟩
    exact ⟨.ok a, before, after, ht, hb, ha⟩

end Service

/-- Whether a question changes nothing: it is about the time, a new text or the state of a token. -/
def Question.IsQuiet : Question → Prop
  | .now | .nowMs | .freshId | .lookupToken .. => True
  | _ => False

theorem Server.answer_of_isQuiet {q : Question} (hq : q.IsQuiet) (outside : Collaborators)
    (s : Server) : (Server.answer outside q s).2 = s := by
  cases q with
  | now => rfl
  | nowMs => rfl
  | freshId => rfl
  | lookupToken c token => rfl
  | _ => exact hq.elim

/-- What a server is after the questions of a talk, if no others come between. -/
inductive Gives : Server → List (Exchange Answer) → Server → Prop where
  | nil (s : Server) : Gives s [] s
  | cons {s t : Server} {talk : List (Exchange Answer)} (outside : Collaborators) (q : Question) :
    Gives (Server.answer outside q s).2 talk t →
    Gives s (⟨q, (Server.answer outside q s).1⟩ :: talk) t

namespace Gives

variable {s t : Server} {talk more : List (Exchange Answer)}

theorem exists_of_append (h : Gives s (talk ++ more) t) : ∃ u, Gives s talk u ∧ Gives u more t := by
  induction talk generalizing s with
  | nil => exact ⟨s, .nil s, h⟩
  | cons x talk ih =>
      cases h with
      | cons outside q h =>
          obtain ⟨u, hu, ht⟩ := ih h
          exact ⟨u, .cons outside q hu, ht⟩

theorem eq_of_quiet (h : Gives s talk t) (hq : ∀ x ∈ talk, x.1.IsQuiet) : t = s := by
  induction h with
  | nil s => rfl
  | @cons s t talk outside q _ ih =>
      rw [ih fun x hx => hq x (List.mem_cons_of_mem _ hx),
        Server.answer_of_isQuiet (hq _ List.mem_cons_self)]

/-- One question among quiet ones is asked in the state that there was, and what it changes stays. -/
theorem exists_outside {x : Exchange Answer} (h : Gives s (talk ++ x :: more) t)
    (hb : ∀ y ∈ talk, y.1.IsQuiet) (ha : ∀ y ∈ more, y.1.IsQuiet) :
    ∃ outside, x.2 = (Server.answer outside x.1 s).1 ∧ t = (Server.answer outside x.1 s).2 := by
  obtain ⟨u, hu, ht⟩ := h.exists_of_append
  obtain rfl := hu.eq_of_quiet hb
  cases ht with
  | cons outside q h => exact ⟨outside, rfl, h.eq_of_quiet ha⟩

/-- One question among quiet ones is answered in the state that there was. -/
theorem exists_answer {x : Exchange Answer} (h : Gives s (talk ++ x :: more) t)
    (hb : ∀ y ∈ talk, y.1.IsQuiet) (ha : ∀ y ∈ more, y.1.IsQuiet) :
    ∃ outside, t = (Server.answer outside x.1 s).2 :=
  (h.exists_outside hb ha).imp fun _ => And.right

end Gives

/-- A run of a dialogue is a talk with the server. -/
theorem exists_gives {α : Type} (outside : Collaborators) (d : Dialogue Answer α) (s : Server) :
    ∃ talk, Leads d talk (.done (Server.run outside d s).1) ∧
      Gives s talk (Server.run outside d s).2 := by
  induction d generalizing s with
  | done a => exact ⟨[], .nil _, .nil s⟩
  | ask q next ih =>
      obtain ⟨talk, hl, hg⟩ := ih (Server.answer outside q s).1 (Server.answer outside q s).2
      exact ⟨_, .cons _ hl, .cons outside q hg⟩

end Courier
