import Courier.Proofs.Commutes
import Courier.Proofs.Session.Owned
import Courier.Service.Server

/-!
# Deliveries one after the other

The deliveries of one event to several users, each as far as it has come, are finished in order.
Main statement: a question of one of them can be answered before all that is left of those that come
first, since deliveries to different users do not notice each other.
-/

namespace Courier.Push

open Dialogue DeliveryQuestion

/-- Whether a question hands an event to no other user's sessions. -/
def DeliveryQuestion.IsFor (user : String) : DeliveryQuestion → Prop
  | .online u _ => u = user
  | .registrations _ | .notify .. => True

/-- What is left of a delivery. -/
abbrev Talk := Dialogue DeliveryAnswer Outcome

theorem asks_attempts {p : DeliveryQuestion → Prop}
    (hp : ∀ vendor target n, p (.notify vendor target n)) (vendors : List Vendor)
    (n : Notification) (registrations : List Registration) :
    (attempts vendors n registrations).Asks p := by
  induction registrations with
  | nil => trivial
  | cons r registrations ih =>
      rw [attempts]
      cases channel vendors r.platform with
      | error fault => exact ih
      | ok vendor => exact ⟨hp vendor _ n, fun answer => ih.bind fun _ => trivial⟩

/-- A delivery hands its event to no other user's sessions. -/
theorem asks_deliver (vendors : List Vendor) (user : String) (e : Event) :
    (deliver vendors user e).Asks (IsFor user) := by
  refine ⟨rfl, fun answer => ?_⟩
  rcases answer with _ | fault | ⟨sessions⟩ | _
  · trivial
  · trivial
  · trivial
  · dsimp only
    split
    · trivial
    · rw [deliverOffline]
      split
      · trivial
      · refine ⟨trivial, fun answer => ?_⟩
        rcases answer with _ | fault | registrations
        · trivial
        · trivial
        · exact (asks_attempts (fun _ _ _ => trivial) vendors _ registrations).map

/-- Whether each session is on the list of one user only. -/
def IsOwned (s : Server) : Prop :=
  s.sessions.IsOwned

section Answers

variable (outside : Collaborators)

theorem keeps_answerDelivery (q : DeliveryQuestion) :
    Keeps IsOwned (Server.answerDelivery outside q) := by
  intro s hs
  cases q with
  | online user e => exact hs.pushOnline user e
  | registrations user => exact hs
  | notify vendor target n => exact hs

/-- Questions of deliveries to different users do not notice each other. -/
theorem commutes_answerDelivery {user other : String} (hu : user ≠ other) {q p : DeliveryQuestion}
    (hq : q.IsFor user) (hp : p.IsFor other) :
    Commutes IsOwned (Server.answerDelivery outside q) (Server.answerDelivery outside p) := by
  have quiet : ∀ {q p : DeliveryQuestion}, (∀ u e, q ≠ .online u e) →
      Commutes IsOwned (Server.answerDelivery outside q) (Server.answerDelivery outside p) := by
    intro q p hq
    cases q with
    | online u e => exact absurd rfl (hq u e)
    | notify vendor target n => exact ⟨fun _ _ => rfl, fun _ _ => rfl, fun _ _ => rfl⟩
    | registrations u => cases p <;> exact ⟨fun _ _ => rfl, fun _ _ => rfl, fun _ _ => rfl⟩
  cases q with
  | registrations u => exact quiet (by simp)
  | notify vendor target n => exact quiet (by simp)
  | online u e =>
      cases p with
      | registrations v => exact (quiet (by simp)).symm
      | notify vendor target n => exact (quiet (by simp)).symm
      | online v f =>
          cases hq
          cases hp
          constructor
          · intro s hs
            have h := Registry.pushOnline_comm e f hs hu
            exact congrArg (fun sessions => { s with sessions }) h
          · intro s hs
            exact congrArg some (Registry.resultOf_pushOnline f e hs (Ne.symm hu))
          · intro s hs
            exact congrArg some (Registry.resultOf_pushOnline e f hs hu)

/-- Finishes deliveries, one after the other. -/
def oneByOne (talks : List (String × Talk)) : StateM Server (List (String × Outcome)) :=
  talks.mapM fun x => do return (x.1, ← x.2.run (Server.answerDelivery outside))

variable (s : Server) (x : String × Talk) (talks more : List (String × Talk))

theorem oneByOne_cons :
    oneByOne outside (x :: talks) s =
      let first := x.2.run (Server.answerDelivery outside) s
      let rest := oneByOne outside talks first.2
      ((x.1, first.1) :: rest.1, rest.2) := by
  rw [oneByOne, List.mapM_cons]
  rfl

theorem oneByOne_append :
    oneByOne outside (talks ++ more) s =
      let first := oneByOne outside talks s
      let rest := oneByOne outside more first.2
      (first.1 ++ rest.1, rest.2) := by
  rw [oneByOne, List.mapM_append]
  rfl

theorem oneByOne_done (outcomes : List (String × Outcome)) :
    oneByOne outside (outcomes.map fun x => (x.1, .done x.2)) s = (outcomes, s) := by
  induction outcomes with
  | nil => rfl
  | cons x outcomes ih =>
      rw [List.map_cons, oneByOne_cons]
      exact congrArg (fun r : List (String × Outcome) × Server => (x :: r.1, r.2)) ih

theorem deliverAll_eq (recipients : List String) (e : Event) :
    Server.deliverAll outside recipients e s =
      let r := oneByOne outside (recipients.map fun user =>
        (user, deliver outside.vendors user e)) s
      (⟨r.1⟩, r.2) := by
  rw [oneByOne, List.mapM_map]
  rfl

/-- A question of one delivery can be answered before all that is left of others. -/
theorem oneByOne_ask {user : String} {q : DeliveryQuestion} {next : DeliveryAnswer q → Talk}
    (hu : user ∉ talks.map Prod.fst) (ht : ∀ x ∈ talks, x.2.Asks (IsFor x.1))
    (hq : q.IsFor user) (hs : IsOwned s) :
    oneByOne outside (talks ++ (user, next (Server.answerDelivery outside q s).1) :: more)
        (Server.answerDelivery outside q s).2 =
      oneByOne outside (talks ++ (user, .ask q next) :: more) s := by
  have hk : ∀ x ∈ talks, Keeps IsOwned (do
      return (x.1, ← x.2.run (Server.answerDelivery outside))) := fun x hx =>
    (Keeps.run (fun p _ => keeps_answerDelivery outside p) (ht x hx)).bind fun _ => .pure _
  have hc : Commutes IsOwned (oneByOne outside talks) (Server.answerDelivery outside q) := by
    refine .mapM hk fun x hx => ?_
    have hx1 : x.1 ≠ user := fun he => hu (he ▸ List.mem_map_of_mem hx)
    refine .bind ?_ (.run (fun p _ => keeps_answerDelivery outside p) (ht x hx)) fun _ => .pure _ _
    exact .run (fun p _ => keeps_answerDelivery outside p)
      (fun p hp => commutes_answerDelivery outside hx1 hp hq) (ht x hx)
  have hrun : (Dialogue.ask q next).run (Server.answerDelivery outside)
        (oneByOne outside talks s).2 =
      (next (Server.answerDelivery outside q s).1).run (Server.answerDelivery outside)
        (oneByOne outside talks (Server.answerDelivery outside q s).2).2 := by
    rw [← hc.right s hs, ← hc.state s hs]
    rfl
  rw [oneByOne_append, oneByOne_append]
  dsimp only
  rw [oneByOne_cons, oneByOne_cons, hrun, hc.left s hs]

end Answers

end Courier.Push
