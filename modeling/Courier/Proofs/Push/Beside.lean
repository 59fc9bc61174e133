import Courier.Proofs.Message.Recipients
import Courier.Proofs.Push.FanOut
import Courier.Proofs.Push.Process

/-!
# Dispatching to many at once

A dispatch asks for the members of a group at most once, and has the event delivered to recipients
of whom none is named twice. Main statement: with deliveries that go on beside each other, in any
order and as many at once as there may be, a dispatch brings what it brings with deliveries one
after the other, and there is one outcome for each recipient, in the order of the recipients.
-/

namespace Courier.Push

open Dialogue

/-- How a question is answered when the deliveries of an event go on beside each other. -/
inductive Answers (outside : Collaborators) (width : Nat) (s : Server) :
    (q : Question) → Answer q → Server → Prop where
  | deliver (recipients : List String) (e : Event) (schedule : List Turn) {f : FanOut} :
    (FanOut.new width recipients s).run outside e schedule = f → f.window.isOver = true →
    Answers outside width s (.deliver recipients e) ⟨f.window.handed⟩ f.server
  | other (q : Question) :
    (∀ recipients e, q ≠ .deliver recipients e) →
    Answers outside width s q (Server.answer outside q s).1 (Server.answer outside q s).2

/-- The runs of a dialogue, each with the value and the state that it leaves. -/
inductive Runs (outside : Collaborators) (width : Nat) {α : Type} :
    Server → Dialogue Answer α → α → Server → Prop where
  | done (s : Server) (a : α) : Runs outside width s (.done a) a s
  | ask {s t u : Server} {q : Question} {next : Answer q → Dialogue Answer α} {answer : Answer q}
    {a : α} :
    Answers outside width s q answer t → Runs outside width t (next answer) a u →
    Runs outside width s (.ask q next) a u

/-- Whether a question names no recipient twice. -/
def IsDistinct : Question → Prop
  | .deliver recipients _ => recipients.Nodup
  | _ => True

section Runs

variable {outside : Collaborators} {width : Nat} {α : Type} {s t : Server}

/-- A look-up of members changes nothing but what is known about groups. -/
theorem keeps_lookUp {I : Server → Prop} (hg : ∀ s groups, I s → I { s with groups })
    (outside : Collaborators) (group : String) : Keeps I (Server.lookUp outside group) := by
  have hw : ∀ {α : Type} (f : Group.Cache → α × Group.Cache), Keeps I (Server.withGroups f) :=
    fun f s => hg s (f s.groups).2
  refine (hw _).bind fun answer => ?_
  cases answer with
  | kept members => exact .pure _
  | await load => exact (hw _).bind fun _ => .pure _
  | load load => exact (hw _).bind fun _ => .pure _

theorem keeps_answer (outside : Collaborators) (q : Question) :
    Keeps IsOwned (Server.answer outside q) := by
  intro s hs
  cases q with
  | deliver recipients e =>
      have hk : Keeps IsOwned (oneByOne outside (recipients.map fun user =>
          (user, deliver outside.vendors user e))) := by
        refine .mapM fun x hx => ?_
        obtain ⟨user, -, rfl⟩ := List.mem_map.1 hx
        exact (Keeps.run (fun q _ => keeps_answerDelivery outside q)
          (asks_deliver outside.vendors user e)).bind fun _ => .pure _
      have h := deliverAll_eq outside s recipients e
      exact (congrArg (fun r : Report × Server => IsOwned r.2) h).mpr (hk s hs)
  | members group => exact keeps_lookUp (fun _ _ h => h) outside group s hs
  | invalidate group =>
      change IsOwned (Server.note group s).2
      rw [Server.note]
      split <;> exact hs
  | _ => exact hs

theorem run_ask (s : Server) (q : Question) (next : Answer q → Dialogue Answer α) :
    Server.run outside (.ask q next) s =
      Server.run outside (next (Server.answer outside q s).1) (Server.answer outside q s).2 :=
  rfl

/-- However the deliveries go on, a question that names no recipient twice has one answer. -/
theorem answers_iff {q : Question} (hq : IsDistinct q) (hs : IsOwned s) {answer : Answer q} :
    Answers outside width s q answer t ↔ Server.answer outside q s = (answer, t) := by
  constructor
  · intro h
    cases h with
    | other q hn => rfl
    | deliver recipients e schedule hf ho =>
        subst hf
        have hn := FanOut.IsOnCourse.new outside e recipients width hs
        exact (hn.run hq schedule).deliverAll_eq ho
  · intro h
    by_cases hd : ∃ recipients e, q = .deliver recipients e
    · obtain ⟨recipients, e, rfl⟩ := hd
      have hc := FanOut.IsOnCourse.new outside e recipients width hs
      obtain ⟨schedule, ho⟩ := FanOut.exists_over outside e hc.tight
      have hr := (hc.run hq schedule).deliverAll_eq ho
      obtain ⟨rfl, rfl⟩ := Prod.mk.inj (hr.symm.trans h)
      exact .deliver recipients e schedule rfl ho
    · obtain ⟨rfl, rfl⟩ : (Server.answer outside q s).1 = answer ∧
          (Server.answer outside q s).2 = t := ⟨congrArg Prod.fst h, congrArg Prod.snd h⟩
      exact .other q fun recipients e he => hd ⟨recipients, e, he⟩

/-- However the deliveries go on, a dialogue that names no recipient twice has one run. -/
theorem runs_iff {d : Dialogue Answer α} (hd : d.Asks IsDistinct) (hs : IsOwned s) {a : α} :
    Runs outside width s d a t ↔ Server.run outside d s = (a, t) := by
  induction d generalizing s with
  | done b =>
      constructor
      · intro h
        cases h
        rfl
      · intro h
        cases h
        exact .done _ _
  | ask q next ih =>
      have hk := keeps_answer outside q s hs
      constructor
      · intro h
        cases h with
        | ask hq hn =>
            have he := (answers_iff hd.1 hs).1 hq
            have hn := (ih _ (hd.2 _) (by rw [he] at hk; exact hk)).1 hn
            rw [run_ask, he]
            exact hn
      · intro h
        exact .ask ((answers_iff hd.1 hs).2 rfl) ((ih _ (hd.2 _) hk).2 h)

end Runs

/-- A dispatch names no recipient twice. -/
theorem asks_dispatch (e : Event) : (dispatch e).run.Asks IsDistinct := by
  by_cases hs : e.sender = ""
  · rw [dispatch_of_sender_eq hs]
    trivial
  · cases he : e.selector with
    | direct user =>
        rw [dispatch_direct hs he]
        exact ⟨e.nodup_directRecipients user, fun _ => trivial⟩
    | group group =>
        rw [dispatch_group hs he]
        refine ⟨trivial, fun answer => ?_⟩
        cases answer with
        | error fault => trivial
        | ok members =>
            exact ⟨(e.isFirstCome_groupRecipients members).nodup, fun _ => trivial⟩

/-- The outcomes of deliveries one after the other are those of the recipients. -/
theorem recipients_deliverAll (outside : Collaborators) (recipients : List String) (e : Event)
    (s : Server) : (Server.deliverAll outside recipients e s).1.recipients = recipients := by
  rw [deliverAll_eq]
  induction recipients generalizing s with
  | nil => rfl
  | cons user recipients ih =>
      rw [List.map_cons, oneByOne_cons]
      exact congrArg (user :: ·) (ih _)

section Dispatch

variable {outside : Collaborators} {e : Event} (he : e.validate = .ok ()) (s : Server)

include he

theorem sender_ne_empty : e.sender ≠ "" := by
  intro hs
  rw [Event.validate, if_pos hs] at he
  cases he

/-- A dispatch to one user brings a report. -/
theorem run_dispatch_direct {user : String} (hs : e.selector = .direct user) :
    ∃ report t, Server.run outside (dispatch e).run s = (.ok report, t) ∧
      report.recipients = e.directRecipients user := by
  rw [dispatch_direct (sender_ne_empty he) hs]
  exact ⟨_, _, rfl, recipients_deliverAll _ _ _ _⟩

/-- A dispatch to a group whose members are found brings a report. -/
theorem run_dispatch_group {group : String} {members : List String}
    (hs : e.selector = .group group) (hm : (Server.lookUp outside group s).1 = .ok members) :
    ∃ report t, Server.run outside (dispatch e).run s = (.ok report, t) ∧
      report.recipients = e.groupRecipients members := by
  rw [dispatch_group (sender_ne_empty he) hs, run_ask,
    show (Server.answer outside (.members group) s).1 = .ok members from hm]
  exact ⟨_, _, rfl, recipients_deliverAll _ _ _ _⟩

end Dispatch

/-- Whatever was done with the sessions before, and however the deliveries of an event go on beside
each other, its dispatch brings what it brings with deliveries one after the other. An event with a
sender has one outcome for each of its recipients, in their order. -/
theorem isOneByOne_dispatch (outside : Collaborators) (width capacity : Nat)
    (operations : List Registry.Operation) (server : Server) (e : Event) :
    let s := { server with sessions := (Registry.new capacity).operateAll operations }
    (∀ result t, Runs outside width s (dispatch e).run result t ↔
      Server.run outside (dispatch e).run s = (result, t)) ∧
      (e.validate = .ok () → match e.selector with
        | .direct user => ∃ report t, Server.run outside (dispatch e).run s = (.ok report, t) ∧
            report.recipients = if e.senderSync ∧ e.sender ≠ user then [user, e.sender] else [user]
        | .group group => ∀ members, (Server.lookUp outside group s).1 = .ok members →
            ∃ report t, Server.run outside (dispatch e).run s = (.ok report, t) ∧
              Event.IsFirstCome (fun user => e.senderSync = true ∨ user ≠ e.sender) members
                report.recipients) ∧
      ∀ recipients schedule, ∃ more, ((FanOut.new width recipients s).run outside e
        (schedule ++ more)).window.isOver = true := by
  intro s
  have hs : IsOwned s := (Registry.IsOwned.new capacity).operateAll operations
  refine ⟨fun result t => runs_iff (asks_dispatch e) hs, fun he => ?_,
    fun recipients schedule => ?_⟩
  · cases hsel : e.selector with
    | direct user => exact run_dispatch_direct he s hsel
    | group group =>
        intro members hm
        obtain ⟨report, t, hr, hu⟩ := run_dispatch_group he s hsel hm
        exact ⟨report, t, hr, hu ▸ e.isFirstCome_groupRecipients members⟩
  · have ht := FanOut.isTight_run outside e (f := FanOut.new width recipients s) rfl schedule
    obtain ⟨more, ho⟩ := FanOut.exists_over outside e ht
    exact ⟨more, by rw [FanOut.run_append, ho]⟩

end Courier.Push
