import Courier.Proofs.Push.Beside
import Courier.Proofs.Push.Calls

/-!
# What a dispatch finds around it

The members of a group are looked up, another gateway may look after some users, registrations may
not be had, and vendors may refuse a notification or not answer in time. With all that given, the
deliveries of a dispatch go on beside each other in any order. Main statements: every dispatch can
be finished, and what it brings with any number of deliveries at once is one of the ways in which
they go on.
-/

namespace Courier.Push

open Dialogue DeliveryQuestion

/-- What a dispatch finds around it, apart from the sessions. -/
structure Circumstances where
  /-- The vendors that are set up. -/
  vendors : List Vendor
  store : RegistrationStore
  /-- The members of each group, or why they are not found. -/
  members : String → Members
  /-- What another gateway tells of a user it looks after. The sessions of all other users are in
  the registry. -/
  gateway : String → Option (Timely OnlineResult)
  /-- Whether the registrations of a user can be had. -/
  lookUp : String → Timely Unit
  /-- What comes of a notification that a vendor is to show. -/
  notify : Vendor → Target → Notification → Timely Unit

namespace Circumstances

/-- Answers a question of a delivery. -/
def answer (w : Circumstances) : (q : DeliveryQuestion) → StateM Registry (DeliveryAnswer q)
  | .online user e => fun r =>
    match w.gateway user with
    | none => (some (r.pushOnline user e).1, (r.pushOnline user e).2)
    | some answer => (answer, r)
  | .registrations user => fun r =>
    ((w.lookUp user).map fun found => found.map fun _ => w.store.ofUser user, r)
  | .notify vendor target n => fun r => (w.notify vendor target n, r)

/-- Finishes deliveries, one after the other. -/
def inTurn (w : Circumstances) (talks : List (String × Talk)) :
    StateM Registry (List (String × Outcome)) :=
  talks.mapM fun x => do return (x.1, ← x.2.run w.answer)

/-- The users to whom an event goes, or why it goes to nobody. -/
def recipients (w : Circumstances) (e : Event) : Except ServiceError (List String) := do
  e.validate
  match e.selector with
  | .direct user => .ok (e.directRecipients user)
  | .group group => (w.members group).map e.groupRecipients

/-- Whether an event goes to a user. One with a sender goes to the user it is for or to the members
of its group; the sender gets it too if its other sessions are to get it, and is no recipient as a
member if they are not. -/
def Addresses (w : Circumstances) (e : Event) (user : String) : Prop :=
  e.sender ≠ "" ∧ match e.selector with
    | .direct other => user = other ∨ e.senderSync = true ∧ user = e.sender
    | .group group => ∃ members, w.members group = .ok members ∧ user ∈ members ∧
        (e.senderSync = true ∨ user ≠ e.sender)

/-- What a service finds whose collaborators answer at once. -/
def ofService (outside : Collaborators) (store : RegistrationStore) (members : String → Members) :
    Circumstances where
  vendors := outside.vendors
  store := store
  members := members
  gateway := fun _ => none
  lookUp := fun _ => some (.ok ())
  notify := fun vendor target n => some (outside.notify vendor target n)

end Circumstances

/-- What comes of deliveries that go on beside each other in given circumstances, in any order, up
to their ends. Where `Ends` leaves open what is answered in time, the circumstances say it, so that
two runs can be compared. -/
inductive Proceeds (w : Circumstances) :
    Registry → List (String × Talk) → List Call → List (String × Outcome) → Registry → Prop where
  | ended (r : Registry) (outcomes : List (String × Outcome)) :
    Proceeds w r (outcomes.map fun x => (x.1, .done x.2)) [] outcomes r
  | call {r t : Registry} {before after : List (String × Talk)} {user : String}
      {q : DeliveryQuestion} {next : DeliveryAnswer q → Talk} {calls : List Call}
      {outcomes : List (String × Outcome)} :
    Proceeds w (w.answer q r).2 (before ++ (user, next (w.answer q r).1) :: after) calls
      outcomes t →
    Proceeds w r (before ++ (user, .ask q next) :: after) ((user, ⟨q, (w.answer q r).1⟩) :: calls)
      outcomes t

/-- What comes of a dialogue that looks up members and has events delivered. -/
inductive Unfolds (w : Circumstances) {α : Type} :
    Registry → Dialogue Answer α → α → List Call → Registry → Prop where
  | done (r : Registry) (a : α) : Unfolds w r (.done a) a [] r
  | members {r t : Registry} {group : String} {next : Members → Dialogue Answer α} {a : α}
      {calls : List Call} :
    Unfolds w r (next (w.members group)) a calls t →
    Unfolds w r (.ask (.members group) next) a calls t
  | round {r r' t : Registry} {recipients : List String} {e : Event}
      {next : Report → Dialogue Answer α} {a : α} {first calls : List Call}
      {outcomes : List (String × Outcome)} :
    Proceeds w r (recipients.map fun user => (user, deliver w.vendors user e)) first outcomes r' →
    Unfolds w r' (next ⟨outcomes⟩) a calls t →
    Unfolds w r (.ask (.deliver recipients e) next) a (first ++ calls) t

variable {w : Circumstances} {e : Event} {r t : Registry} {talks : List (String × Talk)}
  {calls : List Call} {outcomes : List (String × Outcome)} {user : String}

namespace Proceeds

/-- There is an outcome for each recipient. -/
theorem map_fst (h : Proceeds w r talks calls outcomes t) :
    outcomes.map Prod.fst = talks.map Prod.fst := by
  induction h with
  | ended r outcomes => simp [Function.comp_def]
  | call _ ih => simpa using ih

/-- Calls are made for recipients only. -/
theorem mem_of_call (h : Proceeds w r talks calls outcomes t) {c : Call} (hc : c ∈ calls) :
    c.1 ∈ talks.map Prod.fst := by
  induction h with
  | ended r outcomes => cases hc
  | call _ ih =>
      rcases List.mem_cons.1 hc with rfl | hc
      · simp
      · simpa using ih hc

/-- A delivery can be finished before the others go on. -/
theorem exists_of_run {before after : List (String × Talk)} (d : Talk)
    (h : Proceeds w (d.run w.answer r).2 (before ++ (user, .done (d.run w.answer r).1) :: after)
      calls outcomes t) :
    ∃ calls, Proceeds w r (before ++ (user, d) :: after) calls outcomes t := by
  induction d generalizing r with
  | done outcome => exact ⟨calls, h⟩
  | ask q next ih =>
      obtain ⟨calls, hn⟩ := ih _ h
      exact ⟨_, .call hn⟩

end Proceeds

theorem Circumstances.inTurn_cons (x : String × Talk) :
    w.inTurn (x :: talks) r =
      let first := x.2.run w.answer r
      let rest := w.inTurn talks first.2
      ((x.1, first.1) :: rest.1, rest.2) := by
  rw [inTurn, List.mapM_cons]
  rfl

/-- To finish deliveries one after the other is one way for them to go on. -/
theorem Proceeds.exists_inTurn (w : Circumstances) (r : Registry) (talks : List (String × Talk)) :
    ∃ calls, Proceeds w r talks calls (w.inTurn talks r).1 (w.inTurn talks r).2 := by
  have after : ∀ ended : List (String × Outcome), ∃ calls,
      Proceeds w r (ended.map (fun x => (x.1, .done x.2)) ++ talks) calls
        (ended ++ (w.inTurn talks r).1) (w.inTurn talks r).2 := by
    induction talks generalizing r with
    | nil =>
        intro ended
        refine ⟨[], ?_⟩
        have h : w.inTurn [] r = ([], r) := rfl
        rw [h, List.append_nil, List.append_nil]
        exact .ended r ended
    | cons x talks ih =>
        intro ended
        rw [Circumstances.inTurn_cons]
        obtain ⟨calls, h⟩ := ih (x.2.run w.answer r).2 (ended ++ [(x.1, (x.2.run w.answer r).1)])
        simp only [List.map_append, List.map_cons, List.map_nil, List.append_assoc,
          List.cons_append, List.nil_append] at h
        exact exists_of_run x.2 h
  exact after []

/-! ### Recipients -/

namespace Circumstances

theorem recipients_of_sender_eq (h : e.sender = "") :
    w.recipients e = .error (.invalidArgument "sender_id is empty") := by
  have hv : e.validate = .error (.invalidArgument "sender_id is empty") := if_pos h
  rw [recipients, hv]
  rfl

theorem recipients_direct (h : e.sender ≠ "") (hs : e.selector = .direct user) :
    w.recipients e = .ok (e.directRecipients user) := by
  have hv : e.validate = .ok () := if_neg h
  rw [recipients, hv, hs]
  rfl

theorem recipients_group (h : e.sender ≠ "") {group : String} (hs : e.selector = .group group) :
    w.recipients e = (w.members group).map e.groupRecipients := by
  have hv : e.validate = .ok () := if_neg h
  rw [recipients, hv, hs]
  rfl

/-- No recipient is named twice. -/
theorem nodup_recipients {users : List String} (h : w.recipients e = .ok users) : users.Nodup := by
  by_cases hs : e.sender = ""
  · rw [recipients_of_sender_eq hs] at h
    cases h
  · cases he : e.selector with
    | direct user =>
        rw [recipients_direct hs he] at h
        cases h
        exact e.nodup_directRecipients user
    | group group =>
        rw [recipients_group hs he] at h
        cases hm : w.members group with
        | error fault =>
            rw [hm] at h
            cases h
        | ok members =>
            rw [hm] at h
            cases h
            exact (e.isFirstCome_groupRecipients members).nodup

/-- The users to whom an event goes are its recipients. -/
theorem addresses_iff :
    w.Addresses e user ↔ ∃ users, w.recipients e = .ok users ∧ user ∈ users := by
  by_cases hs : e.sender = ""
  · simp [Addresses, hs, recipients_of_sender_eq hs]
  · cases he : e.selector with
    | direct other =>
        simp only [Addresses, he, recipients_direct hs he, Event.directRecipients]
        split
        · simp_all
        · simp_all
    | group group =>
        simp only [Addresses, he, recipients_group hs he]
        cases hm : w.members group with
        | error fault => simp [Except.map]
        | ok members => simp [Except.map, (e.isFirstCome_groupRecipients members).mem, hs]

end Circumstances

section Unfolds

variable {α : Type} {a b : α}

theorem unfolds_done_iff : Unfolds w r (.done b) a calls t ↔ a = b ∧ calls = [] ∧ t = r := by
  constructor
  · intro h
    cases h
    exact ⟨rfl, rfl, rfl⟩
  · rintro ⟨rfl, rfl, rfl⟩
    exact .done t a

theorem unfolds_members_iff {group : String} {next : Members → Dialogue Answer α} :
    Unfolds w r (.ask (.members group) next) a calls t ↔
      Unfolds w r (next (w.members group)) a calls t := by
  constructor
  · intro h
    cases h with
    | members h => exact h
  · exact .members

/-- What comes of a delivery with which a dialogue ends. -/
theorem unfolds_deliver_iff {users : List String} {f : Report → α} :
    Unfolds w r (.ask (.deliver users e) fun report : Report => .done (f report)) a calls t ↔
      ∃ outcomes, a = f ⟨outcomes⟩ ∧
        Proceeds w r (users.map fun user => (user, deliver w.vendors user e)) calls outcomes t := by
  constructor
  · intro h
    cases h with
    | round hp hn =>
        obtain ⟨rfl, rfl, rfl⟩ := unfolds_done_iff.1 hn
        rw [List.append_nil]
        exact ⟨_, rfl, hp⟩
  · rintro ⟨outcomes, rfl, hp⟩
    rw [← List.append_nil calls]
    exact .round hp (.done t _)

end Unfolds

/-- What a dispatch brings: it fails with its recipients, or brings a report of deliveries to
them. -/
theorem unfolds_dispatch_iff {result : Except ServiceError Report} :
    Unfolds w r (dispatch e).run result calls t ↔ match w.recipients e with
      | .error fault => result = .error fault ∧ calls = [] ∧ t = r
      | .ok users => ∃ outcomes, result = .ok ⟨outcomes⟩ ∧
          Proceeds w r (users.map fun user => (user, deliver w.vendors user e)) calls outcomes
            t := by
  by_cases hs : e.sender = ""
  · rw [dispatch_of_sender_eq hs, Circumstances.recipients_of_sender_eq hs]
    exact unfolds_done_iff
  · cases he : e.selector with
    | direct user =>
        rw [dispatch_direct hs he, Circumstances.recipients_direct hs he]
        exact unfolds_deliver_iff
    | group group =>
        rw [dispatch_group hs he, Circumstances.recipients_group hs he]
        refine unfolds_members_iff.trans ?_
        cases w.members group with
        | error fault => exact unfolds_done_iff
        | ok members => exact unfolds_deliver_iff

/-- Every dispatch can be finished. -/
theorem exists_unfolds (w : Circumstances) (r : Registry) (e : Event) :
    ∃ result calls t, Unfolds w r (dispatch e).run result calls t := by
  cases hu : w.recipients e with
  | error fault =>
      refine ⟨.error fault, [], r, unfolds_dispatch_iff.2 ?_⟩
      rw [hu]
      exact ⟨rfl, rfl, rfl⟩
  | ok users =>
      let talks := users.map fun user => (user, deliver w.vendors user e)
      obtain ⟨calls, hp⟩ := Proceeds.exists_inTurn w r talks
      refine ⟨.ok ⟨(w.inTurn talks r).1⟩, calls, (w.inTurn talks r).2, unfolds_dispatch_iff.2 ?_⟩
      rw [hu]
      exact ⟨_, rfl, hp⟩

/-! ### Deliveries in a window -/

section Service

variable {outside : Collaborators} {s : Server} (members : String → Members)

@[simp] theorem Circumstances.members_ofService (store : RegistrationStore) :
    (ofService outside store members).members = members :=
  rfl

/-- A service whose collaborators answer at once answers the questions of deliveries so. -/
theorem answerDelivery_eq (q : DeliveryQuestion) :
    Server.answerDelivery outside q s =
      let x := (Circumstances.ofService outside s.registrations members).answer q s.sessions
      (x.1, { s with sessions := x.2 }) := by
  cases q <;> rfl

theorem run_answerDelivery (d : Talk) :
    d.run (Server.answerDelivery outside) s =
      let x := d.run (Circumstances.ofService outside s.registrations members).answer s.sessions
      (x.1, { s with sessions := x.2 }) := by
  induction d generalizing s with
  | done outcome => rfl
  | ask q next ih =>
      have hask : (Dialogue.ask q next).run (Server.answerDelivery outside) s =
          (next (Server.answerDelivery outside q s).1).run (Server.answerDelivery outside)
            (Server.answerDelivery outside q s).2 := rfl
      rw [hask, answerDelivery_eq members, ih]
      rfl

theorem oneByOne_eq (talks : List (String × Talk)) :
    oneByOne outside talks s =
      let x := (Circumstances.ofService outside s.registrations members).inTurn talks s.sessions
      (x.1, { s with sessions := x.2 }) := by
  induction talks generalizing s with
  | nil => rfl
  | cons x talks ih =>
      rw [oneByOne_cons, Circumstances.inTurn_cons, run_answerDelivery members]
      dsimp only
      rw [ih]

/-- A service delivers an event as its circumstances have it. -/
theorem exists_deliverAll (users : List String) (e : Event) :
    ∃ calls, Proceeds (.ofService outside s.registrations members) s.sessions
      (users.map fun user => (user, deliver outside.vendors user e)) calls
      (Server.deliverAll outside users e s).1.outcomes
      (Server.deliverAll outside users e s).2.sessions := by
  rw [deliverAll_eq, oneByOne_eq members]
  exact Proceeds.exists_inTurn _ _ _

/-- However the deliveries go on in a window, they go on beside each other. -/
theorem Runs.exists_unfolds {width : Nat} {result : Except ServiceError Report} {t : Server}
    (hs : IsOwned s) (h : Runs outside width s (dispatch e).run result t) :
    ∃ calls, Unfolds (.ofService outside s.registrations fun group =>
      (Server.lookUp outside group s).1) s.sessions (dispatch e).run result calls t.sessions := by
  rw [runs_iff (asks_dispatch e) hs] at h
  simp only [unfolds_dispatch_iff]
  by_cases he : e.sender = ""
  · rw [dispatch_of_sender_eq he] at h
    rw [Circumstances.recipients_of_sender_eq he]
    cases h
    exact ⟨[], rfl, rfl, rfl⟩
  · cases hsel : e.selector with
    | direct user =>
        rw [dispatch_direct he hsel] at h
        rw [Circumstances.recipients_direct he hsel]
        cases h
        obtain ⟨calls, hp⟩ := exists_deliverAll _ (e.directRecipients user) e
        exact ⟨calls, _, rfl, hp⟩
    | group group =>
        have looked : Server.answer outside (.members group) s = Server.lookUp outside group s :=
          rfl
        rw [dispatch_group he hsel, run_ask, looked] at h
        obtain ⟨hsessions, hregistrations⟩ := keeps_lookUp
          (I := fun t => t.sessions = s.sessions ∧ t.registrations = s.registrations)
          (fun _ _ h => h) outside group s ⟨rfl, rfl⟩
        rw [Circumstances.recipients_group he hsel, Circumstances.members_ofService]
        cases hm : (Server.lookUp outside group s).1 with
        | error fault =>
            rw [hm] at h
            cases h
            exact ⟨[], rfl, rfl, hsessions⟩
        | ok members =>
            rw [hm] at h
            cases h
            obtain ⟨calls, hp⟩ := exists_deliverAll
              (fun group => (Server.lookUp outside group s).1) (e.groupRecipients members) e
            rw [hsessions, hregistrations] at hp
            exact ⟨calls, _, rfl, hp⟩

end Service

end Courier.Push
