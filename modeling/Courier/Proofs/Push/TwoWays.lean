import Courier.Proofs.Message.Event
import Courier.Proofs.Push.Apart
import Courier.Push.Rpc

/-!
# Two ways to push an event

An event is pushed by a call that waits for the report, or through the stream, as bytes in a
delivery that is settled by a verdict. Main statement: for an event that names whom it is for, both
ways bring its recipients the same and ask the same of the vendors in all circumstances, and the
verdict tells what the call returns. A call that fails for its recipients lists all that were not
reached, once each.
-/

namespace Courier.Push

open Dialogue Registry

/-- Whether a verdict on a delivery tells what a call returns. -/
structure Verdict.Tells (v : Verdict) (result : Except ServiceError Report) : Prop where
  acked : v = .acked ↔ ∃ report, result = .ok report
  dropped : v = .dropped ↔ ∃ text, result = .error (.invalidArgument text)
  nacked : v = .nacked ↔ ∃ fault, result = .error fault ∧ ∀ text, fault ≠ .invalidArgument text

/-- What a call returns of what its dispatch brings. -/
inductive Returns : Except ServiceError Report → Except ServiceError Report → Prop where
  | refused (fault : ServiceError) : Returns (.error fault) (.error fault)
  | reached {report : Report} : (∀ line ∈ report.outcomes, line.2.isFailed = false) →
    Returns (.ok report) (.ok report)
  /-- Recipients that were not reached are listed with the reasons, in the order of the report and
  after their number. -/
  | unreached {report : Report} {lines : List (String × String)} : lines ≠ [] →
    lines.map (fun line => (line.1, Outcome.failed line.2)) =
      report.outcomes.filter (fun line => line.2.isFailed) →
    (lines.map Prod.fst).Nodup →
    Returns (.ok report) (.error (.serviceUnavailable ("push failed for " ++
      toString lines.length ++ " recipient(s): " ++
      ", ".intercalate (lines.map fun line => line.1 ++ ": " ++ line.2))))

/-- What comes of a dialogue that looks up members, has events delivered and settles deliveries. The
settlements are noted, and may be answered by anything. -/
inductive Settles (w : Circumstances) {α : Type} :
    Registry → Dialogue Answer α → α → List Call → List Question → Registry → Prop where
  | done (r : Registry) (a : α) : Settles w r (.done a) a [] [] r
  | members {r t : Registry} {group : String} {next : Members → Dialogue Answer α} {a : α}
      {calls : List Call} {settled : List Question} :
    Settles w r (next (w.members group)) a calls settled t →
    Settles w r (.ask (.members group) next) a calls settled t
  | round {r r' t : Registry} {recipients : List String} {e : Event}
      {next : Report → Dialogue Answer α} {a : α} {first calls : List Call}
      {outcomes : List (String × Outcome)} {settled : List Question} :
    Proceeds w r (recipients.map fun user => (user, deliver w.vendors user e)) first outcomes r' →
    Settles w r' (next ⟨outcomes⟩) a calls settled t →
    Settles w r (.ask (.deliver recipients e) next) a (first ++ calls) settled t
  | settle {r t : Registry} {q : Question} {next : Answer q → Dialogue Answer α} {a : α}
      {calls : List Call} {settled : List Question} (answer : Answer q) : q.settles = true →
    Settles w r (next answer) a calls settled t →
    Settles w r (.ask q next) a calls (q :: settled) t

variable {w : Circumstances} {r t u : Registry} {e : Event} {calls calls' : List Call}
  {number : Nat} {v : Verdict} {result result' : Except ServiceError Report}

/-! ### What a call returns -/

/-- What a call returns when its dispatch is over. -/
def returned : Except ServiceError Report → Except ServiceError Report
  | .ok report => if report.isSuccess then .ok report else .error (failed report)
  | .error fault => .error fault

theorem run_pushMessage (e : Event) :
    (pushMessage e).run = (dispatch e).run >>= fun brought => pure (returned brought) := by
  refine congrArg (Dialogue.bind (dispatch e).run) (funext fun brought => ?_)
  cases brought with
  | error fault => rfl
  | ok report =>
      change (if report.isSuccess = true then (pure report : Service Report)
        else throw (failed report)).run = .done (returned (.ok report))
      rw [returned]
      split <;> rfl

/-- The verdict on a dispatch tells what the call would return. -/
theorem tells_ofDispatch (brought : Except ServiceError Report) :
    (Verdict.ofDispatch brought).Tells (returned brought) := by
  rcases brought with fault | report
  · cases fault <;> constructor <;> simp [Verdict.ofDispatch, returned]
  · cases h : report.isSuccess <;> constructor <;> simp [Verdict.ofDispatch, returned, failed, h]

theorem map_failures (report : Report) :
    report.failures.map (fun line => (line.1, Outcome.failed line.2)) =
      report.outcomes.filter (fun line => line.2.isFailed) := by
  obtain ⟨outcomes⟩ := report
  rw [Report.failures]
  induction outcomes with
  | nil => rfl
  | cons line outcomes ih =>
      obtain ⟨user, outcome⟩ := line
      cases outcome <;> simpa [Outcome.isFailed, Outcome.reason?] using ih

theorem failures_sublist (report : Report) :
    (report.failures.map Prod.fst).Sublist report.recipients := by
  have h : report.failures.map Prod.fst =
      (report.outcomes.filter fun line => line.2.isFailed).map Prod.fst := by
    rw [← map_failures, List.map_map]
    rfl
  rw [h]
  exact List.filter_sublist.map Prod.fst

/-- What a call returns of a report that names no recipient twice. -/
theorem returns_returned {brought : Except ServiceError Report}
    (hn : ∀ report, brought = .ok report → report.recipients.Nodup) :
    Returns brought (returned brought) := by
  rcases brought with fault | report
  · exact .refused fault
  · cases hs : report.isSuccess with
    | true =>
        have hr : returned (.ok report) = .ok report := by simp only [returned, hs, if_true]
        rw [hr]
        exact .reached (by simpa [Report.isSuccess] using hs)
    | false =>
        have hr : returned (.ok report) = .error (failed report) := by
          simp [returned, hs]
        have hne : report.failures ≠ [] := by
          intro he
          have h := map_failures report
          rw [he, List.map_nil, eq_comm, List.filter_eq_nil_iff] at h
          have : report.isSuccess = true := by simpa [Report.isSuccess] using h
          simp [this] at hs
        rw [hr, failed]
        simp only [List.length_map]
        exact .unreached hne (map_failures report)
          ((failures_sublist report).nodup (hn report rfl))

/-! ### What comes of both ways -/

section Dialogues

variable {α β : Type} {a : α} {d : Dialogue Answer β} {asked : List Question}

theorem unfolds_bind_pure_iff {f : β → α} :
    Unfolds w r (d >>= fun b => pure (f b)) a calls t ↔ ∃ b, Unfolds w r d b calls t ∧ a = f b := by
  induction d generalizing r calls with
  | done b =>
      have h : (Dialogue.done b >>= fun b => pure (f b)) =
        (Dialogue.done (f b) : Dialogue Answer α) := rfl
      rw [h, unfolds_done_iff]
      constructor
      · rintro ⟨rfl, rfl, rfl⟩
        exact ⟨b, .done t b, rfl⟩
      · rintro ⟨b', h, rfl⟩
        obtain ⟨rfl, rfl, rfl⟩ := unfolds_done_iff.1 h
        exact ⟨rfl, rfl, rfl⟩
  | ask q next ih =>
      constructor
      · intro h
        replace h : Unfolds w r (.ask q fun x => next x >>= fun b => pure (f b)) a calls t := h
        cases h with
        | members h =>
            obtain ⟨b, hb, rfl⟩ := (ih _).1 h
            exact ⟨b, .members hb, rfl⟩
        | round hp h =>
            obtain ⟨b, hb, rfl⟩ := (ih _).1 h
            exact ⟨b, .round hp hb, rfl⟩
      · rintro ⟨b, h, rfl⟩
        cases h with
        | members h => exact .members ((ih _).2 ⟨b, h, rfl⟩)
        | round hp h => exact .round hp ((ih _).2 ⟨b, h, rfl⟩)

/-- A dialogue that settles nothing unfolds, and then what follows it goes on. -/
theorem settles_bind_iff (hd : d.Asks fun q => q.settles = false) {f : β → Dialogue Answer α} :
    Settles w r (d >>= f) a calls asked t ↔ ∃ b first rest u, Unfolds w r d b first u ∧
      Settles w u (f b) a rest asked t ∧ calls = first ++ rest := by
  induction d generalizing r calls with
  | done b =>
      constructor
      · exact fun h => ⟨b, [], calls, r, .done r b, h, rfl⟩
      · rintro ⟨b', first, rest, u, hb, h, rfl⟩
        obtain ⟨rfl, rfl, rfl⟩ := unfolds_done_iff.1 hb
        exact h
  | ask q next ih =>
      constructor
      · intro h
        replace h : Settles w r (.ask q fun x => next x >>= f) a calls asked t := h
        cases h with
        | members h =>
            obtain ⟨b, first, rest, u, hb, hn, rfl⟩ := (ih _ (hd.2 _)).1 h
            exact ⟨b, first, rest, u, .members hb, hn, rfl⟩
        | @round _ _ _ _ _ _ _ begun _ _ _ hp h =>
            obtain ⟨b, first, rest, u, hb, hn, rfl⟩ := (ih _ (hd.2 _)).1 h
            exact ⟨b, begun ++ first, rest, u, .round hp hb, hn, (List.append_assoc ..).symm⟩
        | settle answer hq h => cases hd.1.symm.trans hq
      · rintro ⟨b, first, rest, u, hb, h, rfl⟩
        cases hb with
        | members hb => exact .members ((ih _ (hd.2 _)).2 ⟨b, _, _, u, hb, h, rfl⟩)
        | round hp hb =>
            rw [List.append_assoc]
            exact .round hp ((ih _ (hd.2 _)).2 ⟨b, _, _, u, hb, h, rfl⟩)

/-- What comes of a settlement with which a dialogue ends. -/
theorem settles_settle_iff {q : Question} (hq : q.settles = true) {b : α} :
    Settles w r (.ask q fun _ => .done b) a calls asked t ↔
      a = b ∧ calls = [] ∧ asked = [q] ∧ t = r := by
  constructor
  · intro h
    cases h with
    | members => cases hq
    | round => cases hq
    | settle answer _ h =>
        cases h
        exact ⟨rfl, rfl, rfl, rfl⟩
  · rintro ⟨rfl, rfl, rfl, rfl⟩
    obtain ⟨answer⟩ : Nonempty (Answer q) := by
      cases q with
      | ack number => exact ⟨.ok ()⟩
      | nack number => exact ⟨.ok ()⟩
      | _ => cases hq
    exact .settle answer hq (.done t a)

/-- One dialogue after another has a run of each. -/
theorem runs_bind_iff {outside : Collaborators} {width : Nat} {s s' : Server}
    {f : β → Dialogue Answer α} :
    Runs outside width s (d >>= f) a s' ↔ ∃ b u, Runs outside width s d b u ∧
      Runs outside width u (f b) a s' := by
  induction d generalizing s with
  | done b =>
      constructor
      · exact fun h => ⟨b, s, .done s b, h⟩
      · rintro ⟨b', u, hb, h⟩
        cases hb
        exact h
  | ask q next ih =>
      constructor
      · intro h
        replace h : Runs outside width s (.ask q fun x => next x >>= f) a s' := h
        cases h with
        | ask hq h =>
            obtain ⟨b, u, hb, hn⟩ := (ih _).1 h
            exact ⟨b, u, .ask hq hb, hn⟩
      · rintro ⟨b, u, hb, h⟩
        cases hb with
        | ask hq hb => exact .ask hq ((ih _).2 ⟨b, u, hb, h⟩)

end Dialogues

/-- A dispatch settles no delivery. -/
theorem asks_dispatch_settles (e : Event) :
    (dispatch e).run.Asks fun q => q.settles = false := by
  by_cases hs : e.sender = ""
  · rw [dispatch_of_sender_eq hs]
    trivial
  · cases he : e.selector with
    | direct user =>
        rw [dispatch_direct hs he]
        exact ⟨rfl, fun _ => trivial⟩
    | group group =>
        rw [dispatch_group hs he]
        refine ⟨rfl, fun answer => ?_⟩
        cases answer with
        | error fault => trivial
        | ok members => exact ⟨rfl, fun _ => trivial⟩

/-- To process the bytes of an event is to dispatch it and to settle its delivery. -/
theorem process_encode (named : e.selector.id ≠ "") (number : Nat) :
    process number e.encode = (dispatch e).run >>= fun brought =>
      .ask (settlement number (.ofDispatch brought)) fun _ => .done (.ofDispatch brought) := by
  have hj : judge e.encode = (dispatch e).run >>= fun brought => pure (.ofDispatch brought) := by
    rw [judge, Event.decode_encode named]
    rfl
  rw [process_eq, hj, bind_assoc]
  rfl

theorem unfolds_pushMessage_iff :
    Unfolds w r (pushMessage e).run result calls t ↔ ∃ brought,
      Unfolds w r (dispatch e).run brought calls t ∧ result = returned brought := by
  rw [run_pushMessage, unfolds_bind_pure_iff]

theorem settles_process_iff (named : e.selector.id ≠ "") {settled : List Question} :
    Settles w r (process number e.encode) v calls settled t ↔ ∃ brought,
      Unfolds w r (dispatch e).run brought calls t ∧ v = .ofDispatch brought ∧
        settled = [settlement number v] := by
  rw [process_encode named, settles_bind_iff (asks_dispatch_settles e)]
  simp only [settles_settle_iff (settles_settlement number _)]
  constructor
  · rintro ⟨brought, first, rest, u, h, ⟨rfl, rfl, rfl, rfl⟩, rfl⟩
    exact ⟨brought, by rwa [List.append_nil], rfl, rfl⟩
  · rintro ⟨brought, h, rfl, rfl⟩
    exact ⟨brought, calls, [], t, h, ⟨rfl, rfl, rfl, rfl⟩, (List.append_nil calls).symm⟩

theorem exists_answers_settles_iff {outside : Collaborators} {width : Nat} {s s' : Server}
    {q : Question} (hq : q.settles = true) :
    (∃ answer, Answers outside width s q answer s') ↔ (Server.answer outside q s).2 = s' := by
  constructor
  · rintro ⟨answer, h⟩
    cases h with
    | deliver => cases hq
    | other => rfl
  · rintro rfl
    refine ⟨_, .other q fun recipients e he => ?_⟩
    subst he
    cases hq

/-- However the deliveries go on in a window, a delivery is settled by what its dispatch brings. -/
theorem runs_process_iff (named : e.selector.id ≠ "") {outside : Collaborators} {width : Nat}
    {s s' : Server} :
    Runs outside width s (process number e.encode) v s' ↔ ∃ brought s₁,
      Runs outside width s (dispatch e).run brought s₁ ∧ v = .ofDispatch brought ∧
        (Server.answer outside (settlement number v) s₁).2 = s' := by
  rw [process_encode named, runs_bind_iff]
  refine exists_congr fun brought => exists_congr fun s₁ => and_congr_right fun _ => ?_
  have hq := settles_settlement number (.ofDispatch brought)
  constructor
  · intro h
    cases h with
    | ask ha h =>
        cases h
        exact ⟨rfl, (exists_answers_settles_iff hq).1 ⟨_, ha⟩⟩
  · rintro ⟨rfl, hs⟩
    obtain ⟨answer, ha⟩ := (exists_answers_settles_iff hq).2 hs
    exact .ask ha (.done _ _)

theorem runs_pushMessage_iff {outside : Collaborators} {width : Nat} {s s' : Server} :
    Runs outside width s (pushMessage e).run result s' ↔ ∃ brought,
      Runs outside width s (dispatch e).run brought s' ∧ result = returned brought := by
  rw [run_pushMessage, runs_bind_iff]
  refine exists_congr fun brought => ⟨?_, ?_⟩
  · rintro ⟨u, h, hr⟩
    cases hr
    exact ⟨h, rfl⟩
  · rintro ⟨h, rfl⟩
    exact ⟨s', h, .done _ _⟩

/-! ### Two runs -/

/-- What a dispatch brings is the same in all runs. -/
theorem Unfolds.eq_of_recipients (h : Unfolds w r (dispatch e).run result calls t)
    (hr : r.IsOwned) {users : List String} (hu : w.recipients e = .ok users) :
    result = .ok ⟨users.map fun user =>
      (user, (deliver w.vendors user e).result (w.told r))⟩ := by
  have hp := unfolds_dispatch_iff.1 h
  rw [hu] at hp
  obtain ⟨outcomes, rfl, hp⟩ := hp
  have hfst : outcomes.map Prod.fst = users := hp.map_fst.trans (map_fst_round w.vendors users e)
  have hn : (outcomes.map Prod.fst).Nodup := hfst.symm ▸ Circumstances.nodup_recipients hu
  have line : ∀ x ∈ outcomes, (x.1, (deliver w.vendors x.1 e).result (w.told r)) = x := by
    intro x hx
    have hm : x.1 ∈ users := hfst ▸ List.mem_map_of_mem hx
    obtain ⟨report, hreport, ho⟩ := (h.alone hr (Circumstances.addresses_iff.2 ⟨users, hu, hm⟩)).1
    cases hreport
    exact Prod.ext rfl (Option.some.inj (ho.symm.trans (lookup_eq_some hn hx)))
  have lines : outcomes.map (fun x => (x.1, (deliver w.vendors x.1 e).result (w.told r))) =
      outcomes := (List.map_congr_left line).trans (List.map_id outcomes)
  rw [← hfst, List.map_map]
  exact congrArg (fun lines => Except.ok (Report.mk lines)) lines.symm

/-- In which order the deliveries go on makes no difference. -/
theorem Unfolds.alike (h : Unfolds w r (dispatch e).run result calls t)
    (g : Unfolds w r (dispatch e).run result' calls' u) (hr : r.IsOwned) :
    result' = result ∧ (∀ user, callsFor user calls' = callsFor user calls) ∧
      ∀ user, (r.sessions user).map (fun s => u.inbox? s.number) =
        (r.sessions user).map fun s => t.inbox? s.number := by
  refine ⟨?_, fun user => ?_, fun user => List.map_congr_left fun s hs => ?_⟩
  · cases hu : w.recipients e with
    | error fault =>
        rw [unfolds_dispatch_iff, hu] at h g
        exact g.1.trans h.1.symm
    | ok users => rw [h.eq_of_recipients hr hu, g.eq_of_recipients hr hu]
  · by_cases ha : w.Addresses e user
    · rw [(h.alone hr ha).2.1, (g.alone hr ha).2.1]
    · have none : ∀ {result calls t}, Unfolds w r (dispatch e).run result calls t →
          callsFor user calls = [] := fun h =>
        List.eq_nil_iff_forall_not_mem.2 fun x hx => ha (h.addresses (mem_callsFor.1 hx))
      rw [none h, none g]
  · by_cases ha : w.Addresses e user
    · rw [(h.alone hr ha).2.2 s hs, (g.alone hr ha).2.2 s hs]
    · rw [(h.spares ha).inbox _ (hr.not_isOthers hs), (g.spares ha).inbox _ (hr.not_isOthers hs)]

theorem Unfolds.nodup_recipients {report : Report}
    (h : Unfolds w r (dispatch e).run (.ok report) calls t) : report.recipients.Nodup := by
  rw [unfolds_dispatch_iff] at h
  cases hu : w.recipients e with
  | error fault =>
      rw [hu] at h
      cases h.1
  | ok users =>
      rw [hu] at h
      obtain ⟨outcomes, he, hp⟩ := h
      cases he
      rw [Report.recipients, hp.map_fst, map_fst_round]
      exact Circumstances.nodup_recipients hu

/-- One verdict alone tells what a call returns. -/
theorem Verdict.Tells.unique {v' : Verdict} (h : v.Tells result) (h' : v'.Tells result) :
    v' = v := by
  cases v with
  | acked => exact h'.acked.2 (h.acked.1 rfl)
  | nacked => exact h'.nacked.2 (h.nacked.1 rfl)
  | dropped => exact h'.dropped.2 (h.dropped.1 rfl)

/-- Whatever was done with the sessions before, an event that names whom it is for comes to the same
as bytes from the stream and by a call: each way can take any course that the other takes, with the
same questions and the same sessions after them; and in any two courses the verdict tells what the
call returns, the same is asked for each user, with the same answers, and the inboxes hold the same.
The stream learns the verdict by one question. Unless the event is refused, what the call returns
is the report or a list of the recipients that were not reached. With the deliveries in a window of
any width, bytes are processed as the call is, and then settled. -/
theorem two_ways_alike (e : Event) (named : e.selector.id ≠ "") (number : Nat) (w : Circumstances)
    (capacity : Nat) (operations : List Registry.Operation) :
    let r := (Registry.new capacity).operateAll operations
    (∀ v calls settled t, Settles w r (process number e.encode) v calls settled t ↔
      settled = [settlement number v] ∧
        ∃ result, v.Tells result ∧ Unfolds w r (pushMessage e).run result calls t) ∧
      (∀ v calls settled t result calls' u,
        Settles w r (process number e.encode) v calls settled t →
        Unfolds w r (pushMessage e).run result calls' u →
        v.Tells result ∧ (∀ user, callsFor user calls' = callsFor user calls) ∧
          ∀ user, (r.sessions user).map (fun s => u.inbox? s.number) =
            (r.sessions user).map fun s => t.inbox? s.number) ∧
      (∀ result calls t, Unfolds w r (pushMessage e).run result calls t → ∃ brought,
        Unfolds w r (dispatch e).run brought calls t ∧ Returns brought result) ∧
      (∃ result calls t, Unfolds w r (pushMessage e).run result calls t) ∧
      ∀ outside width s v s', Runs outside width s (process number e.encode) v s' ↔
        ∃ result s₁, v.Tells result ∧ Runs outside width s (pushMessage e).run result s₁ ∧
          (Server.answer outside (settlement number v) s₁).2 = s' := by
  intro r
  have hr : r.IsOwned := (IsOwned.new capacity).operateAll operations
  refine ⟨fun v calls settled t => ?_, fun v calls settled t result calls' u h g => ?_,
    fun result calls t h => ?_, ?_, fun outside width s v s' => ?_⟩
  · rw [settles_process_iff named]
    constructor
    · rintro ⟨brought, h, rfl, rfl⟩
      exact ⟨rfl, _, tells_ofDispatch brought, unfolds_pushMessage_iff.2 ⟨brought, h, rfl⟩⟩
    · rintro ⟨rfl, result, hv, h⟩
      obtain ⟨brought, hd, rfl⟩ := unfolds_pushMessage_iff.1 h
      exact ⟨brought, hd, (tells_ofDispatch brought).unique hv, rfl⟩
  · obtain ⟨brought, hd, rfl, -⟩ := (settles_process_iff named).1 h
    obtain ⟨brought', gd, rfl⟩ := unfolds_pushMessage_iff.1 g
    obtain ⟨rfl, same⟩ := hd.alike gd hr
    exact ⟨tells_ofDispatch brought', same⟩
  · obtain ⟨brought, hd, rfl⟩ := unfolds_pushMessage_iff.1 h
    refine ⟨brought, hd, returns_returned fun report hb => ?_⟩
    subst hb
    exact hd.nodup_recipients
  · obtain ⟨brought, calls, t, h⟩ := exists_unfolds w r e
    exact ⟨_, calls, t, unfolds_pushMessage_iff.2 ⟨brought, h, rfl⟩⟩
  · rw [runs_process_iff named]
    constructor
    · rintro ⟨brought, s₁, h, rfl, hs⟩
      exact ⟨_, s₁, tells_ofDispatch brought, runs_pushMessage_iff.2 ⟨brought, h, rfl⟩, hs⟩
    · rintro ⟨result, s₁, hv, h, hs⟩
      obtain ⟨brought, hd, rfl⟩ := runs_pushMessage_iff.1 h
      exact ⟨brought, s₁, hd, (tells_ofDispatch brought).unique hv, hs⟩

/-- A message that the vendor of its recipient refuses is to be delivered again, and a call with it
names the recipient and the reason. -/
theorem two_ways_alike_of_refusal :
    let e : Event := { (default : Event) with sender := "a", selector := .direct "b" }
    let w : Circumstances := {
      vendors := [.apns]
      store := (∅ : RegistrationStore).operateAll [.register ⟨"b", 1, "device", 0⟩]
      members := fun _ => .ok []
      gateway := fun _ => none
      lookUp := fun _ => some (.ok ())
      notify := fun _ _ _ => some (.error (.provider "gone")) }
    let r := (Registry.new 1).operateAll []
    e.selector.id ≠ "" ∧ ∃ calls t, Settles w r (process 7 e.encode) .nacked calls [.nack 7] t ∧
      Unfolds w r (pushMessage e).run (.error (.serviceUnavailable
        "push failed for 1 recipient(s): b: Push provider error: gone")) calls t := by
  intro e w r
  have named : e.selector.id ≠ "" := by decide
  let talks := [("b", deliver w.vendors "b" e)]
  have told : (w.inTurn talks r).1 = [("b", .failed "Push provider error: gone")] := by rfl
  obtain ⟨calls, hp⟩ := Proceeds.exists_inTurn w r talks
  rw [told] at hp
  have h : Unfolds w r (dispatch e).run (.ok ⟨[("b", .failed "Push provider error: gone")]⟩) calls
      (w.inTurn talks r).2 := by
    have hu : w.recipients e = .ok ["b"] := by rfl
    rw [unfolds_dispatch_iff, hu]
    exact ⟨_, rfl, hp⟩
  have g := unfolds_pushMessage_iff.2 ⟨_, h, rfl⟩
  have hv := tells_ofDispatch (.ok ⟨[("b", .failed "Push provider error: gone")]⟩)
  have both := ((two_ways_alike e named 7 w 1 []).1 .nacked calls [.nack 7] _).2 ⟨rfl, _, hv, g⟩
  exact ⟨named, calls, _, both, g⟩

end Courier.Push
