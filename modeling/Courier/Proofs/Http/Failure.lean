import Courier.Proofs.Http.EmptySecret
import Courier.Proofs.Http.Submission
import Courier.Proofs.Push.TwoWays

/-!
# Requests that fail

A route checks all that can be wrong before it has anything changed, and what is to be changed is
changed as a whole or not at all. Main statement: a request that is not answered with success leaves
the server as it is; only a push may fail after deliveries, and it says so.
-/

namespace Courier

open Dialogue

/-- Whether an exchange tells of no change: a server that answers so is left as it is. -/
def IsIdle (x : Exchange Answer) : Prop :=
  ∀ outside s, (Server.answer outside x.1 s).1 = x.2 → (Server.answer outside x.1 s).2 = s

theorem isIdle_of_quiet {x : Exchange Answer} (h : x.1.IsQuiet) : IsIdle x :=
  fun outside s _ => Server.answer_of_isQuiet h outside s

theorem Gives.eq_of_idle {s t : Server} {talk : List (Exchange Answer)} (h : Gives s talk t)
    (hi : ∀ x ∈ talk, IsIdle x) : t = s := by
  induction h with
  | nil s => rfl
  | @cons s t talk outside q _ ih =>
      rw [ih fun x hx => hi x (List.mem_cons_of_mem _ hx)]
      exact hi _ List.mem_cons_self outside s rfl

/-- Questions about members change nothing but what is known about groups. -/
theorem Gives.exists_groups {s t : Server} {talk : List (Exchange Answer)} (h : Gives s talk t)
    (hq : ∀ x ∈ talk, x.1.IsQuiet ∨ ∃ group, x.1 = .members group) :
    ∃ groups, t = { s with groups } := by
  induction h with
  | nil s => exact ⟨s.groups, rfl⟩
  | @cons s t talk outside q _ ih =>
      obtain ⟨groups, rfl⟩ := ih fun x hx => hq x (List.mem_cons_of_mem _ hx)
      rcases hq _ List.mem_cons_self with hquiet | ⟨group, hgroup⟩
      · rw [Server.answer_of_isQuiet hquiet]
        exact ⟨groups, rfl⟩
      · have hgroup : q = .members group := hgroup
        subst hgroup
        obtain ⟨found, hf⟩ := Push.keeps_lookUp (I := fun u => ∃ groups, u = { s with groups })
          (by rintro _ g ⟨_, rfl⟩; exact ⟨g, rfl⟩) outside group s ⟨s.groups, rfl⟩
        have ha : Server.answer outside (.members group) s = Server.lookUp outside group s := rfl
        rw [ha, hf]
        exact ⟨groups, rfl⟩

namespace Service

variable {α β : Type} {c : Service α} {f : α → Service β}

/-- A computation that fails has failed in its first part or in the second. -/
theorem leads_bind_error_iff {fault : ServiceError} {talk : List (Exchange Answer)} :
    Leads (c >>= f).run talk (.done (.error fault)) ↔
      Leads c.run talk (.done (.error fault)) ∨ ∃ a before after, talk = before ++ after ∧
        Leads c.run before (.done (.ok a)) ∧ Leads (f a).run after (.done (.error fault)) := by
  refine leads_bind_done_iff.trans ⟨?_, ?_⟩
  · rintro ⟨result, before, after, rfl, hb, ha⟩
    cases result with
    | ok a => exact .inr ⟨a, before, after, rfl, hb, ha⟩
    | error e =>
        obtain ⟨rfl, he⟩ := leads_done_done_iff.1 ha
        cases he
        exact .inl (by rwa [List.append_nil])
  · rintro (h | ⟨a, before, after, rfl, hb, ha⟩)
    · exact ⟨_, talk, [], (List.append_nil talk).symm, h, .nil _⟩
    · exact ⟨.ok a, before, after, rfl, hb, ha⟩

/-- Whether a computation that fails has had nothing changed. -/
def IsCareful (c : Service α) : Prop :=
  ∀ talk fault, Leads c.run talk (.done (.error fault)) → ∀ x ∈ talk, IsIdle x

theorem isCareful_of_quiet (h : c.run.Asks Question.IsQuiet) : IsCareful c :=
  fun _ _ hl x hx => isIdle_of_quiet (h.of_leads hl x hx)

/-- What comes first may not change anything. -/
theorem IsCareful.after (h : c.run.Asks Question.IsQuiet) (hf : ∀ a, IsCareful (f a)) :
    IsCareful (c >>= f) := by
  intro talk fault hl
  rcases leads_bind_error_iff.1 hl with hc | ⟨a, before, after, rfl, hb, ha⟩
  · exact isCareful_of_quiet h _ _ hc
  · have hbefore := fun x hx => isIdle_of_quiet (h.of_leads hb x hx)
    exact List.forall_mem_append.2 ⟨hbefore, hf a _ _ ha⟩

/-- What comes after a change may not fail. -/
theorem IsCareful.andThen (h : IsCareful c) {g : α → β} :
    IsCareful (c >>= fun a => pure (g a)) := by
  intro talk fault hl
  rcases leads_bind_error_iff.1 hl with hc | ⟨a, before, after, rfl, hb, ha⟩
  · exact h _ _ hc
  · cases (leads_done_done_iff.1 ha).2

/-- One question is careful if its answer tells of a failure only where nothing was changed. -/
theorem isCareful_ask {q : Question} {next : Answer q → Except ServiceError α}
    (h : ∀ a fault, next a = .error fault → IsIdle ⟨q, a⟩) :
    IsCareful (ExceptT.mk (.ask q fun a => .done (next a))) := by
  intro talk fault hl
  obtain ⟨a, tail, rfl, ht⟩ := leads_ask_done_iff.1 hl
  obtain ⟨rfl, he⟩ := leads_done_done_iff.1 ht
  exact List.forall_mem_singleton.2 (h a fault he.symm)

theorem isCareful_publish (payload : List UInt8) : IsCareful (Service.publish payload) := by
  refine isCareful_ask fun a fault he outside s hs => ?_
  subst he
  have hans : (s.stream.publish payload).1.map (fun _ => ()) = .error fault := hs
  change { s with stream := (s.stream.publish payload).2 } = s
  cases ho : s.stream.isOpen with
  | true => simp [EventStream.publish, ho, Except.map] at hans
  | false => simp [EventStream.publish, ho]

theorem isCareful_invalidate (group : String) : IsCareful (Service.invalidate group) := by
  refine isCareful_ask fun a fault he outside s hs => ?_
  subst he
  change (Server.note group s).1 = .error fault at hs
  change (Server.note group s).2 = s
  rw [Server.note] at hs ⊢
  split
  · rename_i hl
    rw [if_pos hl] at hs
    cases hs
  · rfl

/-! The stores of a server refuse nothing. -/

theorem isCareful_issueToken (c : Client) (token : String) (expires : Int) :
    IsCareful (Service.issueToken c token expires) :=
  isCareful_ask fun _ _ he _ _ hs => by cases hs.trans he

theorem isCareful_kickTokens (c : Client) : IsCareful (Service.kickTokens c) :=
  isCareful_ask fun _ _ he _ _ hs => by cases hs.trans he

theorem isCareful_register (r : Registration) : IsCareful (Service.register r) :=
  isCareful_ask fun _ _ he _ _ hs => by cases hs.trans he

theorem isCareful_unregister (c : Client) : IsCareful (Service.unregister c) :=
  isCareful_ask fun _ _ he _ _ hs => by cases hs.trans he

end Service

namespace Http

open Service

variable {settings : AuthSettings} {r : Request} {c : Client} {talk : List (Exchange Answer)}
  {response : Response}

/-! ### Work of the routes -/

theorem isCareful_userToken (t : TokenRequest) : IsCareful (Work.userToken settings t) := by
  have issue : IsCareful (Token.issue settings t.client) := by
    refine .after trivial fun _ => .after trivial fun _ => .after quiet_now fun now => ?_
    refine .after ⟨trivial, fun _ => trivial⟩ fun id => ?_
    exact (isCareful_issueToken _ _ _).andThen
  exact .after trivial fun _ => issue.andThen

theorem isCareful_forceLogout (d : Client) : IsCareful (Work.forceLogout settings c d) := by
  refine IsCareful.andThen ?_
  unfold Token.forceLogout
  split
  · exact isCareful_of_quiet trivial
  · exact isCareful_kickTokens d

theorem isCareful_updatePushToken (pushToken : String) :
    IsCareful (Work.updatePushToken c pushToken) := by
  refine IsCareful.andThen ?_
  refine .after trivial fun _ => ?_
  split
  · exact isCareful_of_quiet trivial
  · exact .after quiet_nowMs fun now => isCareful_register _

theorem isCareful_sendMessage (s : Submission) : IsCareful (Work.sendMessage c s) := by
  rw [sendMessage_eq]
  refine .after trivial fun selector => .after (quiet_given _) fun id => ?_
  refine .after quiet_nowMs fun now => .after trivial fun _ => ?_
  exact (isCareful_publish _).andThen

theorem isCareful_deletePushToken (d : Client) : IsCareful (Work.deletePushToken d) := by
  refine IsCareful.andThen ?_
  refine .after trivial fun _ => .after trivial fun _ => ?_
  exact (isCareful_unregister d).andThen

theorem isCareful_invalidateGroup (group : String) : IsCareful (Work.invalidateGroup group) := by
  refine IsCareful.andThen ?_
  unfold Push.invalidateGroup
  split
  · exact isCareful_of_quiet trivial
  · exact isCareful_invalidate group

/-- Where a caller is named, the work on behalf of the caller is done. -/
theorem exists_of_forCaller {α : Type} {read : Json.Reader α} {work : Client → α → Service Json}
    {bound : Option Identity} {w : Service Json}
    (h : Route.act.forCaller r bound read work = .ok w) :
    (∃ e, w = throw e) ∨ ∃ i a, work (Identity.client i) a = w := by
  unfold Route.act.forCaller at h
  split at h
  · exact .inl ⟨_, (Except.ok.inj h).symm⟩
  · obtain ⟨a, -, hw⟩ := exists_of_withBody h
    exact .inr ⟨_, a, hw⟩

/-- All work but a push is careful. -/
theorem isCareful_of_act {route : Route} {bound : Option Identity} {work : Service Json}
    (hr : route ≠ .pushMessage) (h : route.act settings r bound = .ok work) : IsCareful work := by
  have caller : ∀ {α : Type} (read : Json.Reader α) (f : Client → α → Service Json),
      (∀ c a, IsCareful (f c a)) → Route.act.forCaller r bound read f = .ok work →
        IsCareful work := by
    intro α read f hf hw
    rcases exists_of_forCaller hw with ⟨e, rfl⟩ | ⟨i, a, rfl⟩
    · exact isCareful_of_quiet trivial
    · exact hf _ a
  cases route with
  | health =>
      cases h
      exact isCareful_of_quiet trivial
  | userToken =>
      obtain ⟨t, -, rfl⟩ := exists_of_withBody h
      exact isCareful_userToken t
  | parseToken =>
      obtain ⟨token, -, rfl⟩ := exists_of_withBody h
      exact isCareful_of_quiet (quiet_parseToken token)
  | forceLogout =>
      exact caller readClient (Work.forceLogout settings) (fun _ => isCareful_forceLogout) h
  | updatePushToken =>
      exact caller (readOneText "fcm_token") Work.updatePushToken
        (fun _ => isCareful_updatePushToken) h
  | sendMessage =>
      exact caller Submission.read Work.sendMessage (fun _ => isCareful_sendMessage) h
  | pushMessage => exact absurd rfl hr
  | deletePushToken =>
      obtain ⟨d, -, rfl⟩ := exists_of_withBody h
      exact isCareful_deletePushToken d
  | invalidateGroup =>
      obtain ⟨group, -, rfl⟩ := exists_of_withBody h
      exact isCareful_invalidateGroup group

/-- A dispatch that fails has asked for members at most. -/
theorem members_of_leads_dispatch {e : Event} {fault : ServiceError}
    (h : Leads (Push.dispatch e).run talk (.done (.error fault))) :
    ∀ x ∈ talk, ∃ group, x.1 = .members group := by
  by_cases hs : e.sender = ""
  · rw [Push.dispatch_of_sender_eq hs] at h
    rw [(leads_done_done_iff.1 h).1]
    exact List.forall_mem_nil _
  · cases he : e.selector with
    | direct user =>
        rw [Push.dispatch_direct hs he] at h
        obtain ⟨report, tail, rfl, ht⟩ := leads_ask_done_iff.1 h
        cases (leads_done_done_iff.1 ht).2
    | group group =>
        rw [Push.dispatch_group hs he] at h
        obtain ⟨answer, tail, rfl, ht⟩ := leads_ask_done_iff.1 h
        cases answer with
        | error fault =>
            rw [(leads_done_done_iff.1 ht).1]
            exact List.forall_mem_singleton.2 ⟨group, rfl⟩
        | ok members =>
            obtain ⟨report, rest, rfl, hr⟩ := leads_ask_done_iff.1 ht
            cases (leads_done_done_iff.1 hr).2

theorem exists_failed_eq (report : Report) :
    ∃ text, Push.failed report = .serviceUnavailable ("push failed for " ++ text) := by
  let reasons := report.failures.map fun f => f.1 ++ ": " ++ f.2
  refine ⟨toString reasons.length ++ (" recipient(s): " ++ ", ".intercalate reasons), ?_⟩
  simp only [Push.failed, String.append_assoc, reasons]

/-- A push that fails has asked for members at most, or tells of recipients that were not
reached. -/
theorem members_of_leads_pushMessage {e : Event} {fault : ServiceError}
    (h : Leads (Work.pushMessage e).run talk (.done (.error fault))) :
    (∃ text, fault = .serviceUnavailable ("push failed for " ++ text)) ∨
      ∀ x ∈ talk, ∃ group, x.1 = .members group := by
  obtain ⟨result, before, after, rfl, hb, ha⟩ := leads_bind_done_iff.1 h
  replace hb : Leads (Push.pushMessage e).run before (.done result) := hb
  rw [Push.run_pushMessage, leads_bind_pure_iff] at hb
  obtain ⟨brought, hd, rfl⟩ := hb
  cases brought with
  | error e =>
      obtain ⟨rfl, he⟩ := leads_done_done_iff.1 ha
      rw [List.append_nil]
      exact .inr (members_of_leads_dispatch hd)
  | ok report =>
      left
      cases hr : report.isSuccess with
      | true =>
          simp only [Push.returned, hr, if_true] at ha
          cases (leads_done_done_iff.1 ha).2
      | false =>
          simp only [Push.returned, hr, Bool.false_eq_true, if_false] at ha
          cases (leads_done_done_iff.1 ha).2
          exact exists_failed_eq report

/-! ### Answers that tell of a failure -/

/-- What is said of the questions of a route that fails: those before its work are quiet. -/
theorem forall_of_leads_route {p : Exchange Answer → Prop} {route : Route}
    (h : Leads (route.handle settings r) talk (.done response)) (hs : response.isSuccess = false)
    (hq : ∀ x, x.1.IsQuiet → p x)
    (hw : ∀ bound work fault now before, r.method ∈ route.methods →
      route.act settings r bound = .ok work → Leads work.run before (.done (.error fault)) →
      response = .ofError fault now → ∀ x ∈ before, p x) :
    ∀ x ∈ talk, p x := by
  rw [handle_eq] at h
  obtain ⟨x, before, after, rfl, hb, ha⟩ := leads_bind_done_iff.1 h
  refine List.forall_mem_append.2 ⟨fun y hy => hq y ((quiet_enter route).of_leads hb y hy), ?_⟩
  cases x with
  | error e => exact fun y hy => hq y ((quiet_respond (.error e)).of_leads ha y hy)
  | ok bound =>
      rw [Route.follow] at ha
      split at ha
      · rename_i hm
        split at ha
        · rw [(leads_done_done_iff.1 ha).1]
          exact List.forall_mem_nil _
        · rename_i work hact
          obtain ⟨result, worked, last, rfl, hwork, hlast⟩ := leads_bind_done_iff.1 ha
          cases result with
          | ok body =>
              obtain ⟨rfl, rfl⟩ := leads_done_done_iff.1 hlast
              cases hs
          | error fault =>
              refine List.forall_mem_append.2 ⟨?_, fun y hy =>
                hq y ((quiet_respond (.error fault)).of_leads hlast y hy)⟩
              obtain ⟨now, tail, rfl, ht⟩ := leads_ask_done_iff.1 hlast
              exact hw bound work fault now worked hm hact hwork (leads_done_done_iff.1 ht).2
      · rw [(leads_done_done_iff.1 ha).1]
        exact List.forall_mem_nil _

theorem ofPath?_eq_pushMessage_iff {path : String} :
    Route.ofPath? path = some .pushMessage ↔ path = "/push/push_msg" := by
  constructor
  · intro h
    unfold Route.ofPath? at h
    split at h <;> cases h
    rfl
  · rintro rfl
    rfl

/-- A request that fails, and whose route is not to push, is idle. -/
theorem idle_of_failure (h : Leads (handle settings r) talk (.done response))
    (hs : response.isSuccess = false)
    (hr : r.method ≠ "POST" ∨ Route.ofPath? r.path ≠ some .pushMessage) :
    ∀ x ∈ talk, IsIdle x := by
  by_cases hm : r.method = "OPTIONS"
  · rw [handle, if_pos hm] at h
    obtain ⟨rfl, rfl⟩ := leads_done_done_iff.1 h
    cases hs
  · cases hp : Route.ofPath? r.path with
    | none =>
        rw [handle, if_neg hm, hp] at h
        rw [(leads_done_done_iff.1 h).1]
        exact List.forall_mem_nil _
    | some route =>
        obtain ⟨plain, hl, hstatus⟩ := exists_status_of_leads_handle hm hp h
        have hplain : plain.isSuccess = false := by
          rw [Response.isSuccess, ← hstatus]
          exact hs
        refine forall_of_leads_route hl hplain (fun x => isIdle_of_quiet) ?_
        intro bound work fault now before hmem hact hwork _
        refine isCareful_of_act ?_ hact before fault hwork
        rintro rfl
        rcases hr with hr | hr
        · exact hr (List.mem_singleton.1 hmem)
        · exact hr hp

/-- A push that is answered with a failure has asked for members at most, unless its answer tells of
recipients that were not reached. -/
theorem members_of_failure (h : Leads (handle settings r) talk (.done response))
    (hs : response.isSuccess = false) (hm : r.method = "POST")
    (hp : Route.ofPath? r.path = some .pushMessage)
    (hn : ∀ text now, response ≠ .ofError (.serviceUnavailable ("push failed for " ++ text)) now) :
    ∀ x ∈ talk, x.1.IsQuiet ∨ ∃ group, x.1 = .members group := by
  have hmem : r.method ∈ Route.pushMessage.methods := hm ▸ List.mem_singleton_self _
  rw [leads_handle_iff hp hmem hm] at h
  refine forall_of_leads_route h hs (fun x => .inl) ?_
  intro bound work fault now before _ hact hwork hresponse
  obtain ⟨e, -, rfl⟩ := exists_of_withBody hact
  rcases members_of_leads_pushMessage hwork with ⟨text, rfl⟩ | hmembers
  · exact absurd hresponse (hn text now)
  · exact fun x hx => .inr (hmembers x hx)

/-- A request that is not answered with success leaves the server as it is, and would leave any
server so at which something else is done between its questions. A push may fail after deliveries;
if its answer does not tell of recipients that were not reached, no event was handed to a session
and no vendor was asked, and nothing has changed but what is known about groups. Every request is
answered. -/
theorem unchanged_by_failure (settings : AuthSettings) (r : Request) (s : Server) :
    (∀ talk response t, Leads (handle settings r) talk (.done response) → Gives s talk t →
      response.isSuccess = false →
      ((r.method ≠ "POST" ∨ r.path ≠ "/push/push_msg") → t = s ∧ ∀ x ∈ talk, IsIdle x) ∧
        (r.method = "POST" → r.path = "/push/push_msg" →
          (∀ text now,
            response ≠ .ofError (.serviceUnavailable ("push failed for " ++ text)) now) →
          (∃ groups, t = { s with groups }) ∧
            ∀ x ∈ talk, x.1.IsQuiet ∨ ∃ group, x.1 = .members group)) ∧
      ∀ outside, ∃ talk,
        Leads (handle settings r) talk (.done (Server.run outside (handle settings r) s).1) ∧
          Gives s talk (Server.run outside (handle settings r) s).2 := by
  refine ⟨fun talk response t hl hg hs => ⟨fun hr => ?_, fun hm hp hn => ?_⟩,
    fun outside => exists_gives outside _ s⟩
  · have idle := idle_of_failure hl hs (hr.imp_right fun hp => mt ofPath?_eq_pushMessage_iff.1 hp)
    exact ⟨hg.eq_of_idle idle, idle⟩
  · have asked := members_of_failure hl hs hm (ofPath?_eq_pushMessage_iff.2 hp) hn
    exact ⟨hg.exists_groups asked, asked⟩

/-- A request from inside to push an event. -/
def pushing (e : Event) : Request where
  method := "POST"
  target := "/push/push_msg"
  headers := [("secret", "s"), ("content-type", "application/json")]
  body := e.encode

theorem header?_pushing (e : Event) :
    (pushing e).header? "secret" = some "s" ∧ (pushing e).isJson = true := by
  have h₁ : "secret".map Char.toLower = "secret" := by decide +kernel
  have h₂ : "secret".map Char.toLower ≠ "content-type" := by decide +kernel
  have h₃ : "content-type".map Char.toLower = "content-type" := by decide +kernel
  have hs : Request.isVisible "s" = true := by decide +kernel
  have hv : Request.isVisible "application/json" = true := by decide +kernel
  have hm : MediaType.isJson "application/json" = true := by decide +kernel
  constructor
  · simp [Request.header?, pushing, h₁, Option.filter, hs]
  · simp [Request.isJson, Request.header?, pushing, h₂, h₃, Option.filter, hv, hm]

theorem leads_pushing {e : Event} (hs : settings.issueSecret = some "s")
    (hi : e.selector.id ≠ "") {fault : ServiceError}
    (h : Leads (Push.dispatch e).run talk (.done (.error fault))) (now : Int) :
    Leads (handle settings (pushing e)) (talk ++ [⟨.now, now⟩]) (.done (.ofError fault now)) := by
  have hroute : Route.ofPath? (pushing e).path = some .pushMessage :=
    ofPath?_eq_pushMessage_iff.2 (path_of_plain rfl (by decide +kernel))
  have hmem : (pushing e).method ∈ Route.pushMessage.methods := List.mem_singleton_self _
  obtain ⟨hsecret, hjson⟩ := header?_pushing e
  have hread : (pushing e).read Event.read = .ok e :=
    read_of_body hjson (Event.whole_toJson e) rfl (Event.read_toJson hi)
  have hact : Route.pushMessage.act settings (pushing e) none = .ok (Work.pushMessage e) := by
    change withBody (pushing e) Event.read _ = _
    rw [withBody, hread]
    rfl
  have hpush : Leads (Push.pushMessage e).run talk (.done (.error fault)) := by
    rw [Push.run_pushMessage]
    exact leads_bind_pure_iff.2 ⟨_, h, rfl⟩
  have hwork : Leads (Work.pushMessage e).run talk (.done (.error fault)) :=
    leads_bind_done_iff.2 ⟨_, talk, [], (List.append_nil talk).symm, hpush, .nil _⟩
  rw [leads_handle_iff hroute hmem rfl, handle_eq]
  refine leads_bind_done_iff.2 ⟨.ok none, [], _, rfl, ?_, ?_⟩
  · have hcheck : Gate.checkSecret settings.issueSecret (some "s") = .ok () :=
      Gate.checkSecret_eq_ok_iff.2 ⟨"s", hs, rfl⟩
    have henter : (Route.pushMessage.enter settings (pushing e)).run = .done (.ok none) := by
      rw [Route.enter, hsecret, hcheck]
      rfl
    rw [henter]
    exact .nil _
  · rw [Route.follow, if_pos hmem, hact]
    have hlast : Leads (respond (.error fault)) [⟨.now, now⟩] (.done (.ofError fault now)) :=
      @Leads.cons _ Answer _ .now _ now [] _ (.nil _)
    exact leads_bind_done_iff.2 ⟨_, talk, _, rfl, hwork, hlast⟩

/-- A message to a group that the source does not know is answered with a failure, and nothing has
changed but what is known about groups. -/
theorem unchanged_by_failure_of_unknown_group :
    let settings : AuthSettings := { issueSecret := some "s" }
    let e : Event := { (default : Event) with sender := "a", selector := .group "g" }
    let talk : List (Exchange Answer) :=
      [⟨.members "g", .error (.notFound "group g")⟩, ⟨.now, (1 : Int)⟩]
    let response := Response.ofError (.notFound "group g") 1
    Leads (handle settings (pushing e)) talk (.done response) ∧ response.isSuccess = false ∧
      ∃ t, Gives (Server.new {}) talk t ∧ (∃ groups, t = { Server.new {} with groups }) ∧
        ∀ x ∈ talk, x.1.IsQuiet ∨ ∃ group, x.1 = .members group := by
  intro settings e talk response
  have hd : Leads (Push.dispatch e).run [⟨.members "g", .error (.notFound "group g")⟩]
      (.done (.error (.notFound "group g"))) := by
    rw [Push.dispatch_group (by decide) rfl]
    exact @Leads.cons _ Answer _ (.members "g") _ (.error (.notFound "group g")) [] _ (.nil _)
  have hl : Leads (handle settings (pushing e)) talk (.done response) :=
    leads_pushing rfl (by decide) hd 1
  let outside : Collaborators :=
    { sampleOutside with members := fun _ => .error (.notFound "group g") }
  have hg : Gives (Server.new {}) talk _ :=
    .cons outside (.members "g") (.cons outside .now (.nil _))
  have hp : (pushing e).path = "/push/push_msg" := path_of_plain rfl (by decide +kernel)
  have hn : ∀ text now,
      response ≠ .ofError (.serviceUnavailable ("push failed for " ++ text)) now := by
    intro text now he
    have hstatus : 404 = 503 := congrArg Response.status he
    exact absurd hstatus (by decide)
  have unchanged := ((unchanged_by_failure settings (pushing e) _).1 talk response _ hl hg rfl).2
  exact ⟨hl, rfl, _, hg, unchanged rfl hp hn⟩

end Http

end Courier
