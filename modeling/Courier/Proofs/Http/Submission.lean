import Courier.Proofs.Http.Authority
import Courier.Proofs.Message.Event
import Courier.Proofs.Push.Process

/-!
# Messages that are accepted

A message that a client submits is put on the event stream as an event of the client. Who consumes
the stream reads the same event and dispatches it, and drops it only if the look-up of its members
was refused as invalid. Main statement: whatever the request is, an answer of success tells of
exactly one event, and nothing about that event is lost on its way.
-/

namespace Courier

open Dialogue

/-- A dialogue that a server runs is answered by the server, question by question. -/
theorem exists_answers {α : Type} (outside : Collaborators) (d : Dialogue Answer α) (s : Server) :
    ∃ talk, Leads d talk (.done (Server.run outside d s).1) ∧
      ∀ x ∈ talk, ∃ u, x.2 = (Server.answer outside x.1 u).1 := by
  induction d generalizing s with
  | done a => exact ⟨[], .nil _, List.forall_mem_nil _⟩
  | ask q next ih =>
      obtain ⟨talk, hl, ha⟩ := ih (Server.answer outside q s).1 (Server.answer outside q s).2
      exact ⟨_, .cons _ hl, List.forall_mem_cons.2 ⟨⟨s, rfl⟩, ha⟩⟩

theorem lookUp_fst (outside : Collaborators) (group : String) (s : Server) :
    (Server.lookUp outside group s).1 =
      match (s.groups.ask group).1 with
      | .kept members => .ok members
      | .await _ | .load _ => outside.members group := by
  unfold Server.lookUp
  simp only [Bind.bind, StateT.bind, Server.withGroups]
  cases (s.groups.ask group).1 <;> rfl

/-- Why a look-up fails is told by the source of members: only members are kept. -/
theorem members_of_lookUp {outside : Collaborators} {group : String} {s : Server}
    {fault : ServiceError} (h : (Server.lookUp outside group s).1 = .error fault) :
    outside.members group = .error fault := by
  rw [lookUp_fst] at h
  split at h
  · cases h
  · exact h
  · exact h

namespace Push

variable {e : Event} {payload : List UInt8} {number : Nat}

/-- Bytes that are read as an event with a sender are dropped only if the look-up of its members was
refused as invalid. -/
theorem exists_of_dropped {talk : List (Exchange Answer)} (hd : Event.decode payload = .ok e)
    (hs : e.sender ≠ "") (h : Leads (process number payload) talk (.done .dropped)) :
    ∃ group text, ⟨.members group, .error (.invalidArgument text)⟩ ∈ talk := by
  rw [process_eq] at h
  obtain ⟨v, before, after, rfl, hb, ha⟩ := leads_bind_done_iff.1 h
  obtain ⟨_, tail, rfl, ht⟩ := leads_ask_done_iff.1 ha
  obtain ⟨-, rfl⟩ := leads_done_done_iff.1 ht
  rcases leads_judge_done hb with ⟨⟨fault, hf⟩, -, -⟩ | ⟨e', result, hd', hr, hv⟩
  · cases hd.symm.trans hf
  cases hd.symm.trans hd'
  rcases dispatch_done hr with ⟨hn, -, -⟩ | ⟨-, fault, ⟨group, hm⟩, rfl⟩ | ⟨-, -, report, rfl⟩
  · exact absurd hn hs
  · cases fault with
    | invalidArgument text => exact ⟨group, text, List.mem_append_left _ hm⟩
    | _ => cases hv
  · cases hr : report.isSuccess <;> simp [Verdict.ofDispatch, hr] at hv

/-- On a server the source itself has refused the look-up then. -/
theorem members_of_dropped {outside : Collaborators} {s : Server}
    (hd : Event.decode payload = .ok e) (hs : e.sender ≠ "")
    (h : (Server.run outside (process number payload) s).1 = .dropped) :
    ∃ group text, outside.members group = .error (.invalidArgument text) := by
  obtain ⟨talk, hl, ha⟩ := exists_answers outside (process number payload) s
  rw [h] at hl
  obtain ⟨group, text, hm⟩ := exists_of_dropped hd hs hl
  obtain ⟨u, hu⟩ := ha _ hm
  exact ⟨group, text, members_of_lookUp hu.symm⟩

end Push

namespace Http

open Service

theorem Submission.selector_eq_ok_iff {s : Submission} {selector : Selector} :
    s.selector = .ok selector ↔ selector.id ≠ "" ∧
      (s.recipient = some selector.id ∧ s.group = none ∧ selector = .direct selector.id ∨
        s.recipient = none ∧ s.group = some selector.id ∧ selector = .group selector.id) := by
  obtain ⟨_, recipient, group, _, _⟩ := s
  cases selector <;> cases recipient <;> cases group <;>
    simp [Submission.selector, Selector.id] <;> grind

/-- Whether an event is what a client submits. Its time, and its id if none is given, are left
open. -/
structure IsSubmitted (c : Client) (s : Submission) (e : Event) : Prop where
  sender : e.sender = c.user
  senderPlatform : e.senderPlatform = some c.platform
  selector :
    s.recipient = some e.selector.id ∧ s.group = none ∧ e.selector = .direct e.selector.id ∨
      s.recipient = none ∧ s.group = some e.selector.id ∧ e.selector = .group e.selector.id
  payload : e.payload = utf8 s.content
  senderSync : e.senderSync = s.senderSync
  clientMsgId : ∀ id, s.clientMsgId = some id → e.clientMsgId = id

/-- What a client is told about an event that it has submitted. -/
def receipt (e : Event) : Json :=
  .object [("client_msg_id", .text e.clientMsgId), ("send_time", .ofInt e.sendTime.toInt)]

variable {settings : AuthSettings} {r : Request} {c : Client} {s : Submission}
  {talk : List (Exchange Answer)} {response : Response}

/-- A submission that is worked off has had one event published, between quiet questions. -/
theorem exists_of_leads_sendMessage {body : Json}
    (h : Leads (Work.sendMessage c s).run talk (.done (.ok body))) :
    ∃ e before, IsSubmitted c s e ∧ e.sender ≠ "" ∧ e.selector.id ≠ "" ∧ body = receipt e ∧
      talk = before ++ [⟨.publish e.encode, .ok ()⟩] ∧ ∀ y ∈ before, y.1.IsQuiet := by
  rw [sendMessage_eq] at h
  obtain ⟨selector, _, _, rfl, hsel, h₁⟩ := leads_bind_ok_iff.1 h
  obtain ⟨id, first, _, rfl, hid, h₂⟩ := leads_bind_ok_iff.1 h₁
  obtain ⟨now, second, _, rfl, hnow, h₃⟩ := leads_bind_ok_iff.1 h₂
  obtain ⟨_, _, _, rfl, hval, h₄⟩ := leads_bind_ok_iff.1 h₃
  obtain ⟨_, _, _, rfl, hpub, h₅⟩ := leads_bind_ok_iff.1 h₄
  obtain ⟨rfl, hs⟩ := leads_done_done_iff.1 hsel
  obtain ⟨rfl, hv⟩ := leads_done_done_iff.1 hval
  obtain ⟨answer, tail, rfl, hrest⟩ := leads_ask_done_iff.1 hpub
  obtain ⟨rfl, ha⟩ := leads_done_done_iff.1 hrest
  obtain ⟨rfl, hbody⟩ := leads_done_done_iff.1 h₅
  obtain ⟨hne, hone⟩ := Submission.selector_eq_ok_iff.1 hs.symm
  refine ⟨Work.submitted c s selector id now, first ++ second, ?_, ?_, hne, ?_, ?_, ?_⟩
  · refine ⟨rfl, rfl, hone, rfl, rfl, ?_⟩
    intro given hg
    rw [hg] at hid
    exact Except.ok.inj (leads_done_done_iff.1 hid).2
  · intro hu
    unfold Event.validate at hv
    rw [if_pos hu] at hv
    cases hv
  · exact Except.ok.inj hbody
  · cases ha
    simp
  · exact List.forall_mem_append.2 ⟨(quiet_given _).of_leads hid, quiet_nowMs.of_leads hnow⟩

/-! ### Answers of success -/

theorem isSuccess_ofError (e : ServiceError) (now : Int) :
    (Response.ofError e now).isSuccess = false := by
  cases e <;> rfl

/-- A computation that is answered with success has brought a body. -/
theorem exists_of_leads_respond {result : Except ServiceError Json}
    (h : Leads (respond result) talk (.done response)) (hs : response.isSuccess = true) :
    ∃ body, result = .ok body ∧ talk = [] ∧ response = .withBody 200 (.json body) := by
  cases result with
  | ok body =>
      obtain ⟨rfl, rfl⟩ := leads_done_done_iff.1 h
      exact ⟨body, rfl, rfl, rfl⟩
  | error e =>
      obtain ⟨now, tail, rfl, ht⟩ := leads_ask_done_iff.1 h
      obtain ⟨-, rfl⟩ := leads_done_done_iff.1 ht
      exact absurd ((isSuccess_ofError e now).symm.trans hs) Bool.false_ne_true

/-- A route that is asked by its one method answers as itself. -/
theorem leads_handle_iff {route : Route} (hp : Route.ofPath? r.path = some route)
    (hr : r.method ∈ route.methods) (hm : r.method = "POST") :
    Leads (handle settings r) talk (.done response) ↔
      Leads (route.handle settings r) talk (.done response) := by
  have options : r.method ≠ "OPTIONS" := by
    rw [hm]
    decide
  have head : r.method ≠ "HEAD" := by
    rw [hm]
    decide
  have named : ∀ x, route.naming r.method x = x := fun x => if_pos hr
  simp only [leads_handle_route_iff options hp, if_neg head, named, exists_eq_right']

/-- Whether a talk has one message published and nothing else done, which the stream takes. -/
structure IsOnlyPublished (payload : List UInt8) (talk : List (Exchange Answer)) : Prop where
  once : ∃ before after, talk = before ++ ⟨.publish payload, .ok ()⟩ :: after ∧
    ∀ x ∈ before ++ after, x.1.IsQuiet
  entered : ∀ s t, Gives s talk t →
    s.stream.isOpen = true ∧ t = { s with stream := s.stream.enter ⟨1, payload⟩ }

/-- Whether an event arrives where the stream is consumed: it is read from its bytes and dispatched,
and dropped only if the look-up of its members was refused as invalid, by the source itself. -/
structure Arrives (e : Event) : Prop where
  decoded : Event.decode e.encode = .ok e
  judged : Push.judge e.encode = .ofDispatch <$> (Push.dispatch e).run
  dropped : ∀ number talk, Leads (Push.process number e.encode) talk (.done .dropped) →
    ∃ group text, ⟨.members group, .error (.invalidArgument text)⟩ ∈ talk
  refused : ∀ number outside s,
    (Server.run outside (Push.process number e.encode) s).1 = .dropped →
      ∃ group text, outside.members group = .error (.invalidArgument text)

theorem arrives_of_sender {e : Event} (hs : e.sender ≠ "") (hi : e.selector.id ≠ "") :
    Arrives e where
  decoded := Event.decode_encode hi
  judged := by rw [Push.judge, Event.decode_encode hi]
  dropped _ _ := Push.exists_of_dropped (Event.decode_encode hi) hs
  refused _ _ _ := Push.members_of_dropped (Event.decode_encode hi) hs

theorem isOnlyPublished_of_quiet {payload : List UInt8} {before after : List (Exchange Answer)}
    (hb : ∀ x ∈ before, x.1.IsQuiet) (ha : ∀ x ∈ after, x.1.IsQuiet) :
    IsOnlyPublished payload (before ++ ⟨.publish payload, .ok ()⟩ :: after) where
  once := ⟨before, after, rfl, List.forall_mem_append.2 ⟨hb, ha⟩⟩
  entered s t hg := by
    obtain ⟨outside, hx, rfl⟩ := hg.exists_outside hb ha
    have hans : (Server.answer outside (.publish payload) s).1 =
        (s.stream.publish payload).1.map fun _ => () := rfl
    have hto : (Server.answer outside (.publish payload) s).2 =
        { s with stream := (s.stream.publish payload).2 } := rfl
    rw [hto]
    cases ho : s.stream.isOpen with
    | true => simp [EventStream.publish, ho]
    | false =>
        rw [hans] at hx
        simp [EventStream.publish, ho, Except.map] at hx

/-- Behind the gate an answer of success is one to a submission that has been worked off. -/
theorem exists_of_leads_follow {operation : String} (hm : r.method = "POST")
    (h : Leads (Route.sendMessage.follow settings r (.ok (some ⟨c, operation⟩))) talk
      (.done response)) (hs : response.isSuccess = true) :
    ∃ s e before, r.read Submission.read = .ok s ∧ IsSubmitted c s e ∧ e.sender ≠ "" ∧
      e.selector.id ≠ "" ∧ response = .withBody 200 (.json (receipt e)) ∧
      talk = before ++ [⟨.publish e.encode, .ok ()⟩] ∧ ∀ y ∈ before, y.1.IsQuiet := by
  have hmem : r.method ∈ Route.sendMessage.methods := hm ▸ List.mem_singleton_self _
  have hact : Route.sendMessage.act settings r (some ⟨c, operation⟩) =
      withBody r Submission.read (Work.sendMessage c) := rfl
  rw [Route.follow, if_pos hmem, hact, withBody] at h
  cases hr : r.read Submission.read with
  | error e =>
      rw [hr] at h
      obtain ⟨-, rfl⟩ := leads_done_done_iff.1 h
      cases e <;> cases hs
  | ok s =>
      rw [hr] at h
      obtain ⟨result, work, last, rfl, hw, hlast⟩ := leads_bind_done_iff.1 h
      obtain ⟨body, rfl, rfl, hresp⟩ := exists_of_leads_respond hlast hs
      obtain ⟨e, before, hsub, hsender, hid, rfl, rfl, hb⟩ := exists_of_leads_sendMessage hw
      exact ⟨s, e, before, rfl, hsub, hsender, hid, hresp, List.append_nil _, hb⟩

/-! ### A message with marks in its texts -/

/-- A request to send a text with marks in it to a user with marks in its name. -/
def sending (token : String) : Request where
  method := "POST"
  target := "/msg/send_msg"
  headers := clientHeaders token
  body := (Json.object [("recv_id", .text "a:\"b"), ("content", .text "é\n\\")]).bytes

/-- What is sent by that request. -/
def sampleSubmission : Submission where
  clientMsgId := none
  recipient := some "a:\"b"
  group := none
  content := "é\n\\"
  senderSync := false

theorem path_sending (token : String) : (sending token).path = "/msg/send_msg" :=
  path_of_plain rfl (by decide +kernel)

theorem read_sending (token : String) :
    (sending token).read Submission.read = .ok sampleSubmission := by
  refine read_of_body (isJson_of_client rfl) ?_ rfl rfl
  apply Json.Whole.object
  simp [Json.Whole.text]

theorem leads_sending {token : String} {gate : List (Exchange Answer)}
    (hv : Request.isVisible token = true)
    (hg : Leads (Gate.letIn settings (some token)).run gate (.done (.ok c)))
    (hu : c.user ≠ "") (id : String) (now : Int) :
    let e := Work.submitted c sampleSubmission (.direct "a:\"b") id now
    Leads (handle settings (sending token))
      (gate ++ [⟨.freshId, id⟩, ⟨.nowMs, now⟩, ⟨.publish e.encode, .ok ()⟩])
      (.done (.withBody 200 (.json (receipt e)))) := by
  intro e
  have hroute : Route.ofPath? (sending token).path = some .sendMessage := by
    rw [path_sending]
    rfl
  have hmem : (sending token).method ∈ Route.sendMessage.methods := List.mem_singleton_self _
  have hact : Route.sendMessage.act settings (sending token) (some ⟨c, "o"⟩) =
      .ok (Work.sendMessage c sampleSubmission) := by
    change withBody (sending token) Submission.read _ = _
    rw [withBody, read_sending]
    rfl
  have hval : e.validate = .ok () := if_neg hu
  have hw : Leads (Work.sendMessage c sampleSubmission).run
      [⟨.freshId, id⟩, ⟨.nowMs, now⟩, ⟨.publish e.encode, .ok ()⟩] (.done (.ok (receipt e))) := by
    rw [sendMessage_eq]
    refine leads_bind_ok_iff.2 ⟨.direct "a:\"b", [], _, rfl, .nil _, ?_⟩
    refine leads_bind_ok_iff.2 ⟨id, [⟨.freshId, id⟩], _, rfl, .cons _ (.nil _), ?_⟩
    refine leads_bind_ok_iff.2 ⟨now, [⟨.nowMs, now⟩], _, rfl, .cons _ (.nil _), ?_⟩
    refine leads_bind_ok_iff.2 ⟨(), [], _, rfl, ?_, ?_⟩
    · rw [hval]
      exact .nil _
    · exact leads_bind_ok_iff.2 ⟨(), _, [], rfl, .cons _ (.nil _), .nil _⟩
  rw [leads_handle_iff hroute hmem rfl, handle_eq]
  refine leads_bind_done_iff.2 ⟨_, gate, _, rfl, leads_enter_of_client rfl rfl hv hg, ?_⟩
  rw [Route.follow, if_pos hmem, hact]
  exact leads_bind_done_iff.2 ⟨_, _, [], (List.append_nil _).symm, hw, .nil _⟩

/-! ### What becomes of a submission -/

/-- A client that is answered with success has exactly one event published: what it submitted, with
the id and the time that it is told. The event arrives unchanged, whatever texts are in it. -/
theorem sent_unchanged (hm : r.method = "POST") (hp : r.path = "/msg/send_msg")
    (h : Leads (handle settings r) talk (.done response)) (hs : response.isSuccess = true) :
    ∃ c s e, (∀ d, IsLetIn settings r talk d ↔ d = c) ∧ r.read Submission.read = .ok s ∧
      IsSubmitted c s e ∧ response = .withBody 200 (.json (receipt e)) ∧
      IsOnlyPublished e.encode talk ∧ Arrives e := by
  have hroute : Route.ofPath? r.path = some .sendMessage := by
    rw [hp]
    rfl
  have hmem : r.method ∈ Route.sendMessage.methods := hm ▸ List.mem_singleton_self _
  rw [leads_handle_iff hroute hmem hm, handle_eq] at h
  obtain ⟨x, entry, after, rfl, hb, ha⟩ := leads_bind_done_iff.1 h
  have hentry := (quiet_enter _).of_leads hb
  cases x with
  | error e =>
      change Leads (respond (.error e)) _ _ at ha
      obtain ⟨body, he, -⟩ := exists_of_leads_respond ha hs
      cases he
  | ok bound =>
      obtain ⟨c, operation, gate, rfl, hgate, hc⟩ := leads_enter_of_token rfl hb
      obtain ⟨s, e, before, hread, hsub, hsender, hid, hresp, rfl, hbefore⟩ :=
        exists_of_leads_follow hm ha hs
      refine ⟨c, s, e, fun d => ⟨fun ⟨_, _, _, hd⟩ => letIn_inj hd hc, ?_⟩, hread, hsub, hresp, ?_,
        arrives_of_sender hsender hid⟩
      · rintro rfl
        obtain ⟨u, v, rfl⟩ := hgate
        exact ⟨(guard_of_path hroute).1.1 rfl, gate,
          ⟨u, v ++ (before ++ [⟨.publish e.encode, .ok ()⟩]), by simp⟩, hc⟩
      · rw [← List.append_assoc]
        exact isOnlyPublished_of_quiet (List.forall_mem_append.2 ⟨hentry, hbefore⟩)
          (List.forall_mem_nil _)

/-- A user with a usable token sends a text with marks in it, and the event arrives. -/
theorem sent_unchanged_of_marks :
    let settings : AuthSettings := {}
    let token := Token.sign settings.jwtSecret sampleClaims
    let e := Work.submitted ⟨"u", 1⟩ sampleSubmission (.direct "a:\"b") "x" 1000
    let talk : List (Exchange Answer) := [⟨.now, (1 : Int)⟩,
      ⟨.lookupToken ⟨"u", 1⟩ token, .ok .normal⟩, ⟨.freshId, "x"⟩, ⟨.nowMs, (1000 : Int)⟩,
      ⟨.publish e.encode, .ok ()⟩]
    let response : Response := .withBody 200 (.json (receipt e))
    (sending token).method = "POST" ∧ (sending token).path = "/msg/send_msg" ∧
      Leads (handle settings (sending token)) talk (.done response) ∧ response.isSuccess = true ∧
      ∃ c s e, (∀ d, IsLetIn settings (sending token) talk d ↔ d = c) ∧
        (sending token).read Submission.read = .ok s ∧ IsSubmitted c s e ∧
        response = .withBody 200 (.json (receipt e)) ∧ IsOnlyPublished e.encode talk ∧
        Arrives e := by
  intro settings token e talk response
  have hgate : Leads (Gate.letIn settings (some token)).run _ (.done (.ok ⟨"u", 1⟩)) :=
    @leads_letIn settings sampleClaims 1 (by decide +kernel) (by decide +kernel)
  have hv := isVisible_sign settings.jwtSecret sampleClaims
  have hl : Leads (handle settings (sending token)) talk (.done response) :=
    leads_sending hv hgate (by decide) "x" 1000
  have hp := path_sending token
  exact ⟨rfl, hp, hl, rfl, sent_unchanged rfl hp hl rfl⟩

end Http
end Courier
