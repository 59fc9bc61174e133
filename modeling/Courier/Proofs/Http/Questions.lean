import Courier.Http.Route
import Courier.Proofs.Service.Talk
import Courier.Proofs.Token.Signed

/-!
# What a request has the service ask

Before a route acts it asks for nothing but the time, new texts and the state of the token that it
is shown. Main statement: a route behind the token gate asks for one change at most, and for one
that its caller may make, whatever the body says.
-/

namespace Courier

open Dialogue

/-- Whether a question is one that a client may put: to publish a message of its own, to keep its
own registration, or to kick the tokens of a client of its user, or as an administrator those of
any. -/
def Question.IsOwn (settings : AuthSettings) (c : Client) : Question → Prop
  | .publish payload => ∃ e : Event, payload = e.encode ∧ e.sender = c.user ∧
      e.senderPlatform = some c.platform
  | .register r => r.user = c.user ∧ r.platform = c.platform
  | .kickTokens d => d.user = c.user ∨ settings.isAdmin c.user = true
  | _ => False

namespace Http

open Service

variable {settings : AuthSettings} {r : Request} {c : Client}

theorem quiet_now : Service.now.run.Asks Question.IsQuiet :=
  ⟨trivial, fun _ => trivial⟩

theorem quiet_nowMs : Service.nowMs.run.Asks Question.IsQuiet :=
  ⟨trivial, fun _ => trivial⟩

theorem quiet_given (id : Option String) : (id.elim freshId pure).run.Asks Question.IsQuiet := by
  cases id with
  | none => exact ⟨trivial, fun _ => trivial⟩
  | some id => trivial

theorem quiet_lookupToken (c : Client) (token : String) :
    (Service.lookupToken c token).run.Asks Question.IsQuiet :=
  ⟨trivial, fun _ => trivial⟩

theorem quiet_respond (result : Except ServiceError Json) :
    (respond result).Asks Question.IsQuiet := by
  cases result with
  | ok body => trivial
  | error e => exact ⟨trivial, fun _ => trivial⟩

/-! ### Guards -/

theorem quiet_letIn (token : Option String) :
    (Gate.letIn settings token).run.Asks Question.IsQuiet := by
  cases token with
  | none => trivial
  | some t =>
      by_cases ht : t = ""
      · subst ht
        trivial
      · rw [Gate.letIn_of_ne_empty settings ht]
        refine asks_bind quiet_now fun now => asks_bind trivial fun claims => ?_
        exact asks_bind (quiet_lookupToken _ t) fun state => asks_bind trivial fun _ => trivial

theorem enter_of_token {route : Route} (h : route.guard = .token) :
    route.enter settings r = (do
      let operation ← (r.header? "operationid").elim freshId pure
      let client ← Gate.letIn settings (r.header? "token")
      return some ⟨client, operation⟩) := by
  rw [Route.enter, h]
  cases r.header? "operationid" <;> rfl

theorem quiet_enter (route : Route) : (route.enter settings r).run.Asks Question.IsQuiet := by
  cases h : route.guard with
  | none =>
      rw [Route.enter, h]
      trivial
  | secret =>
      rw [Route.enter, h]
      exact asks_bind trivial fun _ => trivial
  | token =>
      rw [enter_of_token h]
      refine asks_bind (quiet_given _) fun operation => ?_
      exact asks_bind (quiet_letIn _) fun client => trivial

/-- The gate lets in the client that a verified token names. -/
theorem exists_claims_of_letIn {token : Option String} {talk : List (Exchange Answer)}
    (h : Leads (Gate.letIn settings token).run talk (.done (.ok c))) :
    ∃ t now claims, token = some t ∧ Token.verify settings.jwtSecret now t = .ok claims ∧
      c = ⟨claims.user, claims.platform⟩ := by
  cases token with
  | none => cases h
  | some t =>
      by_cases ht : t = ""
      · subst ht
        cases h
      · rw [Gate.letIn_of_ne_empty settings ht] at h
        obtain ⟨now, _, _, -, -, h⟩ := leads_bind_ok_iff.1 h
        obtain ⟨claims, _, _, -, hv, h⟩ := leads_bind_ok_iff.1 h
        obtain ⟨state, _, _, -, -, h⟩ := leads_bind_ok_iff.1 h
        obtain ⟨_, _, _, -, -, h⟩ := leads_bind_ok_iff.1 h
        cases (leads_done_done_iff.1 h).2
        exact ⟨t, now, claims, rfl, (leads_done_done_iff.1 hv).2.symm, rfl⟩

/-- A token is let in as one client only, whenever it is. -/
theorem letIn_inj {token : Option String} {d : Client} {talk other : List (Exchange Answer)}
    (hc : Leads (Gate.letIn settings token).run talk (.done (.ok c)))
    (hd : Leads (Gate.letIn settings token).run other (.done (.ok d))) : c = d := by
  obtain ⟨t, m, a, ht, ha, rfl⟩ := exists_claims_of_letIn hc
  obtain ⟨u, n, b, hu, hb, rfl⟩ := exists_claims_of_letIn hd
  cases ht.symm.trans hu
  cases Token.verify_inj ha hb
  rfl

/-- A rightly signed token is let in before its end, if it is known as usable. -/
theorem leads_letIn {claims : Claims} {now : Int} (hs : 0 ≤ claims.expires)
    (hn : now ≤ claims.expires.toInt) :
    let t := Token.sign settings.jwtSecret claims
    let client : Client := ⟨claims.user, claims.platform⟩
    Leads (Gate.letIn settings (some t)).run
      [⟨.now, now⟩, ⟨.lookupToken client t, .ok .normal⟩] (.done (.ok client)) := by
  intro t client
  have hv : Token.verify settings.jwtSecret now t = .ok claims := by
    rw [Token.verify_sign, if_neg (Int64.not_lt.2 hs), if_neg (Int.not_lt.2 hn)]
  rw [Gate.letIn_of_ne_empty settings (Token.sign_ne_empty _ _)]
  have hnow : Leads Service.now.run [⟨.now, now⟩] (.done (.ok now)) :=
    @Leads.cons _ Answer _ .now _ now [] _ (.nil _)
  refine leads_bind_ok_iff.2 ⟨now, _, _, rfl, hnow, ?_⟩
  refine leads_bind_ok_iff.2 ⟨claims, [], _, rfl, by rw [hv]; exact .nil _, ?_⟩
  have hstate : Leads (Service.lookupToken client t).run [⟨.lookupToken client t, .ok .normal⟩]
      (.done (.ok .normal)) :=
    @Leads.cons _ Answer _ (.lookupToken client t) _ (.ok .normal) [] _ (.nil _)
  refine leads_bind_ok_iff.2 ⟨.normal, _, [], rfl, hstate, ?_⟩
  exact leads_bind_ok_iff.2 ⟨(), [], [], rfl, .nil _, .nil _⟩

theorem visible_of_mem_part {bytes : List UInt8} {x : Char} (h : x ∈ Token.part bytes) :
    32 ≤ x.toNat ∧ x.toNat < 127 := by
  obtain ⟨vs, hv, -⟩ := Option.bind_eq_some_iff.1 (Base64.decode?_encode_urlSafe bytes)
  have hx := Token.isSome_of_mapM hv h
  have hc : ('A' ≤ x ∧ x ≤ 'Z') ∨ ('a' ≤ x ∧ x ≤ 'z') ∨ ('0' ≤ x ∧ x ≤ '9') ∨
      x = '-' ∨ x = '_' := by
    grind [Base64.Alphabet.value?, Base64.urlSafe]
  have between : ∀ {a b : Char}, a ≤ x ∧ x ≤ b → 32 ≤ a.toNat → b.toNat < 127 →
      32 ≤ x.toNat ∧ x.toNat < 127 :=
    fun h ha hb => ⟨Nat.le_trans ha h.1, Nat.lt_of_le_of_lt h.2 hb⟩
  rcases hc with h | h | h | rfl | rfl
  · exact between h (by decide) (by decide)
  · exact between h (by decide) (by decide)
  · exact between h (by decide) (by decide)
  · decide
  · decide

/-- A signed token can stand in a header. -/
theorem isVisible_sign (secret : String) (claims : Claims) :
    Request.isVisible (Token.sign secret claims) = true := by
  rw [Request.isVisible, List.all_eq_true, Token.toList_sign, Token.message]
  intro x hx
  have hv : x = '.' ∨ 32 ≤ x.toNat ∧ x.toNat < 127 := by
    simp only [List.mem_append, List.mem_cons] at hx
    rcases hx with (hx | rfl | hx) | rfl | hx
    · exact .inr (visible_of_mem_part hx)
    · exact .inl rfl
    · exact .inr (visible_of_mem_part hx)
    · exact .inl rfl
    · exact .inr (visible_of_mem_part hx)
  rcases hv with rfl | hv
  · decide
  · simp [hv]

/-- Who passes the guard of a route behind the gate was let in. -/
theorem leads_enter_of_token {route : Route} (hg : route.guard = .token)
    {talk : List (Exchange Answer)} {bound : Option Identity}
    (h : Leads (route.enter settings r).run talk (.done (.ok bound))) :
    ∃ c operation gate, bound = some ⟨c, operation⟩ ∧ gate <:+: talk ∧
      Leads (Gate.letIn settings (r.header? "token")).run gate (.done (.ok c)) := by
  rw [enter_of_token hg] at h
  obtain ⟨operation, before, rest, rfl, -, h⟩ := leads_bind_ok_iff.1 h
  obtain ⟨c, gate, after, rfl, hl, h⟩ := leads_bind_ok_iff.1 h
  obtain ⟨rfl, hc⟩ := leads_done_done_iff.1 h
  cases hc
  exact ⟨c, operation, gate, rfl, ⟨before, [], by simp⟩, hl⟩

/-! ### Work of the routes -/

theorem quiet_parseToken (token : String) :
    (Work.parseToken settings token).run.Asks Question.IsQuiet := by
  refine asks_bind ?_ fun parsed => trivial
  refine asks_bind quiet_now fun now => asks_bind trivial fun claims => ?_
  exact asks_bind (quiet_lookupToken _ token) fun state => asks_bind quiet_now fun _ => trivial

/-- Who does not know the secret is not issued a token. -/
theorem quiet_userToken {t : TokenRequest} (h : settings.issueSecret ≠ some t.secret) :
    (Work.userToken settings t).run.Asks Question.IsQuiet := by
  cases hc : Gate.checkSecret settings.issueSecret (some t.secret) with
  | error e =>
      rw [Work.userToken, hc]
      trivial
  | ok _ =>
      obtain ⟨s, hs, ht⟩ := Gate.checkSecret_eq_ok_iff.1 hc
      exact absurd (hs.trans ht.symm) h

theorem once_forceLogout (d : Client) :
    (Work.forceLogout settings c d).run.AsksOnce Question.IsQuiet (Question.IsOwn settings c) := by
  refine asksOnce_bind ?_ fun _ => trivial
  unfold Token.forceLogout
  split
  · trivial
  · rename_i h
    refine .inr ⟨?_, fun _ => trivial⟩
    by_cases hu : c.user = d.user
    · exact .inl hu.symm
    · exact .inr (by simpa [hu] using h)

theorem once_updatePushToken (pushToken : String) :
    (Work.updatePushToken c pushToken).run.AsksOnce Question.IsQuiet
      (Question.IsOwn settings c) := by
  refine asksOnce_bind (asks_bind_once trivial fun _ => ?_) fun _ => trivial
  split
  · trivial
  · exact asks_bind_once quiet_nowMs fun now => .inr ⟨⟨rfl, rfl⟩, fun _ => trivial⟩

theorem sendMessage_eq (s : Submission) :
    Work.sendMessage c s = (do
      let selector ← Service.ofExcept s.selector
      let clientMsgId ← s.clientMsgId.elim freshId pure
      let e := Work.submitted c s selector clientMsgId (← Service.nowMs)
      Service.ofExcept e.validate
      Service.publish e.encode
      return .object [
        ("client_msg_id", .text e.clientMsgId),
        ("send_time", .ofInt e.sendTime.toInt)]) := by
  rw [Work.sendMessage]
  cases s.clientMsgId <;> rfl

theorem once_sendMessage (s : Submission) :
    (Work.sendMessage c s).run.AsksOnce Question.IsQuiet (Question.IsOwn settings c) := by
  rw [sendMessage_eq]
  refine asks_bind_once trivial fun selector => asks_bind_once (quiet_given _) fun id => ?_
  refine asks_bind_once quiet_nowMs fun now => asks_bind_once trivial fun _ => ?_
  refine asksOnce_bind (.inr ⟨?_, fun _ => trivial⟩) fun _ => trivial
  exact ⟨Work.submitted c s selector id now, rfl, rfl, rfl⟩

/-! ### Routes behind their guards -/

/-- What a route does once its guard has judged. -/
def Route.follow (settings : AuthSettings) (r : Request) (route : Route) :
    Except ServiceError (Option Identity) → Dialogue Answer Response
  | .error e => respond (.error e)
  | .ok bound =>
    if r.method ∈ route.methods then
      match route.act settings r bound with
      | .error e => .done e.response
      | .ok work => work.run >>= respond
    else .done (.bare 405)

theorem handle_eq (route : Route) :
    route.handle settings r = (route.enter settings r).run >>= route.follow settings r := by
  refine congrArg ((route.enter settings r).run >>= ·) (funext fun x => ?_)
  cases x with
  | error e => rfl
  | ok bound => rfl

theorem exists_of_withBody {α : Type} {read : Json.Reader α} {work : α → Service Json}
    {w : Service Json} (h : withBody r read work = .ok w) :
    ∃ a, r.read read = .ok a ∧ work a = w := by
  unfold withBody at h
  cases hr : r.read read with
  | error e =>
      rw [hr] at h
      cases h
  | ok a =>
      rw [hr] at h
      exact ⟨a, rfl, Except.ok.inj h⟩

section Follow

variable {route : Route} {bound : Option Identity}

/-- A route behind its guard answers at once or does its work and then answers. -/
theorem follow_cases {p : Dialogue Answer Response → Prop} (hd : ∀ response, p (.done response))
    (hw : ∀ work, route.act settings r bound = .ok work → p (work.run >>= respond)) :
    p (route.follow settings r (.ok bound)) := by
  rw [Route.follow]
  split
  · split
    · apply hd
    · exact hw _ ‹_›
  · apply hd

theorem quiet_follow (h : ∀ work, route.act settings r bound = .ok work →
      work.run.Asks Question.IsQuiet) :
    (route.follow settings r (.ok bound)).Asks Question.IsQuiet := by
  apply follow_cases
  · intro response
    trivial
  · intro work hw
    exact (h work hw).bind quiet_respond

theorem once_follow {o : Question → Prop} (h : ∀ work, route.act settings r bound = .ok work →
      work.run.AsksOnce Question.IsQuiet o) :
    (route.follow settings r (.ok bound)).AsksOnce Question.IsQuiet o := by
  apply follow_cases
  · intro response
    trivial
  · intro work hw
    exact (h work hw).bind quiet_respond

/-- For a client that was let in, one question of its own is asked at most that is not quiet. -/
theorem once_follow_of_token (hg : route.guard = .token) (operation : String) :
    (route.follow settings r (.ok (some ⟨c, operation⟩))).AsksOnce Question.IsQuiet
      (Question.IsOwn settings c) := by
  refine once_follow fun work hw => ?_
  cases route with
  | forceLogout =>
      obtain ⟨d, -, rfl⟩ := exists_of_withBody hw
      exact once_forceLogout d
  | updatePushToken =>
      obtain ⟨pushToken, -, rfl⟩ := exists_of_withBody hw
      exact once_updatePushToken pushToken
  | sendMessage =>
      obtain ⟨s, -, rfl⟩ := exists_of_withBody hw
      exact once_sendMessage s
  | _ => cases hg

end Follow

section Handle

variable {talk : List (Exchange Answer)} {response : Response}

/-- A request for a route is answered as the route answers it, with what its method asks for. -/
theorem leads_handle_route_iff {route : Route} (hm : r.method ≠ "OPTIONS")
    (hp : Route.ofPath? r.path = some route) :
    Leads (handle settings r) talk (.done response) ↔
      ∃ plain, Leads (route.handle settings r) talk (.done plain) ∧
        response = if r.method = "HEAD" then (route.naming r.method plain).head
          else route.naming r.method plain := by
  have hb : handle settings r = (do
      let x ← route.naming r.method <$> route.handle settings r
      pure (if r.method = "HEAD" then x.head else x)) := by
    unfold handle
    rw [hp]
    dsimp only
    rw [if_neg hm]
  rw [hb, leads_bind_pure_iff]
  constructor
  · rintro ⟨named, hn, rfl⟩
    obtain ⟨plain, hl, rfl⟩ := leads_bind_pure_iff.1 hn
    exact ⟨plain, hl, rfl⟩
  · rintro ⟨plain, hl, rfl⟩
    exact ⟨_, leads_bind_pure_iff.2 ⟨plain, hl, rfl⟩, rfl⟩

/-- A request is answered without a question, or by its path's route behind its guard. -/
theorem exists_of_leads_handle (h : Leads (handle settings r) talk (.done response)) :
    talk = [] ∨ ∃ route before x after response', Route.ofPath? r.path = some route ∧
      talk = before ++ after ∧ Leads (route.enter settings r).run before (.done x) ∧
      Leads (route.follow settings r x) after (.done response') := by
  by_cases hm : r.method = "OPTIONS"
  · rw [handle, if_pos hm] at h
    exact .inl (leads_done_iff.1 h).1
  · cases hp : Route.ofPath? r.path with
    | none =>
        rw [handle, if_neg hm, hp] at h
        exact .inl (leads_done_iff.1 h).1
    | some route =>
        obtain ⟨plain, hr, -⟩ := (leads_handle_route_iff hm hp).1 h
        rw [handle_eq] at hr
        obtain ⟨x, before, after, rfl, hb, ha⟩ := leads_bind_done_iff.1 hr
        exact .inr ⟨route, before, x, after, plain, rfl, rfl, hb, ha⟩

theorem exists_leads_handle {route : Route} {before after : List (Exchange Answer)}
    {x : Except ServiceError (Option Identity)} (hm : r.method ≠ "OPTIONS")
    (hp : Route.ofPath? r.path = some route)
    (hb : Leads (route.enter settings r).run before (.done x))
    (ha : Leads (route.follow settings r x) after (.done response)) :
    ∃ response, Leads (handle settings r) (before ++ after) (.done response) := by
  have hr : Leads (route.handle settings r) (before ++ after) (.done response) := by
    rw [handle_eq]
    exact leads_bind_done_iff.2 ⟨x, before, after, rfl, hb, ha⟩
  exact ⟨_, (leads_handle_route_iff hm hp).2 ⟨response, hr, rfl⟩⟩

end Handle

end Http
end Courier
