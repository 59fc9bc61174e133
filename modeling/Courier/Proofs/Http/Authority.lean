import Courier.Proofs.Http.Questions
import Courier.Proofs.Registration.Ordered
import Courier.Proofs.Token.Store
import Mathlib.Data.List.TakeWhile

/-!
# Authority over HTTP

What a request can bring about depends on who sends it. Main statement: one who neither is let in
by the token gate nor shows the shared secret changes nothing and has no vendor asked, and a client
that is let in changes at most one thing, which is its own, whatever its body says.
-/

namespace Courier

open Dialogue

/-! ### What a client can change -/

namespace RegistrationStore

/-- Whether two stores differ in the registration of one client at most, which the second has. -/
structure IsSet (c : Client) (s t : RegistrationStore) : Prop where
  others : ∀ user, user ≠ c.user → t.ofUser user = s.ofUser user
  rest : (t.ofUser c.user).filter (·.platform ≠ c.platform) =
    (s.ofUser c.user).filter (·.platform ≠ c.platform)
  own : ∃ r, (t.ofUser c.user).find? (·.platform = c.platform) = some r ∧ r.user = c.user

theorem filter_place (r : Registration) (l : List Registration) :
    (r.place l).filter (·.platform ≠ r.platform) = l.filter (·.platform ≠ r.platform) := by
  induction l with
  | nil => simp [Registration.place]
  | cons x rest ih =>
      rw [Registration.place]
      split
      · simp
      · split
        · rename_i h
          simp [h]
        · simp only [List.filter_cons, ih]

theorem isSet_register (s : RegistrationStore) (r : Registration) :
    IsSet ⟨r.user, r.platform⟩ s (s.register r) where
  others user h := by rw [ofUser_register, if_neg h]
  rest := by
    rw [ofUser_register, if_pos rfl]
    exact filter_place r _
  own := ⟨r, by rw [ofUser_register, if_pos rfl, find?_place, if_pos rfl], rfl⟩

end RegistrationStore

namespace TokenStore

/-- Whether two stores differ at most in tokens of one client that were usable at a time in the
first and are kicked in the second. -/
structure IsKicked (now : Int) (c : Client) (s t : TokenStore) : Prop where
  others : ∀ d, d ≠ c → ∀ token, t.record? d token = s.record? d token
  own : ∀ token, t.record? c token = s.record? c token ∨
    s.lookup now c token = .normal ∧ t.record? c token = (s.record? c token).map .kick

theorem isKicked_kickAll (s : TokenStore) (now : Int) (c : Client) :
    IsKicked now c s (s.kickAll now c).2 where
  others d h token := by rw [record?_kickAll, if_neg h]
  own token := by
    rw [record?_kickAll, if_pos rfl, lookup_eq]
    cases s.record? c token with
    | none => exact .inl rfl
    | some r =>
        rw [Option.map_some, TokenRecord.kickUsable]
        split
        · rename_i hu
          have hk : r.isLive now = true ∧ r.kicked = false := by
            simpa [TokenRecord.isUsable] using hu
          refine .inr ⟨?_, rfl⟩
          rw [TokenRecord.stateAt_some, if_pos (by simpa [TokenRecord.isLive] using hk.1),
            TokenRecord.state, hk.2]
          rfl
        · exact .inl rfl

end TokenStore

namespace Http

open Service

/-- What a client can change: nothing, or one of three things. -/
inductive Change (settings : AuthSettings) (c : Client) (s : Server) : Server → Prop where
  | nothing : Change settings c s s
  /-- A message of the client is put on the event stream. -/
  | message (e : Event) : e.sender = c.user → e.senderPlatform = some c.platform →
    Change settings c s { s with stream := s.stream.enter ⟨1, e.encode⟩ }
  /-- The registration of the client is set. -/
  | registration {registrations : RegistrationStore} : s.registrations.IsSet c registrations →
    Change settings c s { s with registrations }
  /-- Usable tokens are kicked of a client of the same user, or of any for an administrator. -/
  | tokens {now : Int} {d : Client} {tokens : TokenStore} :
    d.user = c.user ∨ settings.isAdmin c.user = true → s.tokens.IsKicked now d tokens →
    Change settings c s { s with tokens }

theorem change_publish {settings : AuthSettings} {c : Client} {e : Event} (hu : e.sender = c.user)
    (hp : e.senderPlatform = some c.platform) (outside : Collaborators) (s : Server) :
    Change settings c s (Server.answer outside (.publish e.encode) s).2 := by
  have hs : (Server.answer outside (.publish e.encode) s).2 =
      { s with stream := (s.stream.publish e.encode).2 } := rfl
  rw [hs, EventStream.publish]
  cases s.stream.isOpen with
  | true => exact .message e hu hp
  | false => exact .nothing

/-- A question of a client's own changes what the client can change. -/
theorem change_of_isOwn {settings : AuthSettings} {c : Client} {q : Question}
    (h : q.IsOwn settings c) (outside : Collaborators) (s : Server) :
    Change settings c s (Server.answer outside q s).2 := by
  cases q with
  | publish payload =>
      obtain ⟨e, rfl, hu, hp⟩ := h
      exact change_publish hu hp outside s
  | register r =>
      obtain ⟨user, platform⟩ := c
      obtain ⟨rfl, rfl⟩ := h
      exact .registration (s.registrations.isSet_register r)
  | kickTokens d => exact .tokens h (s.tokens.isKicked_kickAll outside.seconds d)
  | _ => exact h.elim

/-! ### Who sends a request -/

/-- The paths behind the token gate. -/
def gatedPaths : List String :=
  ["/auth/force_logout", "/third/fcm_update_token", "/msg/send_msg"]

/-- The paths for callers from inside. -/
def innerPaths : List String :=
  ["/push/push_msg", "/push/del_user_push_token", "/push/invalidate_group"]

variable {settings : AuthSettings} {r : Request} {c : Client}

/-- Whether a request shows the shared secret where its path wants it. -/
def ShowsSecret (settings : AuthSettings) (r : Request) : Prop :=
  ∃ secret, settings.issueSecret = some secret ∧
    (r.path ∈ innerPaths ∧ r.header? "secret" = some secret ∨
      r.path = "/auth/user_token" ∧ ∃ t, r.read TokenRequest.read = .ok t ∧ t.secret = secret)

/-- Whether the gate let the sender of a request in as a client, in the talk about it. -/
def IsLetIn (settings : AuthSettings) (r : Request) (talk : List (Exchange Answer)) (c : Client) :
    Prop :=
  r.path ∈ gatedPaths ∧ ∃ gate, gate <:+: talk ∧
    Leads (Gate.letIn settings (r.header? "token")).run gate (.done (.ok c))

theorem guard_of_path {route : Route} (h : Route.ofPath? r.path = some route) :
    (route.guard = .token ↔ r.path ∈ gatedPaths) ∧ (route.guard = .secret ↔ r.path ∈ innerPaths) ∧
      (route = .userToken ↔ r.path = "/auth/user_token") := by
  generalize r.path = path at h
  unfold Route.ofPath? at h
  split at h <;> cases h <;> decide

/-- An open route does nothing that is not quiet for one who does not show the secret. -/
theorem quiet_follow_of_open {route : Route} (hp : Route.ofPath? r.path = some route)
    (hg : route.guard = .none) (hs : ¬ ShowsSecret settings r) :
    (route.follow settings r (.ok none)).Asks Question.IsQuiet := by
  refine quiet_follow fun work hw => ?_
  cases route with
  | health =>
      cases hw
      trivial
  | userToken =>
      obtain ⟨t, ht, rfl⟩ := exists_of_withBody hw
      refine quiet_userToken fun hsecret => hs ⟨t.secret, hsecret, .inr ⟨?_, t, ht, rfl⟩⟩
      exact (guard_of_path hp).2.2.1 rfl
  | parseToken =>
      obtain ⟨token, -, rfl⟩ := exists_of_withBody hw
      exact quiet_parseToken token
  | _ => cases hg

section Talk

variable {talk : List (Exchange Answer)} {response : Response}

/-- One who is not let in and does not show the secret has nothing asked that is not quiet. -/
theorem quiet_of_stranger (h : Leads (handle settings r) talk (.done response))
    (hl : ∀ c, ¬ IsLetIn settings r talk c) (hs : ¬ ShowsSecret settings r) :
    ∀ x ∈ talk, x.1.IsQuiet := by
  rcases exists_of_leads_handle h with rfl | ⟨route, before, x, after, response', hp, rfl, hb, ha⟩
  · exact List.forall_mem_nil _
  have hquiet : (route.follow settings r x).Asks Question.IsQuiet := by
    cases x with
    | error e => exact quiet_respond (.error e)
    | ok bound =>
        cases hg : route.guard with
        | none =>
            rw [Route.enter, hg] at hb
            cases (leads_done_done_iff.1 hb).2
            exact quiet_follow_of_open hp hg hs
        | secret =>
            rw [Route.enter, hg] at hb
            obtain ⟨_, _, _, -, hc, -⟩ := leads_bind_ok_iff.1 hb
            obtain ⟨secret, hset, hgiven⟩ := Gate.checkSecret_eq_ok_iff.1
              (leads_done_done_iff.1 hc).2.symm
            exact absurd ⟨secret, hset, .inl ⟨(guard_of_path hp).2.1.1 hg, hgiven⟩⟩ hs
        | token =>
            -- the gate's talk is a part of the whole one, so its client was let in
            obtain ⟨c, operation, gate, -, ⟨u, v, rfl⟩, hc⟩ := leads_enter_of_token hg hb
            refine absurd ⟨(guard_of_path hp).1.1 hg, gate, ⟨u, v ++ after, ?_⟩, hc⟩ (hl c)
            simp
  exact List.forall_mem_append.2 ⟨(quiet_enter route).of_leads hb, hquiet.of_leads ha⟩

/-- A client that is let in has one question asked at most that is not quiet, and it is its own. -/
theorem once_of_letIn (h : Leads (handle settings r) talk (.done response))
    (hc : IsLetIn settings r talk c) :
    (∀ x ∈ talk, x.1.IsQuiet) ∨ ∃ before x after, talk = before ++ x :: after ∧
      (∀ y ∈ before, y.1.IsQuiet) ∧ x.1.IsOwn settings c ∧ ∀ y ∈ after, y.1.IsQuiet := by
  rcases exists_of_leads_handle h with rfl | ⟨route, before, x, after, response', hp, rfl, hb, ha⟩
  · exact .inl (List.forall_mem_nil _)
  obtain ⟨hpath, gate, -, hgate⟩ := hc
  have hbefore := (quiet_enter route).of_leads hb
  cases x with
  | error e =>
      exact .inl (List.forall_mem_append.2 ⟨hbefore, (quiet_respond (.error e)).of_leads ha⟩)
  | ok bound =>
      have hg : route.guard = .token := (guard_of_path hp).1.2 hpath
      -- the route is bound to the client that the hypothesis speaks of
      obtain ⟨d, operation, gate', rfl, -, hd⟩ := leads_enter_of_token hg hb
      obtain rfl := letIn_inj hgate hd
      rcases (once_follow_of_token hg operation).of_leads ha with
        hafter | ⟨first, x, last, rfl, hf, hx, hlast⟩
      · exact .inl (List.forall_mem_append.2 ⟨hbefore, hafter⟩)
      · exact .inr ⟨before ++ first, x, last, by simp, List.forall_mem_append.2 ⟨hbefore, hf⟩,
          hx, hlast⟩

end Talk

/-! ### A client that registers itself -/

/-- The headers of a request that a client sends. -/
def clientHeaders (token : String) : List (String × String) :=
  [("operationid", "o"), ("content-type", "application/json"), ("token", token)]

theorem header?_of_client {token : String} (h : r.headers = clientHeaders token)
    (hv : Request.isVisible token = true) :
    r.header? "operationid" = some "o" ∧ r.header? "token" = some token := by
  have h₁ : "operationid".map Char.toLower = "operationid" := by decide +kernel
  have h₂ : "operationid".map Char.toLower ≠ "token" := by decide +kernel
  have h₃ : "content-type".map Char.toLower ≠ "token" := by decide +kernel
  have h₄ : "token".map Char.toLower = "token" := by decide +kernel
  have ho : Request.isVisible "o" = true := by decide +kernel
  constructor
  · simp [Request.header?, h, clientHeaders, h₁, Option.filter, ho]
  · simp [Request.header?, h, clientHeaders, h₂, h₃, h₄, Option.filter, hv]

theorem isJson_of_client {token : String} (h : r.headers = clientHeaders token) :
    r.isJson = true := by
  have h₁ : "operationid".map Char.toLower ≠ "content-type" := by decide +kernel
  have h₂ : "content-type".map Char.toLower = "content-type" := by decide +kernel
  have hv : Request.isVisible "application/json" = true := by decide +kernel
  have hm : MediaType.isJson "application/json" = true := by decide +kernel
  simp [Request.isJson, Request.header?, h, clientHeaders, h₁, h₂, Option.filter, hv, hm]

/-- The gate is the guard of a client's request. -/
theorem leads_enter_of_client {route : Route} (hr : route.guard = .token) {token : String}
    (h : r.headers = clientHeaders token) (hv : Request.isVisible token = true)
    {gate : List (Exchange Answer)}
    (hg : Leads (Gate.letIn settings (some token)).run gate (.done (.ok c))) :
    Leads (route.enter settings r).run gate (.done (.ok (some ⟨c, "o"⟩))) := by
  obtain ⟨hop, htoken⟩ := header?_of_client h hv
  rw [enter_of_token hr, hop, htoken]
  refine leads_bind_ok_iff.2 ⟨"o", [], gate, rfl, .nil _, ?_⟩
  exact leads_bind_ok_iff.2 ⟨c, gate, [], (List.append_nil _).symm, hg, .nil _⟩

/-- A body that is written from a value is read as what the value stands for. -/
theorem read_of_body {α : Type} {read : Json.Reader α} {v : Json} {a : α} (hj : r.isJson = true)
    (hw : Json.Whole v) (hb : r.body = v.bytes) (ha : read v = .ok a) : r.read read = .ok a := by
  have hd : (Json.Document.ofBytes r.body).read read = .ok a := by
    rw [hb, Json.ofBytes_bytes hw, Json.Document.read, ha]
    rfl
  rw [Request.read, if_pos hj, hd]

/-- A target without a query and a fragment is the path. -/
theorem path_of_plain {path : String} (ht : r.target = path)
    (plain : (path.toList.all fun c => c ≠ '?' && c ≠ '#') = true) : r.path = path := by
  subst ht
  rw [Request.path, List.takeWhile_eq_self_iff.2 (List.all_eq_true.1 plain), String.ofList_toList]

/-- A request to register the device of the caller for notifications. -/
def registering (token : String) : Request where
  method := "POST"
  target := "/third/fcm_update_token"
  headers := [("operationid", "o"), ("content-type", "application/json"), ("token", token)]
  body := (Json.object [("fcm_token", .text "device")]).bytes

theorem path_registering (token : String) :
    (registering token).path = "/third/fcm_update_token" :=
  path_of_plain rfl (by decide +kernel)

theorem header?_registering {token : String} (hv : Request.isVisible token = true) :
    (registering token).header? "operationid" = some "o" ∧
      (registering token).header? "token" = some token :=
  header?_of_client rfl hv

theorem read_registering (token : String) :
    (registering token).read (readOneText "fcm_token") = .ok "device" := by
  refine read_of_body (isJson_of_client rfl) ?_ rfl rfl
  apply Json.Whole.object
  simp [Json.Whole.text]

section Registering

variable {settings : AuthSettings} {token user : String} {gate : List (Exchange Answer)} {now : Int}

theorem leads_registering (hv : Request.isVisible token = true)
    (hg : Leads (Gate.letIn settings (some token)).run gate (.done (.ok ⟨user, 1⟩))) :
    ∃ response, Leads (handle settings (registering token))
      (gate ++ [⟨.nowMs, now⟩, ⟨.register ⟨user, 1, "device", Int64.ofInt now⟩, .ok ()⟩])
      (.done response) := by
  have hp : Route.ofPath? (registering token).path = some .updatePushToken := by
    rw [path_registering]
    rfl
  have he : Leads (Route.updatePushToken.enter settings (registering token)).run gate
      (.done (.ok (some ⟨⟨user, 1⟩, "o"⟩))) :=
    leads_enter_of_client rfl rfl hv hg
  have ha : Route.updatePushToken.act settings (registering token) (some ⟨⟨user, 1⟩, "o"⟩) =
      .ok (Work.updatePushToken ⟨user, 1⟩ "device") := by
    change withBody (registering token) (readOneText "fcm_token") _ = _
    rw [withBody, read_registering]
    rfl
  have hf : Leads (Route.updatePushToken.follow settings (registering token)
      (.ok (some ⟨⟨user, 1⟩, "o"⟩)))
      [⟨.nowMs, now⟩, ⟨.register ⟨user, 1, "device", Int64.ofInt now⟩, .ok ()⟩]
      (.done (.withBody 200 (.json Work.nothing))) := by
    have hm : (registering token).method ∈ Route.updatePushToken.methods :=
      List.mem_singleton_self _
    rw [Route.follow, if_pos hm, ha]
    refine leads_bind_done_iff.2 ⟨.ok Work.nothing, _, [], (List.append_nil _).symm, ?_, .nil _⟩
    refine leads_bind_ok_iff.2 ⟨(), _, [], (List.append_nil _).symm, ?_, .nil _⟩
    refine leads_bind_ok_iff.2 ⟨(), [], _, rfl, .nil _, ?_⟩
    rw [if_neg (by decide)]
    exact @Leads.cons _ Answer _ .nowMs _ now _ _
      (@Leads.cons _ Answer _ (.register _) _ (.ok ()) _ _ (.nil _))
  exact exists_leads_handle (by decide : "POST" ≠ "OPTIONS") hp he hf

/-- A request with an empty token is refused. -/
theorem leads_registering_empty :
    ∃ response, Leads (handle settings (registering "")) [⟨.now, now⟩] (.done response) := by
  have hp : Route.ofPath? (registering "").path = some .updatePushToken := by
    rw [path_registering]
    rfl
  obtain ⟨hop, htoken⟩ := header?_registering (by decide +kernel : Request.isVisible "" = true)
  have he : Leads (Route.updatePushToken.enter settings (registering "")).run []
      (.done (.error Gate.missingToken)) := by
    rw [enter_of_token rfl, hop, htoken]
    exact .nil _
  exact exists_leads_handle (by decide : "POST" ≠ "OPTIONS") hp he
    (@Leads.cons _ Answer _ .now _ now [] _ (.nil _))

end Registering

/-- The claims of a user of the first platform. -/
def sampleClaims : Claims := ⟨"u", 1, 100, 0, "x"⟩

/-- A server that has issued one token. -/
def sampleServer (token : String) : Server :=
  { Server.new {} with tokens := ((∅ : TokenStore).issue 0 ⟨"u", 1⟩ token 100).2 }

/-- The world in the first second, without vendors. -/
def sampleOutside : Collaborators where
  seconds := 1
  milliseconds := 1000
  fresh := "x"
  members := fun _ => .ok []
  vendors := []
  notify := fun _ _ _ => .ok ()

theorem gives_lookupToken (outside : Collaborators) {s t : Server} {c : Client} {token : String}
    {state : TokenState} {talk : List (Exchange Answer)}
    (h : s.tokens.lookup outside.seconds c token = state) (hg : Gives s talk t) :
    Gives s (⟨.lookupToken c token, .ok state⟩ :: talk) t := by
  subst h
  exact .cons outside (.lookupToken c token) hg

theorem lookup_sampleServer (token : String) :
    (sampleServer token).tokens.lookup 1 ⟨"u", 1⟩ token = .normal := by
  have h : (0 : Int) ≤ 1 := by decide
  refine (TokenStore.lookup_issue ∅ ⟨"u", 1⟩ ⟨"u", 1⟩ token token h h 100 rfl).trans ?_
  rw [if_pos rfl, if_pos rfl, if_pos (by decide)]

/-! ### What a request can bring about -/

/-- Whoever is neither let in nor shows the secret leaves the server as it is and has nothing asked
but the time, new texts and the state of its token; in particular no event is delivered. A client
that is let in makes one change at most, of those it can make, and has nothing else asked. Every
request is answered. -/
theorem authority (settings : AuthSettings) (r : Request) (s : Server) :
    (∀ talk response t, Leads (handle settings r) talk (.done response) → Gives s talk t →
      ((∀ c, ¬ IsLetIn settings r talk c) → ¬ ShowsSecret settings r →
          t = s ∧ ∀ x ∈ talk, x.1.IsQuiet) ∧
        ∀ c, IsLetIn settings r talk c →
          Change settings c s t ∧ ∀ x ∈ talk, x.1.IsQuiet ∨ x.1.IsOwn settings c) ∧
      ∀ outside, ∃ talk,
        Leads (handle settings r) talk (.done (Server.run outside (handle settings r) s).1) ∧
          Gives s talk (Server.run outside (handle settings r) s).2 := by
  constructor
  · intro talk response t hl hg
    constructor
    · intro hc hs
      have hq := quiet_of_stranger hl hc hs
      exact ⟨hg.eq_of_quiet hq, hq⟩
    · intro c hc
      rcases once_of_letIn hl hc with hq | ⟨before, x, after, rfl, hb, hx, ha⟩
      · obtain rfl := hg.eq_of_quiet hq
        exact ⟨.nothing, fun x hx => .inl (hq x hx)⟩
      · obtain ⟨outside, rfl⟩ := hg.exists_answer hb ha
        refine ⟨change_of_isOwn hx outside s, List.forall_mem_append.2 ⟨?_, ?_⟩⟩
        · exact fun y hy => .inl (hb y hy)
        · exact List.forall_mem_cons.2 ⟨.inr hx, fun y hy => .inl (ha y hy)⟩
  · intro outside
    exact exists_gives outside _ s

/-- A user with a usable token registers its device, and one without a token does not. -/
theorem change_of_registering :
    let settings : AuthSettings := {}
    let token := Token.sign settings.jwtSecret sampleClaims
    let s := sampleServer token
    let kept : Registration := ⟨"u", 1, "device", 1000⟩
    let talk : List (Exchange Answer) := [⟨.now, (1 : Int)⟩,
      ⟨.lookupToken ⟨"u", 1⟩ token, .ok .normal⟩, ⟨.nowMs, (1000 : Int)⟩, ⟨.register kept, .ok ()⟩]
    let t : Server := { s with registrations := s.registrations.register kept }
    let refused : List (Exchange Answer) := [⟨.now, (1 : Int)⟩]
    (∃ response, Leads (handle settings (registering token)) talk (.done response)) ∧
      Gives s talk t ∧ IsLetIn settings (registering token) talk ⟨"u", 1⟩ ∧
      Change settings ⟨"u", 1⟩ s t ∧
      (∃ response, Leads (handle settings (registering "")) refused (.done response)) ∧
      Gives s refused s ∧ ∀ x ∈ refused, x.1.IsQuiet := by
  intro settings token s kept talk t refused
  have hgate : Leads (Gate.letIn settings (some token)).run _ (.done (.ok ⟨"u", 1⟩)) :=
    @leads_letIn settings sampleClaims 1 (by decide +kernel) (by decide +kernel)
  have hv := isVisible_sign settings.jwtSecret sampleClaims
  obtain ⟨response, hl⟩ := @leads_registering settings token "u" _ 1000 hv hgate
  have hg : Gives s talk t := by
    have hlast : Gives s [⟨.nowMs, (1000 : Int)⟩, ⟨.register kept, .ok ()⟩] t :=
      .cons sampleOutside .nowMs (.cons sampleOutside (.register kept) (.nil t))
    exact .cons sampleOutside .now
      (gives_lookupToken sampleOutside (lookup_sampleServer token) hlast)
  have hc : IsLetIn settings (registering token) talk ⟨"u", 1⟩ := by
    rw [IsLetIn, path_registering, (header?_registering hv).2]
    exact ⟨by decide, _, ⟨[], _, rfl⟩, hgate⟩
  obtain ⟨refusal, hrl⟩ := @leads_registering_empty settings 1
  have hrg : Gives s refused s := .cons sampleOutside .now (.nil s)
  have hrc : ∀ c, ¬ IsLetIn settings (registering "") refused c := by
    rintro c ⟨-, gate, -, h⟩
    rw [(header?_registering (by decide +kernel)).2] at h
    cases h
  have hrs : ¬ ShowsSecret settings (registering "") := by
    rintro ⟨secret, hs, -⟩
    cases hs
  exact ⟨⟨response, hl⟩, hg, hc, (((authority settings _ s).1 talk response t hl hg).2 _ hc).1,
    ⟨refusal, hrl⟩, hrg, (((authority settings _ s).1 refused refusal s hrl hrg).1 hrc hrs).2⟩

end Http
end Courier
