import Courier.Proofs.Http.Authority
import Courier.Proofs.Http.Submission
import Courier.Proofs.Settings.Layers

/-!
# Requests without a secret

A path for callers from inside wants the shared secret, and so does the path that issues tokens.
Main statement: under settings that are loaded, whoever shows no secret there is refused and changes
nothing, and so is whoever shows the empty text, unless it is the secret that the environment or
else the file sets.
-/

namespace Courier.Http

open Dialogue Service

/-- What a request shows for the secret where its path wants it: nothing if no header of that name
is visible, or if the body cannot be read. -/
def Shows (r : Request) (given : Option String) : Prop :=
  r.path ∈ innerPaths ∧ r.header? "secret" = given ∨
    r.path = "/auth/user_token" ∧ (r.read TokenRequest.read).toOption.map (·.secret) = given

/-- Whether a request is refused. A question about the options of a path is none that a route
answers: it is told them, and no more. -/
structure IsRefused (settings : AuthSettings) (r : Request) : Prop where
  status : r.method ≠ "OPTIONS" → ∀ talk response,
    Leads (handle settings r) talk (.done response) → 400 ≤ response.status
  quiet : ∀ talk response, Leads (handle settings r) talk (.done response) →
    ∀ x ∈ talk, x.1.IsQuiet
  unchanged : ∀ talk response s t, Leads (handle settings r) talk (.done response) →
    Gives s talk t → t = s

variable {settings : AuthSettings} {r : Request} {talk : List (Exchange Answer)}
  {response : Response}

/-! ### Refusals -/

theorem status_ofError (e : ServiceError) (now : Int) :
    400 ≤ (Response.ofError e now).status := by
  change 400 ≤ e.status
  cases e <;> simp [ServiceError.status]

theorem status_of_leads_respond_error {e : ServiceError}
    (h : Leads (respond (.error e)) talk (.done response)) : 400 ≤ response.status := by
  obtain ⟨now, tail, rfl, ht⟩ := leads_ask_done_iff.1 h
  obtain ⟨-, rfl⟩ := leads_done_done_iff.1 ht
  exact status_ofError e now

/-- What a method asks of the answer of a route leaves its status. -/
theorem exists_status_of_leads_handle {route : Route} (hm : r.method ≠ "OPTIONS")
    (hp : Route.ofPath? r.path = some route)
    (h : Leads (handle settings r) talk (.done response)) :
    ∃ plain, Leads (route.handle settings r) talk (.done plain) ∧
      response.status = plain.status := by
  obtain ⟨plain, hl, rfl⟩ := (leads_handle_route_iff hm hp).1 h
  have named : (route.naming r.method plain).status = plain.status := by
    unfold Route.naming
    split <;> rfl
  refine ⟨plain, hl, ?_⟩
  split
  · exact named
  · exact named

/-- The guard of a path for callers from inside stops whom the check of the secret refuses. -/
theorem status_of_leads_inner {route : Route} {e : ServiceError} (hg : route.guard = .secret)
    (he : Gate.checkSecret settings.issueSecret (r.header? "secret") = .error e)
    (h : Leads (route.handle settings r) talk (.done response)) : 400 ≤ response.status := by
  have stopped : (route.enter settings r).run = .done (.error e) := by
    rw [Route.enter, hg]
    simp only [he]
    rfl
  rw [handle_eq, stopped] at h
  exact status_of_leads_respond_error h

/-- Behind its guard a route refuses a request or does its work for it. -/
theorem status_or_work_of_leads_follow {route : Route} {bound : Option Identity}
    (h : Leads (route.follow settings r (.ok bound)) talk (.done response)) :
    400 ≤ response.status ∨ ∃ work, route.act settings r bound = .ok work ∧
      Leads (work.run >>= respond) talk (.done response) := by
  rw [Route.follow] at h
  split at h
  · split at h
    · rename_i e _
      obtain ⟨-, rfl⟩ := leads_done_done_iff.1 h
      left
      cases e <;> decide
    · exact .inr ⟨_, ‹_›, h⟩
  · obtain ⟨-, rfl⟩ := leads_done_done_iff.1 h
    exact .inl (by decide)

/-- Whoever asks for a token with a secret that the check refuses gets none. -/
theorem status_of_leads_userToken
    (refuses : ∀ t, r.read TokenRequest.read = .ok t →
      ∃ e, Gate.checkSecret settings.issueSecret (some t.secret) = .error e)
    (h : Leads (Route.userToken.handle settings r) talk (.done response)) :
    400 ≤ response.status := by
  have entered : (Route.userToken.enter settings r).run = .done (.ok none) := rfl
  rw [handle_eq, entered, bind_done] at h
  rcases status_or_work_of_leads_follow h with hs | ⟨work, hw, h⟩
  · exact hs
  · obtain ⟨t, ht, rfl⟩ := exists_of_withBody hw
    obtain ⟨e, he⟩ := refuses t ht
    have stopped : (Work.userToken settings t).run = .done (.error e) := by
      rw [Work.userToken, he]
      rfl
    rw [stopped] at h
    exact status_of_leads_respond_error h

theorem exists_route_of_inner (h : r.path ∈ innerPaths) :
    ∃ route, Route.ofPath? r.path = some route := by
  have routed : ∀ path ∈ innerPaths, (Route.ofPath? path).isSome := by decide
  exact Option.isSome_iff_exists.1 (routed _ h)

/-- A request shows one thing only. -/
theorem Shows.unique {given other : Option String} (h : Shows r given) (ho : Shows r other) :
    given = other := by
  have apart : "/auth/user_token" ∉ innerPaths := by decide
  rcases h with ⟨hi, rfl⟩ | ⟨hu, rfl⟩
  · rcases ho with ⟨-, rfl⟩ | ⟨hu, -⟩
    · rfl
    · exact absurd (hu ▸ hi) apart
  · rcases ho with ⟨hi, -⟩ | ⟨-, rfl⟩
    · exact absurd (hu ▸ hi) apart
    · rfl

theorem exists_shows_of_showsSecret (h : ShowsSecret settings r) :
    ∃ secret, settings.issueSecret = some secret ∧ Shows r (some secret) := by
  obtain ⟨secret, hset, ⟨hp, hg⟩ | ⟨hp, t, ht, hg⟩⟩ := h
  · exact ⟨secret, hset, .inl ⟨hp, hg⟩⟩
  · exact ⟨secret, hset, .inr ⟨hp, by simp [ht, Except.toOption, hg]⟩⟩

/-- Whoever shows what the check of the secret refuses is refused. -/
theorem isRefused_of_shows {given : Option String} {e : ServiceError} (hr : Shows r given)
    (he : Gate.checkSecret settings.issueSecret given = .error e) : IsRefused settings r := by
  have quiet : ∀ talk response, Leads (handle settings r) talk (.done response) →
      ∀ x ∈ talk, x.1.IsQuiet := by
    intro talk response h
    refine quiet_of_stranger h ?_ fun hs => ?_
    · rintro c ⟨hp, -⟩
      rcases hr with ⟨hi, -⟩ | ⟨hi, -⟩
      · have apart : ∀ path ∈ innerPaths, path ∉ gatedPaths := by decide
        exact apart _ hi hp
      · rw [hi] at hp
        exact absurd hp (by decide)
    -- who shows the secret shows nothing else, and so passes the check
    · obtain ⟨secret, hset, hshown⟩ := exists_shows_of_showsSecret hs
      have passed := Gate.checkSecret_eq_ok_iff.2 ⟨secret, hset, hr.unique hshown⟩
      cases passed.symm.trans he
  refine ⟨?_, quiet, fun talk response s t h hg => hg.eq_of_quiet (quiet talk response h)⟩
  intro hm talk response h
  rcases hr with ⟨hi, rfl⟩ | ⟨hi, rfl⟩
  · obtain ⟨route, hp⟩ := exists_route_of_inner hi
    obtain ⟨plain, hl, hstatus⟩ := exists_status_of_leads_handle hm hp h
    rw [hstatus]
    exact status_of_leads_inner ((guard_of_path hp).2.1.2 hi) he hl
  · have hp : Route.ofPath? r.path = some .userToken := by
      rw [hi]
      rfl
    obtain ⟨plain, hl, hstatus⟩ := exists_status_of_leads_handle hm hp h
    rw [hstatus]
    refine status_of_leads_userToken (fun t ht => ⟨e, ?_⟩) hl
    rw [ht] at he
    exact he

/-! ### The empty secret -/

/-- A request for a token that shows the empty secret. -/
def asking : Request where
  method := "POST"
  target := "/auth/user_token"
  headers := [("content-type", "application/json")]
  body := (Json.object
    [("secret", .text ""), ("user_id", .text "u"), ("platform_id", .ofInt 1)]).bytes

theorem path_asking : asking.path = "/auth/user_token" :=
  path_of_plain rfl (by decide +kernel)

theorem read_asking : asking.read TokenRequest.read = .ok ⟨"", "u", 1⟩ := by
  refine read_of_body ?_ ?_ rfl ?_
  · decide +kernel
  · apply Json.Whole.object
    simp [Json.Whole.text]
  · have hp : Json.readCode (.ofInt 1) = .ok 1 := Json.readCode_ofInt 1
    simp [TokenRequest.read, givenClient, clientFields, textField, Json.Field.of, Json.readFields,
      Json.readMembers, Json.readText, hp, List.find?, List.lookup_cons, Json.Given.get,
      Json.Given.get?, Bind.bind, Except.bind, Functor.map, Except.map, pure, Except.pure]

theorem shows_asking : Shows asking (some "") := by
  refine .inr ⟨path_asking, ?_⟩
  rw [read_asking]
  rfl

/-- The token that is issued for that request. -/
def askedFor (settings : AuthSettings) (now : Int) (id : String) : Token.Issued :=
  let claims := Token.claimsFor settings ⟨"u", 1⟩ now id
  ⟨Token.sign settings.jwtSecret claims, claims⟩

/-- Under the empty secret whoever shows it is issued a token. -/
theorem leads_asking (hs : settings.issueSecret = some "") (now : Int) (id : String)
    (kicked : Nat) :
    let i := askedFor settings now id
    Leads (handle settings asking)
      [⟨.now, now⟩, ⟨.freshId, id⟩,
        ⟨.issueToken ⟨"u", 1⟩ i.token i.claims.expires.toInt, .ok kicked⟩]
      (.done (.withBody 200 (.json (.object
        [("token", .text i.token), ("expire_time_seconds", .ofInt i.span.toInt)])))) := by
  intro i
  have hroute : Route.ofPath? asking.path = some .userToken := by
    rw [path_asking]
    rfl
  have hmem : asking.method ∈ Route.userToken.methods := List.mem_singleton_self _
  have hact : Route.userToken.act settings asking none =
      .ok (Work.userToken settings ⟨"", "u", 1⟩) := by
    change withBody asking TokenRequest.read _ = _
    rw [withBody, read_asking]
    rfl
  have hcheck : Gate.checkSecret settings.issueSecret (some "") = .ok () :=
    Gate.checkSecret_eq_ok_iff.2 ⟨"", hs, rfl⟩
  have hissue : Leads (Token.issue settings ⟨"u", 1⟩).run
      [⟨.now, now⟩, ⟨.freshId, id⟩,
        ⟨.issueToken ⟨"u", 1⟩ i.token i.claims.expires.toInt, .ok kicked⟩] (.done (.ok i)) := by
    refine leads_bind_ok_iff.2 ⟨(), [], _, rfl, .nil _, ?_⟩
    refine leads_bind_ok_iff.2 ⟨(), [], _, rfl, .nil _, ?_⟩
    refine leads_bind_ok_iff.2 ⟨now, [⟨.now, now⟩], _, rfl, .cons _ (.nil _), ?_⟩
    refine leads_bind_ok_iff.2 ⟨id, [⟨.freshId, id⟩], _, rfl, .cons _ (.nil _), ?_⟩
    exact leads_bind_ok_iff.2 ⟨kicked, _, [], rfl, .cons _ (.nil _), .nil _⟩
  rw [leads_handle_iff hroute hmem rfl, handle_eq]
  refine leads_bind_done_iff.2 ⟨.ok none, [], _, rfl, .nil _, ?_⟩
  rw [Route.follow, if_pos hmem, hact]
  refine leads_bind_done_iff.2 ⟨.ok _, _, [], (List.append_nil _).symm, ?_, .nil _⟩
  refine leads_bind_ok_iff.2 ⟨(), [], _, rfl, ?_, ?_⟩
  · rw [hcheck]
    exact .nil _
  · exact leads_bind_ok_iff.2 ⟨i, _, [], (List.append_nil _).symm, hissue, .nil _⟩

theorem not_isRefused_asking (hs : settings.issueSecret = some "") :
    ¬ IsRefused settings asking := by
  intro h
  have refused : 400 ≤ 200 := h.status (by decide) _ _ (leads_asking hs 0 "" 0)
  exact absurd refused (by decide)

/-! ### Settings that are loaded -/

/-- A talk in which a configuration file is read that sets the empty secret. -/
def emptySecretFile : List (Exchange FileQuestion.Answer) :=
  [⟨.exists "config.toml", true⟩,
    ⟨.read "config.toml", .ok "[auth]\nissue_secret = \"\"\n"⟩]

/-- The settings that have this secret and are the defaults else. -/
def withSecret (secret : String) : Settings :=
  { auth := { issueSecret := some secret } }

theorem leads_lowest_emptySecretFile :
    Leads (Settings.lowest {}) emptySecretFile (.done (.ok (withSecret ""))) := by
  have read : Settings.ofText "[auth]\nissue_secret = \"\"\n" = .ok (withSecret "") :=
    Json.toOption_eq_some_iff.1 (by decide +kernel)
  refine @Leads.cons _ FileQuestion.Answer _ (.exists "config.toml") _ true _ _ ?_
  refine @Leads.cons _ FileQuestion.Answer _ (.read "config.toml") _ (.ok _) _ _ ?_
  rw [← read]
  exact .nil _

/-- Under settings that are loaded, whoever shows no secret is refused; and whoever shows the empty
text is refused exactly if the issue secret is not the empty text: that of the environment if it
sets one, else that of the configuration file. -/
theorem refused_without_secret_iff {env : Environment} {a : CommandLine.Arguments}
    {files : List (Exchange FileQuestion.Answer)} {settings : Settings}
    (loaded : Leads (Settings.load env a) files (.done (.ok settings))) :
    ∃ file, Leads (Settings.lowest a) files (.done (.ok file)) ∧
      (∀ r, Shows r none → IsRefused settings.auth r) ∧
      ((∀ r, Shows r (some "") → IsRefused settings.auth r) ↔
        (env.lookup "PRIVCHAT_PUSH_ISSUE_SECRET" <|> file.auth.issueSecret) ≠ some "") := by
  obtain ⟨file, hl, hf⟩ := Settings.leads_load_iff.1 loaded
  refine ⟨file, hl, fun r hr => ?_, ?_⟩
  · cases hs : settings.auth.issueSecret with
    | none => exact isRefused_of_shows hr (by rw [hs]; rfl)
    | some secret => exact isRefused_of_shows hr (by rw [hs]; rfl)
  rw [← Settings.issueSecret_of_layered hf]
  constructor
  · intro h hs
    exact not_isRefused_asking hs (h asking shows_asking)
  · intro hs r hr
    cases hc : Gate.checkSecret settings.auth.issueSecret (some "") with
    | error e => exact isRefused_of_shows hr hc
    | ok _ =>
        obtain ⟨secret, hset, hg⟩ := Gate.checkSecret_eq_ok_iff.1 hc
        exact absurd (hset.trans hg.symm) hs

/-- A secret in the environment shuts out those who show the empty text, even if the file sets
that. -/
theorem refused_without_secret_of_environment :
    let env : Environment := [("PRIVCHAT_PUSH_ISSUE_SECRET", "s")]
    Leads (Settings.load env {}) emptySecretFile (.done (.ok (withSecret "s"))) ∧
      (∀ r, Shows r none → IsRefused (withSecret "s").auth r) ∧
      ∀ r, Shows r (some "") → IsRefused (withSecret "s").auth r := by
  intro env
  have loaded : Leads (Settings.load env {}) emptySecretFile (.done (.ok (withSecret "s"))) :=
    Settings.leads_load_iff.2 ⟨withSecret "", leads_lowest_emptySecretFile, rfl⟩
  obtain ⟨file, -, absent, empty⟩ := refused_without_secret_iff loaded
  refine ⟨loaded, absent, empty.2 ?_⟩
  simp [env]

/-- A file that sets the empty secret passes all checks, and then whoever shows the empty secret is
issued a token, which is usable. -/
theorem answered_without_secret :
    let settings := withSecret ""
    let i := askedFor settings.auth 1 "x"
    ∃ talk response t, Leads (Settings.load [] {}) emptySecretFile (.done (.ok settings)) ∧
      Shows asking (some "") ∧ Leads (handle settings.auth asking) talk (.done response) ∧
      response.isSuccess = true ∧ Gives (Server.new settings) talk t ∧
      t.tokens.lookup 1 ⟨"u", 1⟩ i.token = .normal := by
  intro settings i
  have loaded : Leads (Settings.load [] {}) emptySecretFile (.done (.ok settings)) :=
    Settings.leads_load_iff.2 ⟨settings, leads_lowest_emptySecretFile, rfl⟩
  have gives : Gives (Server.new settings) _ _ :=
    .cons sampleOutside .now (.cons sampleOutside .freshId
      (.cons sampleOutside (.issueToken ⟨"u", 1⟩ i.token i.claims.expires.toInt) (.nil _)))
  refine ⟨_, _, _, loaded, shows_asking, leads_asking rfl 1 "x" _, rfl, gives, ?_⟩
  have lasts : 1 < i.claims.expires.toInt := by decide +kernel
  have current : (1 : Int) ≤ 1 := by decide
  refine (TokenStore.lookup_issue ∅ ⟨"u", 1⟩ ⟨"u", 1⟩ i.token i.token current (by decide)
    i.claims.expires.toInt rfl).trans ?_
  rw [if_pos rfl, if_pos rfl, if_pos lasts]

end Courier.Http
