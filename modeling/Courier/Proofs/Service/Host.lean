import Courier.Gate.Token
import Courier.Keyspace.Answers
import Courier.Proofs.Token.History

/-!
# The service over different stores

Wherever the service keeps its tokens, it asks the same questions: what an operation comes to is
decided before the tokens are asked for, and the gate lets in whom it finds usable. Main statement:
the gate lets in exactly the client of a token that is verified and that is looked up as usable.
-/

namespace Courier

open Token

/-- A place where the service runs: how its questions are answered there, and what a purge of the
tokens leaves, with the world outside as it is by then. -/
structure Host (σ : Type) where
  answer : Collaborators → (q : Question) → StateM σ (Answer q)
  purge : Collaborators → σ → σ

namespace Host

/-- The service that keeps its tokens itself. -/
def server : Host Server where
  answer := Server.answer
  purge outside s := { s with tokens := (s.tokens.purge outside.seconds).2 }

/-- The service that keeps its tokens in a keyspace. -/
def shared : Host Keyspace.SharedServer where
  answer := Keyspace.SharedServer.answer
  purge outside s := (Keyspace.SharedServer.share outside Keyspace.Tokens.purge s).2

variable {σ α β : Type} (host : Host σ) (settings : AuthSettings) (outside : Collaborators)

/-- Runs a computation of the service while the world outside stays as it is. -/
def run (c : Service α) : StateM σ (Except ServiceError α) :=
  c.run.run (host.answer outside)

/-- Tells what came of a computation. -/
def tell (x : α → Incident) (r : Except ServiceError α × σ) : Incident × σ :=
  match r with
  | (.ok a, s) => (x a, s)
  | (.error e, s) => (.refused e, s)

/-- Carries out one operation. -/
def perform : Operation → StateM σ Incident
  | .issue c => fun s => tell (.issued c) (host.run outside (issue settings c) s)
  | .forceLogout operator c => fun s =>
    tell (fun _ => .loggedOut c) (host.run outside (forceLogout settings operator c) s)
  | .purge => fun s => (.purged, host.purge outside s)

/-- Carries out operations in order, each in the world outside as it is by then. -/
def performAll : List (Collaborators × Operation) → σ → List Incident × σ
  | [], s => ([], s)
  | x :: ops, s =>
    let first := host.perform settings x.1 x.2 s
    let rest := performAll ops first.2
    (first.1 :: rest.1, rest.2)

/-- Whether the time and new texts are told as they are, and nothing changes by it. -/
structure IsPlain : Prop where
  now : ∀ outside s, host.answer outside .now s = (outside.seconds, s)
  freshId : ∀ outside s, host.answer outside .freshId s = (outside.fresh, s)

theorem isPlain_server : server.IsPlain :=
  ⟨fun _ _ => rfl, fun _ _ => rfl⟩

theorem isPlain_shared : shared.IsPlain :=
  ⟨fun _ _ => rfl, fun _ _ => rfl⟩

/-! ### Computations -/

@[simp] theorem run_pure (a : α) (s : σ) : host.run outside (pure a) s = (.ok a, s) := rfl

@[simp] theorem run_throw (e : ServiceError) (s : σ) :
    host.run outside (throw e : Service α) s = (.error e, s) := rfl

@[simp] theorem run_ofExcept (r : Except ServiceError α) (s : σ) :
    host.run outside (Service.ofExcept r) s = (r, s) := rfl

theorem run_bind (c : Service α) (f : α → Service β) (s : σ) :
    host.run outside (c >>= f) s =
      match host.run outside c s with
      | (.ok a, t) => host.run outside (f a) t
      | (.error e, t) => (.error e, t) := by
  refine (Dialogue.run_except_bind (host.answer outside) c f s).trans ?_
  rw [← show host.run outside c s = c.run.run (host.answer outside) s from rfl]
  rcases host.run outside c s with ⟨_ | _, _⟩ <;> rfl

variable {host} in
theorem IsPlain.run_now (h : host.IsPlain) (s : σ) :
    host.run outside Service.now s = (.ok outside.seconds, s) :=
  congrArg (fun r : Int × σ => (Except.ok r.1, r.2)) (h.now outside s)

variable {host} in
theorem IsPlain.run_freshId (h : host.IsPlain) (s : σ) :
    host.run outside Service.freshId s = (.ok outside.fresh, s) :=
  congrArg (fun r : String × σ => (Except.ok r.1, r.2)) (h.freshId outside s)

@[simp] theorem run_lookupToken (c : Client) (token : String) (s : σ) :
    host.run outside (Service.lookupToken c token) s = host.answer outside (.lookupToken c token) s :=
  rfl

@[simp] theorem run_issueToken (c : Client) (token : String) (expires : Int) (s : σ) :
    host.run outside (Service.issueToken c token expires) s =
      host.answer outside (.issueToken c token expires) s := rfl

@[simp] theorem run_kickTokens (c : Client) (s : σ) :
    host.run outside (Service.kickTokens c) s = host.answer outside (.kickTokens c) s := rfl

/-! ### Operations -/

/-- Whether an operation is carried out. -/
def allow : Operation → Except ServiceError Unit
  | .issue c => (checkUser c.user).bind fun _ => checkPlatform c.platform
  | .forceLogout operator c =>
    if operator ≠ c.user ∧ !settings.isAdmin operator then
      .error (.noPermission (operator ++ " cannot force logout " ++ c.user))
    else .ok ()
  | .purge => .ok ()

/-- The token that is issued to a client. -/
def issuedIn (c : Client) : Issued :=
  let claims := claimsFor settings c outside.seconds outside.fresh
  ⟨sign settings.jwtSecret claims, claims⟩

/-- Carries out an operation on the tokens. -/
def carryOut : Operation → StateM σ Incident
  | .issue c => fun s =>
    let i := issuedIn settings outside c
    tell (fun _ => .issued c i)
      (host.answer outside (.issueToken c i.token i.claims.expires.toInt) s)
  | .forceLogout _ c => fun s =>
    tell (fun _ => .loggedOut c) (host.answer outside (.kickTokens c) s)
  | .purge => fun s => (.purged, host.purge outside s)

variable {host} in
/-- Whether an operation is carried out has nothing to do with the tokens that are kept. -/
theorem IsPlain.perform_eq (h : host.IsPlain) (op : Operation) (s : σ) :
    host.perform settings outside op s =
      match allow settings op with
      | .error e => (.refused e, s)
      | .ok _ => host.carryOut settings outside op s := by
  cases op with
  | issue c =>
      rw [perform, allow]
      cases hu : checkUser c.user with
      | error e => simp [issue, run_bind, hu, tell, Except.bind]
      | ok _ =>
          cases hp : checkPlatform c.platform with
          | error e => simp [issue, run_bind, hu, hp, tell, Except.bind]
          | ok _ =>
              simp only [issue, run_bind, run_ofExcept, hu, hp, h.run_now, h.run_freshId,
                run_issueToken, carryOut, issuedIn, Except.bind]
              cases host.answer outside (.issueToken c _ _) s with
              | mk r t => cases r <;> rfl
  | forceLogout operator c =>
      rw [perform, allow, forceLogout]
      split
      · rfl
      · rfl
  | purge => rfl

/-! ### Operations on both kinds of tokens -/

section Tokens

variable (c : Client) (s : Server) {w : Keyspace.SharedServer} {k : Keyspace} {n : Nat}

theorem carryOut_issue_server :
    server.carryOut settings outside (.issue c) s =
      let i := issuedIn settings outside c
      (.issued c i, { s with
        tokens := (s.tokens.issue outside.seconds c i.token i.claims.expires.toInt).2 }) := by
  have ha : ∀ token expires, server.answer outside (.issueToken c token expires) s =
      (.ok (s.tokens.issue outside.seconds c token expires).1,
        { s with tokens := (s.tokens.issue outside.seconds c token expires).2 }) :=
    fun _ _ => rfl
  simp only [carryOut, ha, tell]

theorem carryOut_forceLogout_server (operator : String) :
    server.carryOut settings outside (.forceLogout operator c) s =
      (.loggedOut c, { s with tokens := (s.tokens.kickAll outside.seconds c).2 }) := by
  have ha : server.answer outside (.kickTokens c) s =
      (.ok (s.tokens.kickAll outside.seconds c).1,
        { s with tokens := (s.tokens.kickAll outside.seconds c).2 }) := rfl
  simp only [carryOut, ha, tell]

theorem carryOut_issue_shared
    (h : (Keyspace.Tokens.issue outside.seconds c (issuedIn settings outside c).token
      (issuedIn settings outside c).claims.expires.toInt).on outside.seconds w.keyspace =
        (.ok n, k)) :
    shared.carryOut settings outside (.issue c) w =
      (.issued c (issuedIn settings outside c), { w with keyspace := k }) := by
  have ha : ∀ token expires, shared.answer outside (.issueToken c token expires) w =
      (((Keyspace.Tokens.issue outside.seconds c token expires).on outside.seconds w.keyspace).1,
        { w with keyspace :=
          ((Keyspace.Tokens.issue outside.seconds c token expires).on outside.seconds
            w.keyspace).2 }) := fun _ _ => rfl
  simp only [carryOut, ha, h, tell]

theorem carryOut_forceLogout_shared (operator : String)
    (h : (Keyspace.Tokens.kickAll c).on outside.seconds w.keyspace = (.ok n, k)) :
    shared.carryOut settings outside (.forceLogout operator c) w =
      (.loggedOut c, { w with keyspace := k }) := by
  have ha : shared.answer outside (.kickTokens c) w =
      (((Keyspace.Tokens.kickAll c).on outside.seconds w.keyspace).1,
        { w with keyspace := ((Keyspace.Tokens.kickAll c).on outside.seconds w.keyspace).2 }) := rfl
  simp only [carryOut, ha, h, tell]

end Tokens

/-! ### The gate -/

variable {host settings outside} in
/-- What the gate says of a text that is not empty. -/
theorem IsPlain.run_letIn (h : host.IsPlain) {token : String} (ht : token ≠ "") (s : σ) :
    (host.run outside (Gate.letIn settings (some token)) s).1 =
      match Token.verify settings.jwtSecret outside.seconds token with
      | .error e => .error e
      | .ok claims =>
        match (host.answer outside (.lookupToken ⟨claims.user, claims.platform⟩ token) s).1 with
        | .error e => .error e
        | .ok state => state.check.map fun _ => ⟨claims.user, claims.platform⟩ := by
  rw [Gate.letIn_of_ne_empty settings ht]
  cases hv : Token.verify settings.jwtSecret outside.seconds token with
  | error e => simp [run_bind, h.run_now, hv]
  | ok claims =>
      simp only [run_bind, h.run_now, run_ofExcept, hv, run_lookupToken, run_pure]
      rcases host.answer outside (.lookupToken ⟨claims.user, claims.platform⟩ token) s with
        ⟨_ | state, _⟩
      · rfl
      · cases state <;> rfl

variable {host settings outside} in
/-- The gate lets in the client of a token that is verified and looked up as usable. -/
theorem IsPlain.letIn_eq_ok_iff (h : host.IsPlain) {t : Option String} {c : Client} {s : σ} :
    (host.run outside (Gate.letIn settings t) s).1 = .ok c ↔
      ∃ token claims, t = some token ∧ token ≠ "" ∧
        Token.verify settings.jwtSecret outside.seconds token = .ok claims ∧
        ⟨claims.user, claims.platform⟩ = c ∧
        (host.answer outside (.lookupToken c token) s).1 = .ok .normal := by
  constructor
  · intro hc
    match t, hc with
    | some token, hc =>
      have ht : token ≠ "" := by
        rintro rfl
        rw [Gate.letIn, run_throw] at hc
        cases hc
      rw [h.run_letIn ht] at hc
      split at hc
      · cases hc
      · rename_i claims hv
        split at hc
        · cases hc
        · rename_i state hl
          cases state with
          | normal =>
              cases hc
              exact ⟨token, claims, rfl, ht, hv, rfl, hl⟩
          | kicked => cases hc
          | absent => cases hc
  · rintro ⟨token, claims, rfl, ht, hv, rfl, hl⟩
    rw [h.run_letIn ht, hv]
    dsimp only
    rw [hl]
    rfl

end Host

end Courier
