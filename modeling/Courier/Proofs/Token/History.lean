import Courier.Proofs.Service.Course
import Courier.Proofs.Token.Signed
import Courier.Proofs.Token.Store
import Courier.Token.Issue

/-!
# Histories of tokens

Tokens are issued, their clients are logged out, and records that have ended are purged, in any
order and while the clock goes on. A history tells what came of the operations, in order. Main
statement: what a lookup finds at any later time can be read off the history.
-/

namespace Courier.Token

/-- An operation on the tokens of the service. -/
inductive Operation where
  | issue (c : Client)
  | forceLogout (operator : String) (c : Client)
  | purge
  deriving DecidableEq, Repr

/-- What comes of an operation. -/
inductive Incident where
  | issued (c : Client) (i : Issued)
  | loggedOut (c : Client)
  | purged
  | refused (e : ServiceError)

namespace Incident

/-- Whether the tokens that a client had before are of no use any more. -/
def Concerns (c : Client) : Incident → Prop
  | .issued d _ | .loggedOut d => d = c
  | .purged | .refused _ => False

/-- The token that is issued. -/
def token? : Incident → Option String
  | .issued _ i => some i.token
  | _ => none

end Incident

section Operations

variable (settings : AuthSettings) (line : Timeline)

/-- Carries out one operation. -/
def perform : Operation → StateM Course Incident
  | .issue c => fun s =>
    match Course.run line (issue settings c) s with
    | (.ok i, t) => (.issued c i, t)
    | (.error e, t) => (.refused e, t)
  | .forceLogout operator c => fun s =>
    match Course.run line (forceLogout settings operator c) s with
    | (.ok _, t) => (.loggedOut c, t)
    | (.error e, t) => (.refused e, t)
  | .purge => fun s =>
    (.purged, ⟨{ s.server with tokens := (s.server.tokens.purge (line.seconds s.asked)).2 },
      s.asked + 1⟩)

/-- Carries out operations in order. -/
def performAll : List Operation → Course → List Incident × Course
  | [], s => ([], s)
  | op :: ops, s =>
    let first := perform settings line op s
    let rest := performAll ops first.2
    (first.1 :: rest.1, rest.2)

/-- The token that is issued to a client when these questions come next: for the time and for a
text that is like no other. -/
def issuedAt (c : Client) (asked : Nat) : Issued :=
  let claims := claimsFor settings c (line.seconds asked) (line.outside (asked + 1)).fresh
  ⟨sign settings.jwtSecret claims, claims⟩

variable (c : Client) (s : Course)

/-- A course in which a token was recorded a question later than it was made. -/
def recorded : Course :=
  let i := issuedAt settings line c s.asked
  ⟨{ s.server with
      tokens := (s.server.tokens.issue (line.seconds (s.asked + 2)) c i.token
        i.claims.expires.toInt).2 }, s.asked + 3⟩

theorem run_issue (hu : checkUser c.user = .ok ()) (hp : checkPlatform c.platform = .ok ()) :
    Course.run line (issue settings c) s =
      (.ok (issuedAt settings line c s.asked), recorded settings line c s) := by
  simp [issue, Course.run_bind, hu, hp, issuedAt, recorded]

theorem perform_issue (hu : checkUser c.user = .ok ()) (hp : checkPlatform c.platform = .ok ()) :
    perform settings line (.issue c) s =
      (.issued c (issuedAt settings line c s.asked), recorded settings line c s) := by
  simp only [perform, run_issue settings line c s hu hp]

theorem perform_issue_error {e : ServiceError}
    (h : (checkUser c.user >>= fun _ => checkPlatform c.platform) = .error e) :
    perform settings line (.issue c) s = (.refused e, s) := by
  cases hu : checkUser c.user with
  | error d =>
      rw [hu] at h
      cases h
      simp [perform, issue, Course.run_bind, hu]
  | ok _ =>
      rw [hu] at h
      have hp : checkPlatform c.platform = .error e := h
      simp [perform, issue, Course.run_bind, hu, hp]

/-- All that an operation can do to a course. -/
inductive Step (s : Course) : Incident → Course → Prop where
  | issued (c : Client) :
    Step s (.issued c (issuedAt settings line c s.asked)) (recorded settings line c s)
  | loggedOut (c : Client) :
    Step s (.loggedOut c)
      ⟨{ s.server with tokens := (s.server.tokens.kickAll (line.seconds s.asked) c).2 },
        s.asked + 1⟩
  | purged :
    Step s .purged
      ⟨{ s.server with tokens := (s.server.tokens.purge (line.seconds s.asked)).2 }, s.asked + 1⟩
  | refused (e : ServiceError) : Step s (.refused e) s

theorem perform_step (op : Operation) :
    Step settings line s (perform settings line op s).1 (perform settings line op s).2 := by
  cases op with
  | issue c =>
      cases h : checkUser c.user >>= fun _ => checkPlatform c.platform with
      | error e =>
          rw [perform_issue_error settings line c s h]
          exact .refused e
      | ok _ =>
          cases hu : checkUser c.user with
          | error e =>
              rw [hu] at h
              cases h
          | ok _ =>
              rw [hu] at h
              rw [perform_issue settings line c s hu h]
              exact .issued c
  | forceLogout operator c =>
      by_cases h : operator ≠ c.user ∧ (!settings.isAdmin operator) = true
      · simp only [perform, forceLogout, if_pos h, Course.run_throw]
        exact .refused _
      · simp only [perform, forceLogout, if_neg h, Course.run_kickTokens]
        exact .loggedOut c
  | purge => exact .purged

variable {settings line s} in
theorem Step.asked_le {x : Incident} {t : Course} (hx : Step settings line s x t) :
    s.asked ≤ t.asked := by
  cases hx with
  | issued c => exact Nat.le_add_right _ _
  | loggedOut c => exact Nat.le_succ _
  | purged => exact Nat.le_succ _
  | refused e => exact Nat.le_refl _

theorem asked_le_performAll (ops : List Operation) :
    s.asked ≤ (performAll settings line ops s).2.asked := by
  induction ops generalizing s with
  | nil => exact Nat.le_refl _
  | cons op ops ih => exact Nat.le_trans (perform_step settings line s op).asked_le (ih _)

end Operations

variable {h : List Incident} {x : Incident} {c d : Client} {i j : Issued} {token : String}
  {now : Int}

/-- Whether a token is the last one issued to a client, with no logout after it. -/
def IsStanding (h : List Incident) (c : Client) (i : Issued) : Prop :=
  ∃ before after, h = before ++ .issued c i :: after ∧ ∀ x ∈ after, ¬ x.Concerns c

/-- Whether a token was issued to a client, and another issue or a logout came after it. -/
def IsDeposed (h : List Incident) (c : Client) (i : Issued) : Prop :=
  ∃ before after, h = before ++ .issued c i :: after ∧ ∃ x ∈ after, x.Concerns c

theorem IsStanding.issued (hs : IsStanding h c i) : .issued c i ∈ h := by
  obtain ⟨before, after, rfl, -⟩ := hs
  simp

theorem IsDeposed.issued (hd : IsDeposed h c i) : .issued c i ∈ h := by
  obtain ⟨before, after, rfl, -⟩ := hd
  simp

theorem isStanding_append_issued : IsStanding (h ++ [.issued c i]) c i :=
  ⟨h, [], rfl, by simp⟩

theorem IsStanding.append (hs : IsStanding h c i) (hx : ¬ x.Concerns c) :
    IsStanding (h ++ [x]) c i := by
  obtain ⟨before, after, rfl, ha⟩ := hs
  refine ⟨before, after ++ [x], by simp, ?_⟩
  intro y hy
  cases List.mem_append.1 hy with
  | inl hy => exact ha y hy
  | inr hy =>
      rw [List.mem_singleton.1 hy]
      exact hx

theorem IsDeposed.append (hd : IsDeposed h c i) : IsDeposed (h ++ [x]) c i := by
  obtain ⟨before, after, rfl, y, hy, hc⟩ := hd
  exact ⟨before, after ++ [x], by simp, y, List.mem_append_left _ hy, hc⟩

theorem isDeposed_append (hi : .issued c i ∈ h) (hx : x.Concerns c) :
    IsDeposed (h ++ [x]) c i := by
  obtain ⟨before, after, rfl⟩ := List.append_of_mem hi
  exact ⟨before, after ++ [x], by simp, x, by simp, hx⟩

/-- The tokens that were issued. -/
def tokens (h : List Incident) : List String :=
  h.filterMap Incident.token?

theorem mem_tokens_iff : token ∈ tokens h ↔ ∃ c i, .issued c i ∈ h ∧ i.token = token := by
  rw [tokens, List.mem_filterMap]
  constructor
  · rintro ⟨x, hx, ht⟩
    cases x with
    | issued c i => exact ⟨c, i, hx, by simpa [Incident.token?] using ht⟩
    | loggedOut c => simp [Incident.token?] at ht
    | purged => simp [Incident.token?] at ht
    | refused e => simp [Incident.token?] at ht
  · rintro ⟨c, i, hi, rfl⟩
    exact ⟨_, hi, rfl⟩

/-- No token is both, if none was issued twice. -/
theorem IsStanding.not_isDeposed (once : (tokens h).Nodup)
    (hs : IsStanding h c i) : ¬ IsDeposed h c i := by
  rintro ⟨before, after, hd, x, hx, hc⟩
  obtain ⟨before', after', hs, ha⟩ := hs
  rw [hs] at hd
  rcases List.append_eq_append_iff.1 hd with ⟨l, rfl, hl⟩ | ⟨l, rfl, hl⟩
  · cases l with
    | nil =>
        obtain rfl : after' = after := by simpa using hl
        exact ha x hx hc
    | cons y l =>
        obtain ⟨-, rfl⟩ := List.cons_eq_cons.1 hl
        exact ha x (by simp [hx]) hc
  · cases l with
    | nil =>
        obtain rfl : after = after' := by simpa using hl
        exact ha x hx hc
    | cons y l =>
        obtain ⟨rfl, rfl⟩ := List.cons_eq_cons.1 hl
        simp [hs, tokens, List.nodup_append, Incident.token?] at once

/-- Whether a history leaves a client's token in a state at a time. -/
def Leaves (h : List Incident) (c : Client) (token : String) (now : Int) : TokenState → Prop
  | .normal => ∃ i, IsStanding h c i ∧ i.token = token ∧ now < i.claims.expires.toInt
  | .kicked => ∃ i, IsDeposed h c i ∧ i.token = token ∧ now < i.claims.expires.toInt
  | .absent => ∀ i, .issued c i ∈ h → i.token = token → i.claims.expires.toInt ≤ now

theorem Leaves.append {state : TokenState} (hl : Leaves h c token now state)
    (hx : ¬ x.Concerns c) : Leaves (h ++ [x]) c token now state := by
  cases state with
  | normal =>
      obtain ⟨i, hs, ht, hn⟩ := hl
      exact ⟨i, hs.append hx, ht, hn⟩
  | kicked =>
      obtain ⟨i, hd, ht, hn⟩ := hl
      exact ⟨i, hd.append, ht, hn⟩
  | absent =>
      intro i hi ht
      cases List.mem_append.1 hi with
      | inl hi => exact hl i hi ht
      | inr hi =>
          rw [← List.mem_singleton.1 hi] at hx
          exact absurd rfl hx

/-- An incident that concerns a client kicks its tokens, except one that is issued. -/
theorem Leaves.append_onKick {state : TokenState} (hl : Leaves h c token now state)
    (hx : x.Concerns c) (hi : ∀ i, x = .issued c i → i.token ≠ token) :
    Leaves (h ++ [x]) c token now state.onKick := by
  cases state with
  | normal =>
      obtain ⟨i, hs, ht, hn⟩ := hl
      exact ⟨i, isDeposed_append hs.issued hx, ht, hn⟩
  | kicked =>
      obtain ⟨i, hd, ht, hn⟩ := hl
      exact ⟨i, hd.append, ht, hn⟩
  | absent =>
      intro i hm ht
      cases List.mem_append.1 hm with
      | inl hm => exact hl i hm ht
      | inr hm => exact absurd ht (hi i (List.mem_singleton.1 hm).symm)

/-- A token that is issued for the first time is usable until it ends. -/
theorem leaves_append_issued (new : i.token ∉ tokens h) :
    Leaves (h ++ [.issued c i]) c i.token now
      (if now < i.claims.expires.toInt then .normal else .absent) := by
  split
  · exact ⟨i, isStanding_append_issued, rfl, ‹_›⟩
  · intro j hj ht
    cases List.mem_append.1 hj with
    | inl hj => exact absurd (mem_tokens_iff.2 ⟨c, j, hj, ht⟩) new
    | inr hj =>
        cases List.mem_singleton.1 hj
        omega

end Courier.Token
