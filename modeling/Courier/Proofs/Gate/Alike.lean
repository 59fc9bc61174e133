import Courier.Proofs.Keyspace.Held
import Courier.Proofs.Service.Host

/-!
# The gate over a keyspace

A store of tokens lets each record end by itself, while a keyspace lets all tokens of a client end
together, with the last one that was issued. The two differ in what they know of tokens that were
kicked or have ended, and never in which tokens are usable. Main statement: whatever tokens are
issued and whichever clients are logged out, the gate lets in the same tokens over both, now and at
any later time.
-/

namespace Courier.Gate

open Token Keyspace Keyspace.Tokens

/-- Whether the tokens that can be verified, then or later, are usable in a keyspace exactly if they
are usable in a store, while both know no tokens but some, and none for longer than a span. -/
structure IsAlike (secret : String) (known : List String) (since span : Int) (s : TokenStore)
    (k : Keyspace) : Prop where
  holds : HoldsTokens known (since + span) k
  records : ∀ c token r, s.record? c token = some r → token ∈ known
  same : ∀ now, since ≤ now → ∀ token claims, Token.verify secret now token = .ok claims →
    ∀ c, s.lookup now c token = .normal ↔ IsUsable k now c token

variable {secret : String} {known : List String} {since m now span : Int} {s : TokenStore}
  {k : Keyspace} {c : Client}

namespace IsAlike

theorem empty : IsAlike secret known since span ∅ ∅ where
  holds := .empty
  records c token r hr := by cases hr
  same now _ token claims _ c := by
    rw [TokenStore.lookup_empty]
    constructor
    · intro h
      cases h
    · intro h
      cases h

theorem mono (h : IsAlike secret known since span s k) (hm : since ≤ m) :
    IsAlike secret known m span s k where
  holds := h.holds.mono (List.Subset.refl _) (by omega)
  records := h.records
  same now hn := h.same now (Int.le_trans hm hn)

/-- A token that none was before is usable over both until it ends, and the others of its client over
neither any more. -/
theorem issue (h : IsAlike secret known m span s k) {i : Issued}
    (signed : i.token = sign secret i.claims) (ends : i.claims.expires.toInt = m + span)
    (new : i.token ∉ known) :
    IsAlike secret (known ++ [i.token]) m span (s.issue m c i.token (m + span)).2
      (k.put (tokenKey c)
        ⟨.fields (issued (k.shelf m (tokenKey c)).1 i.token), some (m + span)⟩) where
  holds := h.holds.put_issued c i.token
  records d token r hr := by
    rw [TokenStore.record?_issue] at hr
    split at hr
    · split at hr
      · rename_i ht
        simp [ht]
      · obtain ⟨q, hq, -⟩ := Option.map_eq_some_iff.1 hr
        exact List.mem_append_left _ (h.records c token q (Option.filter_eq_some_iff.1 hq).1)
    · exact List.mem_append_left _ (h.records d token r hr)
  same now hn token claims hv d := by
    have hr : s.record? c i.token = none := by
      cases hr : s.record? c i.token with
      | none => rfl
      | some r => exact absurd (h.records c _ r hr) new
    -- a record that is issued never ends before 1970, but then the token cannot be verified
    have hp : token = i.token → 0 ≤ m + span := by
      rintro rfl
      rw [signed, verify_sign] at hv
      split at hv
      · cases hv
      · rename_i he
        rw [← ends]
        simpa using Int64.le_iff_toInt_le.1 (Int64.not_lt.1 he)
    rw [TokenStore.lookup_issue_eq_normal_iff s c d _ _ hr hp,
      h.holds.isUsable_put_issued_iff new, h.same now hn token claims hv d]

/-- No token of a client that is logged out is usable over either. -/
theorem kickAll (h : IsAlike secret known m span s k) (c : Client) :
    IsAlike secret known m span (s.kickAll m c).2 ((Tokens.kickAll c).on m k).2 where
  holds := h.holds.kickAll m c
  records d token r hr := by
    rw [TokenStore.record?_kickAll] at hr
    split at hr
    · obtain ⟨q, hq, -⟩ := Option.map_eq_some_iff.1 hr
      exact h.records c token q hq
    · exact h.records d token r hr
  same now hn token claims hv d := by
    rw [TokenStore.lookup_kickAll_eq_normal_iff s c d token hn, h.holds.isUsable_kickAll_iff hn,
      h.same now hn token claims hv d]

theorem purge (h : IsAlike secret known m span s k) :
    IsAlike secret known m span (s.purge m).2 k where
  holds := h.holds
  records c token r hr := by
    rw [TokenStore.record?_purge] at hr
    exact h.records c token r (Option.filter_eq_some_iff.1 hr).1
  same now hn token claims hv c := by
    rw [TokenStore.lookup_purge _ _ _ hn]
    exact h.same now hn token claims hv c

end IsAlike

/-! ### Operations -/

section Operations

variable {settings : AuthSettings} {outside : Collaborators} {h : List Incident} {server : Server}
  {shared : SharedServer}

theorem expires_issuedIn (least : -9223372036854775808 ≤ outside.seconds)
    (taken : accepts outside.seconds settings.tokenTtlSecs.toNat = true) (c : Client) :
    (Host.issuedIn settings outside c).claims.expires.toInt =
      outside.seconds + settings.tokenTtlSecs.toNat := by
  have most : (outside.seconds + settings.tokenTtlSecs.toNat) * 1000 < 9223372036854775808 :=
    of_decide_eq_true taken
  have ha : Clock.after outside.seconds settings.tokenTtlSecs =
      outside.seconds + settings.tokenTtlSecs.toNat := Clock.after_eq least (by omega)
  have he : (Host.issuedIn settings outside c).claims.expires =
      Int64.ofInt (outside.seconds + settings.tokenTtlSecs.toNat) := congrArg Int64.ofInt ha
  rw [he, Int64.toInt_ofInt_of_le (by omega) (by omega)]

theorem tokens_append_issued (h : List Incident) (c : Client) (i : Issued) :
    Token.tokens (h ++ [.issued c i]) = Token.tokens h ++ [i.token] := by
  simp [Token.tokens, Incident.token?]

/-- Whether an operation came to the same over both, and left them alike. -/
structure LeavesAlike (settings : AuthSettings) (outside : Collaborators) (h : List Incident)
    (x : Incident × Server) (y : Incident × SharedServer) : Prop where
  told : y.1 = x.1
  alike : IsAlike settings.jwtSecret (Token.tokens (h ++ [x.1])) outside.seconds
    settings.tokenTtlSecs.toNat x.2.tokens y.2.keyspace

/-- What issues no token leaves no more tokens to be known. -/
theorem LeavesAlike.of_token? {x : Incident} (hx : x.token? = none) {s : Server} {w : SharedServer}
    (next : IsAlike settings.jwtSecret (Token.tokens h) outside.seconds
      settings.tokenTtlSecs.toNat s.tokens w.keyspace) :
    LeavesAlike settings outside h (x, s) (x, w) := by
  refine ⟨rfl, ?_⟩
  have ht : Token.tokens (h ++ [x]) = Token.tokens h := by simp [Token.tokens, hx]
  rw [ht]
  exact next

namespace IsAlike

section Operation

variable (a : IsAlike settings.jwtSecret (Token.tokens h) outside.seconds
    settings.tokenTtlSecs.toNat server.tokens shared.keyspace)

include a

theorem carryOut_forceLogout (operator : String) (c : Client) :
    LeavesAlike settings outside h
      (Host.server.carryOut settings outside (.forceLogout operator c) server)
      (Host.shared.carryOut settings outside (.forceLogout operator c) shared) := by
  have hk := kickAll_on (a.holds.isFielded outside.seconds (tokenKey c))
  have next := a.kickAll c
  rw [hk] at next
  rw [Host.carryOut_forceLogout_server, Host.carryOut_forceLogout_shared settings outside c _ hk]
  exact .of_token? rfl next

variable (positive : 0 < settings.tokenTtlSecs.toNat)
  (small : settings.tokenTtlSecs.toNat < 9223372036854775808)
  (least : -9223372036854775808 ≤ outside.seconds)
  (taken : accepts outside.seconds settings.tokenTtlSecs.toNat = true)

include positive small least taken

theorem carryOut_issue (c : Client)
    (new : (Host.issuedIn settings outside c).token ∉ Token.tokens h) :
    LeavesAlike settings outside h (Host.server.carryOut settings outside (.issue c) server)
      (Host.shared.carryOut settings outside (.issue c) shared) := by
  have ends := expires_issuedIn least taken c
  have hk := a.holds.issue_on (by omega) (by omega) taken c
    (Host.issuedIn settings outside c).token
  rw [← ends] at hk
  rw [Host.carryOut_issue_server, Host.carryOut_issue_shared settings outside c hk]
  refine ⟨rfl, ?_⟩
  have signed : (Host.issuedIn settings outside c).token =
      sign settings.jwtSecret (Host.issuedIn settings outside c).claims := rfl
  have next := a.issue (c := c) signed ends new
  rw [← ends] at next
  dsimp only
  rw [tokens_append_issued]
  exact next

/-- An operation comes to the same over both and leaves them alike, if a token that it issues is a
new one. -/
theorem perform (op : Operation)
    (fresh : (Token.tokens (h ++ [(Host.server.perform settings outside op server).1])).Nodup) :
    LeavesAlike settings outside h (Host.server.perform settings outside op server)
      (Host.shared.perform settings outside op shared) := by
  rw [Host.isPlain_server.perform_eq] at fresh ⊢
  rw [Host.isPlain_shared.perform_eq]
  cases ha : Host.allow settings op with
  | error e => exact .of_token? rfl a
  | ok _ =>
      rw [ha] at fresh
      cases op with
      | issue c =>
          refine a.carryOut_issue positive small least taken c fun hm => ?_
          dsimp only at fresh
          rw [Host.carryOut_issue_server, tokens_append_issued] at fresh
          exact (List.nodup_append.1 fresh).2.2 _ hm _ (List.mem_singleton_self _) rfl
      | forceLogout operator c => exact a.carryOut_forceLogout operator c
      | purge => exact .of_token? rfl a.purge

end Operation

/-- A run comes to the same over both and leaves them alike, if no token is issued twice. -/
theorem performAll {since later : Int} {run : List (Collaborators × Operation)}
    (a : IsAlike settings.jwtSecret (Token.tokens h) since settings.tokenTtlSecs.toNat
      server.tokens shared.keyspace)
    (positive : 0 < settings.tokenTtlSecs.toNat)
    (small : settings.tokenTtlSecs.toNat < 9223372036854775808)
    (least : ∀ x ∈ run, -9223372036854775808 ≤ x.1.seconds)
    (taken : ∀ x ∈ run, accepts x.1.seconds settings.tokenTtlSecs.toNat = true)
    (forward : (since :: (run.map (·.1.seconds) ++ [later])).Pairwise (· ≤ ·))
    (fresh : (Token.tokens (h ++ (Host.server.performAll settings run server).1)).Nodup) :
    let x := Host.server.performAll settings run server
    let y := Host.shared.performAll settings run shared
    y.1 = x.1 ∧ IsAlike settings.jwtSecret (Token.tokens (h ++ x.1)) later
      settings.tokenTtlSecs.toNat x.2.tokens y.2.keyspace := by
  induction run generalizing h since server shared with
  | nil =>
      have hl : since ≤ later := List.rel_of_pairwise_cons forward (List.mem_singleton_self _)
      refine ⟨rfl, ?_⟩
      rw [Host.performAll, List.append_nil]
      exact a.mono hl
  | cons x run ih =>
      simp only [List.forall_mem_cons] at least taken
      have hs : since ≤ x.1.seconds := List.rel_of_pairwise_cons forward List.mem_cons_self
      rw [Host.performAll, List.append_cons] at fresh
      have first := (a.mono hs).perform positive small least.1 taken.1 x.2
        (fresh.sublist ((List.sublist_append_left _ _).filterMap _))
      have rest := ih first.alike least.2 taken.2 (List.pairwise_cons.1 forward).2 fresh
      refine ⟨congrArg₂ List.cons first.told rest.1, ?_⟩
      simp only [Host.performAll]
      rw [List.append_cons]
      exact rest.2

end IsAlike

/-- While a store and a keyspace are alike, the gate lets in the same tokens over both. -/
theorem IsAlike.letIn_iff {known : List String} {span : Int}
    (a : IsAlike settings.jwtSecret known outside.seconds span server.tokens shared.keyspace)
    (t : Option String) (c : Client) :
    (Host.server.run outside (letIn settings t) server).1 = .ok c ↔
      (Host.shared.run outside (letIn settings t) shared).1 = .ok c := by
  have hs : ∀ token claims, Token.verify settings.jwtSecret outside.seconds token = .ok claims →
      ((Host.server.answer outside (.lookupToken c token) server).1 = .ok .normal ↔
        (Host.shared.answer outside (.lookupToken c token) shared).1 = .ok .normal) := by
    intro token claims hv
    calc
      (Host.server.answer outside (.lookupToken c token) server).1 = .ok .normal
          ↔ server.tokens.lookup outside.seconds c token = .normal :=
        ⟨Except.ok.inj, congrArg Except.ok⟩
      _ ↔ IsUsable shared.keyspace outside.seconds c token :=
        a.same _ (Int.le_refl _) token claims hv c
      _ ↔ (Host.shared.answer outside (.lookupToken c token) shared).1 = .ok .normal :=
        a.holds.lookup_eq_normal_iff.symm
  rw [Host.isPlain_server.letIn_eq_ok_iff, Host.isPlain_shared.letIn_eq_ok_iff]
  constructor
  · rintro ⟨token, claims, ht, hne, hv, hc, hl⟩
    exact ⟨token, claims, ht, hne, hv, hc, (hs token claims hv).1 hl⟩
  · rintro ⟨token, claims, ht, hne, hv, hc, hl⟩
    exact ⟨token, claims, ht, hne, hv, hc, (hs token claims hv).2 hl⟩

end Operations

/-- Whatever a run does on an empty store and on an empty keyspace, it comes to the same over both,
and at any later time the gate lets in the same tokens, each with the same client. The times are
words of 64 bits, and the span of a token is one that the keyspace takes. -/
theorem letIn_iff_after_run (settings : AuthSettings) (run : List (Collaborators × Operation))
    (later : Collaborators) (server : Server) (shared : SharedServer)
    (empty : server.tokens = ∅) (bare : shared.keyspace = ∅)
    (positive : 0 < settings.tokenTtlSecs.toNat)
    (small : settings.tokenTtlSecs.toNat < 9223372036854775808)
    (least : ∀ x ∈ run, -9223372036854775808 ≤ x.1.seconds)
    (taken : ∀ x ∈ run, accepts x.1.seconds settings.tokenTtlSecs.toNat = true)
    (forward : (run.map (·.1.seconds) ++ [later.seconds]).Pairwise (· ≤ ·))
    (fresh : (Token.tokens (Host.server.performAll settings run server).1).Nodup) :
    let x := Host.server.performAll settings run server
    let y := Host.shared.performAll settings run shared
    y.1 = x.1 ∧ ∀ t c, (Host.server.run later (letIn settings t) x.2).1 = .ok c ↔
      (Host.shared.run later (letIn settings t) y.2).1 = .ok c := by
  obtain ⟨since, hs⟩ : ∃ since,
      (since :: (run.map (·.1.seconds) ++ [later.seconds])).Pairwise (· ≤ ·) := by
    cases run with
    | nil => exact ⟨later.seconds, by simp⟩
    | cons x run =>
        refine ⟨x.1.seconds, List.pairwise_cons.2 ⟨?_, forward⟩⟩
        intro n hn
        rcases List.mem_cons.1 hn with rfl | hn
        · exact Int.le_refl _
        · exact List.rel_of_pairwise_cons forward hn
  have start : IsAlike settings.jwtSecret (Token.tokens []) since settings.tokenTtlSecs.toNat
      server.tokens shared.keyspace := by
    rw [empty, bare]
    exact .empty
  obtain ⟨told, alike⟩ := start.performAll positive small least taken hs fresh
  exact ⟨told, fun t c => alike.letIn_iff t c⟩

/-- A token for ten seconds is let in over the keyspace for nine seconds after it was issued, and not
in the tenth. -/
theorem letIn_until_end :
    let settings : AuthSettings := { tokenTtlSecs := 10 }
    let c : Client := ⟨"u1", 1⟩
    let world : Int → Collaborators := fun n => {
      seconds := n, milliseconds := 1000 * n, fresh := "x"
      members := fun _ => .ok [], vendors := [], notify := fun _ _ _ => .ok () }
    let run : List (Collaborators × Operation) := [(world 100, .issue c)]
    let start : Server := .new { auth := settings }
    let t := (Host.issuedIn settings (world 100) c).token
    let s := (Host.shared.performAll settings run ⟨start, ∅⟩).2
    (Token.tokens (Host.server.performAll settings run start).1).Nodup ∧
      (Host.shared.run (world 109) (letIn settings (some t)) s).1 = .ok c ∧
      (Host.shared.run (world 110) (letIn settings (some t)) s).1 ≠ .ok c := by
  intro settings c world run start t s
  let i := Host.issuedIn settings (world 100) c
  have hp : Host.server.performAll settings run start =
      ([.issued c i], { start with
        tokens := (start.tokens.issue 100 c i.token i.claims.expires.toInt).2 }) := by
    have allowed : Host.allow settings (.issue c) = .ok () := rfl
    simp only [run, Host.performAll]
    rw [Host.isPlain_server.perform_eq, allowed]
    dsimp only
    rw [Host.carryOut_issue_server]
  have fresh : (Token.tokens (Host.server.performAll settings run start).1).Nodup := by
    rw [hp]
    exact List.nodup_singleton _
  have ends : i.claims.expires.toInt = 110 := by decide
  have found : ∀ now, 100 ≤ now →
      ((start.tokens.issue 100 c i.token i.claims.expires.toInt).2.lookup now c i.token = .normal ↔
        now < 110) := by
    intro now hn
    rw [TokenStore.lookup_issue _ c c _ i.token hn (by omega) _ rfl, if_pos rfl, if_pos rfl, ends]
    split
    · simp_all
    · simp_all
  have same : ∀ n, 100 ≤ n → ((Host.server.run (world n) (letIn settings (some t))
      (Host.server.performAll settings run start).2).1 = .ok c ↔
        (Host.shared.run (world n) (letIn settings (some t)) s).1 = .ok c) := fun n hn =>
    (letIn_iff_after_run settings run (world n) start ⟨start, ∅⟩ rfl rfl (by decide) (by decide)
      (by decide) (by decide) (by simpa [run, world] using hn) fresh).2 _ c
  have verified : Token.verify settings.jwtSecret 109 i.token = .ok i.claims := by
    have hv := verify_sign settings.jwtSecret 109 i.claims
    rwa [if_neg (by decide), if_neg (by rw [ends]; decide)] at hv
  refine ⟨fresh, (same 109 (by decide)).1 ?_, fun hk => ?_⟩
  · rw [hp]
    refine Host.isPlain_server.letIn_eq_ok_iff.2
      ⟨i.token, i.claims, rfl, sign_ne_empty _ _, verified, rfl, ?_⟩
    exact congrArg Except.ok ((found 109 (by decide)).2 (by decide))
  · rw [← same 110 (by decide), hp] at hk
    obtain ⟨token, claims, ht, -, -, -, hl⟩ := Host.isPlain_server.letIn_eq_ok_iff.1 hk
    rw [← Option.some.inj ht] at hl
    exact absurd ((found 110 (by decide)).1 (Except.ok.inj hl)) (by decide)

end Courier.Gate
