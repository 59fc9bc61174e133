import Courier.Proofs.Token.History

/-!
# The store keeps the history

Whatever operations are carried out on an empty store, it keeps books of their history. Main
statement: what a lookup finds at any later time is the state in which the history leaves the token.
-/

namespace Courier.Token

variable (settings : AuthSettings) (line : Timeline)

/-- Whether a token was made for a client before a question. -/
structure IsGenuine (asked : Nat) (c : Client) (i : Issued) : Prop where
  signed : i.token = sign settings.jwtSecret i.claims
  client : (⟨i.claims.user, i.claims.platform⟩ : Client) = c
  unique : ∃ n < asked, i.claims.unique = (line.outside n).fresh
  expires : 0 ≤ i.claims.expires

/-- Whether the store of a course keeps the state in which a history leaves every token. -/
structure Books (h : List Incident) (s : Course) : Prop where
  genuine : ∀ c i, .issued c i ∈ h → IsGenuine settings line s.asked c i
  once : (tokens h).Nodup
  kept : ∀ now, (∀ n < s.asked, line.seconds n ≤ now) → ∀ c token,
    Leaves h c token now (s.server.tokens.lookup now c token)

variable {settings line} {h : List Incident} {s t : Course} {c d : Client} {i j : Issued}

theorem IsGenuine.mono {m n : Nat} (hi : IsGenuine settings line m c i) (hn : m ≤ n) :
    IsGenuine settings line n c i := by
  obtain ⟨k, hk, hu⟩ := hi.unique
  exact ⟨hi.signed, hi.client, ⟨k, by omega, hu⟩, hi.expires⟩

/-- A genuine token tells the client and all that it says. -/
theorem IsGenuine.eq {m n : Nat} (hi : IsGenuine settings line m c i)
    (hj : IsGenuine settings line n d j) (ht : i.token = j.token) : c = d ∧ i = j := by
  have hc : i.claims = j.claims :=
    sign_injective (hi.signed ▸ hj.signed ▸ ht)
  constructor
  · rw [← hi.client, ← hj.client, hc]
  · cases i
    cases j
    simp_all

theorem expires_issuedAt {n : Nat}
    (fits : line.seconds n + settings.tokenTtlSecs.toNat ≤ 9223372036854775807) (c : Client) :
    0 ≤ (issuedAt settings line c n).claims.expires := by
  have hn := line.seconds_nonneg n
  have ha : Clock.after (line.seconds n) settings.tokenTtlSecs =
      line.seconds n + settings.tokenTtlSecs.toNat := Clock.after_eq (by omega) (by omega)
  have he : (issuedAt settings line c n).claims.expires =
      Int64.ofInt (line.seconds n + settings.tokenTtlSecs.toNat) := congrArg Int64.ofInt ha
  rw [he, Int64.le_iff_toInt_le, Int64.toInt_ofInt_of_le (by omega) (by omega)]
  simpa using (by omega : 0 ≤ line.seconds n + settings.tokenTtlSecs.toNat)

theorem isGenuine_issuedAt {n : Nat}
    (fits : line.seconds n + settings.tokenTtlSecs.toNat ≤ 9223372036854775807) (c : Client) :
    IsGenuine settings line (n + 3) c (issuedAt settings line c n) where
  signed := rfl
  client := rfl
  unique := ⟨n + 1, by omega, rfl⟩
  expires := expires_issuedAt fits c

/-- A token is made with a text that no token before was made with. -/
theorem Books.new (b : Books settings line h s)
    (fits : line.seconds s.asked + settings.tokenTtlSecs.toNat ≤ 9223372036854775807) (c : Client) :
    (issuedAt settings line c s.asked).token ∉ tokens h := by
  intro hm
  obtain ⟨d, j, hj, ht⟩ := mem_tokens_iff.1 hm
  obtain ⟨n, hn, hu⟩ := (b.genuine d j hj).unique
  have he := ((b.genuine d j hj).eq (isGenuine_issuedAt fits c) ht).2
  rw [he] at hu
  have := line.fresh _ _ hu
  omega

/-- A token that was not issued is absent at any later time. -/
theorem Books.lookup_absent (b : Books settings line h s) {now : Int} {token : String}
    (later : ∀ n < s.asked, line.seconds n ≤ now)
    (new : token ∉ tokens h) :
    s.server.tokens.lookup now c token = .absent := by
  have hl := b.kept now later c token
  have key : ∀ j, .issued c j ∈ h → j.token ≠ token := fun j hj ht =>
    new (mem_tokens_iff.2 ⟨c, j, hj, ht⟩)
  cases hs : s.server.tokens.lookup now c token with
  | absent => rfl
  | normal =>
      rw [hs] at hl
      obtain ⟨j, hj, ht, -⟩ := hl
      exact absurd ht (key j hj.issued)
  | kicked =>
      rw [hs] at hl
      obtain ⟨j, hj, ht, -⟩ := hl
      exact absurd ht (key j hj.issued)

section Lookup

variable {now : Int} (b : Books settings line h s) (later : ∀ n < s.asked, line.seconds n ≤ now)

include b later

/-- A standing token is usable until it ends. -/
theorem Books.lookup_isStanding (hi : IsStanding h c i) (hn : now < i.claims.expires.toInt) :
    s.server.tokens.lookup now c i.token = .normal := by
  have hl := b.kept now later c i.token
  cases hs : s.server.tokens.lookup now c i.token with
  | normal => rfl
  | kicked =>
      rw [hs] at hl
      obtain ⟨j, hj, ht, -⟩ := hl
      obtain rfl := ((b.genuine c i hi.issued).eq (b.genuine c j hj.issued) ht.symm).2
      exact absurd hj (hi.not_isDeposed b.once)
  | absent =>
      rw [hs] at hl
      have := hl i hi.issued rfl
      omega

/-- A deposed token is kicked until it ends. -/
theorem Books.lookup_isDeposed (hi : IsDeposed h c i) (hn : now < i.claims.expires.toInt) :
    s.server.tokens.lookup now c i.token = .kicked := by
  have hl := b.kept now later c i.token
  cases hs : s.server.tokens.lookup now c i.token with
  | normal =>
      rw [hs] at hl
      obtain ⟨j, hj, ht, -⟩ := hl
      obtain rfl := ((b.genuine c i hi.issued).eq (b.genuine c j hj.issued) ht.symm).2
      exact absurd hi (hj.not_isDeposed b.once)
  | kicked => rfl
  | absent =>
      rw [hs] at hl
      have := hl i hi.issued rfl
      omega

/-- A token that has ended is absent. -/
theorem Books.lookup_ended (hi : .issued c i ∈ h) (hn : i.claims.expires.toInt ≤ now) :
    s.server.tokens.lookup now c i.token = .absent := by
  have hl := b.kept now later c i.token
  have key : ∀ j, .issued c j ∈ h → j.token = i.token → ¬ now < j.claims.expires.toInt := by
    intro j hj ht
    obtain rfl := ((b.genuine c i hi).eq (b.genuine c j hj) ht.symm).2
    omega
  cases hs : s.server.tokens.lookup now c i.token with
  | normal =>
      rw [hs] at hl
      obtain ⟨j, hj, ht, he⟩ := hl
      exact absurd he (key j hj.issued ht)
  | kicked =>
      rw [hs] at hl
      obtain ⟨j, hj, ht, he⟩ := hl
      exact absurd he (key j hj.issued ht)
  | absent => rfl

end Lookup

theorem Books.empty (hs : s.server.tokens = ∅) : Books settings line [] s where
  genuine := by simp
  once := List.nodup_nil
  kept := by
    intro now _ c token
    rw [hs, TokenStore.lookup_empty]
    intro i hi
    cases hi

theorem Books.issued (b : Books settings line h s)
    (fits : line.seconds s.asked + settings.tokenTtlSecs.toNat ≤ 9223372036854775807) (c : Client) :
    Books settings line (h ++ [.issued c (issuedAt settings line c s.asked)])
      (recorded settings line c s) where
  genuine := by
    intro d j hj
    cases List.mem_append.1 hj with
    | inl hj => exact (b.genuine d j hj).mono (Nat.le_add_right _ _)
    | inr hj =>
        cases List.mem_singleton.1 hj
        exact isGenuine_issuedAt fits c
  once := by
    have hn := b.new fits c
    rw [tokens, List.filterMap_append, List.nodup_append]
    refine ⟨b.once, by simp [Incident.token?], ?_⟩
    intro a ha z hz he
    have hz : z = (issuedAt settings line c s.asked).token := by
      simpa [Incident.token?] using hz
    exact hn (hz ▸ he ▸ ha)
  kept := by
    intro now later d token
    have hn := b.new fits c
    have before : ∀ n < s.asked, line.seconds n ≤ now := fun n hn =>
      later n (Nat.lt_add_right 3 hn)
    have absent := b.lookup_absent (c := c)
      (fun n hn => line.seconds_le (show n ≤ s.asked + 2 by omega)) hn
    have hk := b.kept now before
    have hl : (recorded settings line c s).server.tokens.lookup now d token = _ :=
      s.server.tokens.lookup_issue c d _ token (later (s.asked + 2) (Nat.lt_succ_self _))
        (Int.le_trans (line.seconds_nonneg _) (later (s.asked + 2) (Nat.lt_succ_self _)))
        _ absent
    rw [hl]
    by_cases hd : d = c
    · by_cases ht : token = (issuedAt settings line c s.asked).token
      · rw [if_pos hd, if_pos ht, hd, ht]
        exact leaves_append_issued hn
      · rw [if_pos hd, if_neg ht, hd]
        refine (hk c token).append_onKick rfl ?_
        intro i hi he
        rw [(Incident.issued.inj hi).2] at ht
        exact ht he.symm
    · rw [if_neg hd]
      exact (hk d token).append fun hc => hd hc.symm

/-- An incident that issues nothing leaves the tokens that are in the books. -/
theorem Books.append {x : Incident} (b : Books settings line h s) (hx : x.token? = none)
    (ha : s.asked ≤ t.asked)
    (kept : ∀ now, (∀ n < t.asked, line.seconds n ≤ now) → ∀ c token,
      Leaves (h ++ [x]) c token now (t.server.tokens.lookup now c token)) :
    Books settings line (h ++ [x]) t where
  genuine := by
    intro c i hi
    cases List.mem_append.1 hi with
    | inl hi => exact (b.genuine c i hi).mono ha
    | inr hi =>
        rw [← List.mem_singleton.1 hi] at hx
        cases hx
  once := by simpa [tokens, hx] using b.once
  kept := kept

/-- Every step keeps the books. -/
theorem Books.step {x : Incident} (b : Books settings line h s)
    (fits : ∀ n < t.asked, line.seconds n + settings.tokenTtlSecs.toNat ≤ 9223372036854775807)
    (hx : Step settings line s x t) : Books settings line (h ++ [x]) t := by
  have before : ∀ {now}, (∀ n < s.asked + 1, line.seconds n ≤ now) →
      ∀ n < s.asked, line.seconds n ≤ now := fun later n hn => later n (Nat.lt_succ_of_lt hn)
  cases hx with
  | issued c => exact b.issued (fits s.asked (Nat.lt_add_of_pos_right (by decide))) c
  | loggedOut c =>
      apply b.append rfl (Nat.le_succ _)
      intro now later d token
      have hl := b.kept now (before later)
      rw [TokenStore.lookup_kickAll _ c d token (later s.asked (Nat.lt_succ_self _))]
      by_cases hd : d = c
      · rw [if_pos hd, hd]
        exact (hl c token).append_onKick rfl (by simp)
      · rw [if_neg hd]
        exact (hl d token).append fun hc => hd hc.symm
  | purged =>
      apply b.append rfl (Nat.le_succ _)
      intro now later d token
      rw [TokenStore.lookup_purge _ d token (later s.asked (Nat.lt_succ_self _))]
      exact (b.kept now (before later) d token).append id
  | refused e =>
      apply b.append rfl (Nat.le_refl _)
      intro now later d token
      exact (b.kept now later d token).append id

/-- Every run keeps the books. -/
theorem Books.performAll (b : Books settings line h s) (ops : List Operation)
    (fits : ∀ n < (performAll settings line ops s).2.asked,
      line.seconds n + settings.tokenTtlSecs.toNat ≤ 9223372036854775807) :
    Books settings line (h ++ (performAll settings line ops s).1)
      (performAll settings line ops s).2 := by
  induction ops generalizing h s with
  | nil => simpa [Token.performAll] using b
  | cons op ops ih =>
      have hs := perform_step settings line s op
      have ha := asked_le_performAll settings line (perform settings line op s).2 ops
      have hb := b.step (fun n hn => fits n (Nat.lt_of_lt_of_le hn ha)) hs
      simpa [Token.performAll] using ih hb fits

end Courier.Token
