import Courier.Proofs.Gate.Verdict
import Courier.Settings.Layers

/-!
# New tokens at the gate

A token is made with a text that is like no other, so no store that issues have filled holds a
record of a new one. Its end is a word of 64 bits, and comes back at the other end of the words if
the span is too long. Main statement: whatever was done before, a new token is let in within the
second in which it was made exactly if its end is a word of 64 bits.
-/

namespace Courier

namespace Clock

/-- A sum with a span without sign is exact in a signed word only if it does not leave the word. -/
theorem after_eq_iff {now : Int} {span : UInt64} (least : 0 ≤ now) :
    after now span = now + span.toNat ↔ now + span.toNat ≤ 9223372036854775807 := by
  unfold after word
  rw [Int.bmod_def]
  omega

/-- A span that is not zero leads to a later time unless the sum leaves the word. -/
theorem lt_after_iff {now : Int} {span : UInt64} (least : 0 ≤ now) (positive : span ≠ 0) :
    now < after now span ↔ now + span.toNat ≤ 9223372036854775807 := by
  have hp : span.toNat ≠ 0 := fun h => positive (UInt64.toNat_inj.1 h)
  have hs : span.toNat < 18446744073709551616 := span.toNat_lt
  unfold after word
  rw [Int.bmod_def]
  omega

end Clock

namespace Token

variable {settings : AuthSettings} {line : Timeline} {s t : Course} {x : Incident} {c d : Client}

theorem toInt_expires_claimsFor (settings : AuthSettings) (c : Client) (now : Int)
    (unique : String) :
    (claimsFor settings c now unique).expires.toInt = Clock.after now settings.tokenTtlSecs := by
  have hs : (claimsFor settings c now unique).expires =
      Int64.ofInt (Clock.after now settings.tokenTtlSecs) := rfl
  rw [hs, Int64.toInt_ofInt]
  exact Int.bmod_bmod

/-! ### Records of tokens that were made -/

/-- Whether every token in the store of a course was made with a text that is told apart from all
that are still to come. -/
def IsMade (settings : AuthSettings) (line : Timeline) (s : Course) : Prop :=
  ∀ c token, s.server.tokens.record? c token ≠ none →
    ∃ claims, token = sign settings.jwtSecret claims ∧
      ∃ n < s.asked, claims.unique = (line.outside n).fresh

theorem IsMade.empty (h : s.server.tokens = ∅) : IsMade settings line s := by
  intro c token hr
  rw [h] at hr
  exact absurd rfl hr

/-- A step records no token but the one that it makes. -/
theorem record?_of_step (hx : Step settings line s x t) {token : String}
    (hr : t.server.tokens.record? d token ≠ none) :
    s.server.tokens.record? d token ≠ none ∨ ∃ c, x = .issued c (issuedAt settings line c s.asked) ∧
      token = (issuedAt settings line c s.asked).token := by
  cases hx with
  | issued c =>
      by_cases ht : token = (issuedAt settings line c s.asked).token
      · exact .inr ⟨c, rfl, ht⟩
      · refine .inl fun hn => hr ?_
        refine (TokenStore.record?_issue _ _ c d _ token _).trans ?_
        rw [if_neg ht, hn]
        split
        · rename_i hd
          rw [← hd, hn]
          rfl
        · rfl
  | loggedOut c =>
      refine .inl fun hn => hr ?_
      refine (TokenStore.record?_kickAll _ _ c d token).trans ?_
      rw [hn]
      split
      · rename_i hd
        rw [← hd, hn]
        rfl
      · rfl
  | purged =>
      refine .inl fun hn => hr ?_
      refine (TokenStore.record?_purge _ _ d token).trans ?_
      rw [hn]
      rfl
  | refused e => exact .inl hr

/-- Every step leaves only tokens that were made. -/
theorem IsMade.step (h : IsMade settings line s) (hx : Step settings line s x t) :
    IsMade settings line t := by
  intro d token hr
  rcases record?_of_step hx hr with hs | ⟨c, rfl, rfl⟩
  · obtain ⟨claims, ht, n, hn, hu⟩ := h d token hs
    exact ⟨claims, ht, n, Nat.lt_of_lt_of_le hn hx.asked_le, hu⟩
  · cases hx
    exact ⟨_, rfl, s.asked + 1, Nat.add_lt_add_left (by decide : 1 < 3) s.asked, rfl⟩

/-- Every run leaves only tokens that were made. -/
theorem IsMade.performAll (h : IsMade settings line s) (ops : List Operation) :
    IsMade settings line (performAll settings line ops s).2 := by
  induction ops generalizing s with
  | nil => exact h
  | cons op ops ih => exact ih (h.step (perform_step settings line s op))

/-- There is no record of a token that is just being made. -/
theorem IsMade.record?_issuedAt (h : IsMade settings line s) (c d : Client) :
    s.server.tokens.record? d (issuedAt settings line c s.asked).token = none := by
  refine Classical.byContradiction fun hr => ?_
  obtain ⟨claims, ht, n, hn, hu⟩ := h d _ hr
  have hc : (issuedAt settings line c s.asked).claims = claims := sign_injective ht
  rw [← hc] at hu
  have := line.fresh _ _ hu
  omega

end Token

namespace Gate

open Token

variable {settings : AuthSettings} {line : Timeline} {s : Course} {c : Client}

/-- What is found of a token that was just recorded, while the second lasts. -/
theorem lookup_recorded (h : IsMade settings line s) (c : Client) {now : Int}
    (same : line.seconds (s.asked + 2) = now) :
    (recorded settings line c s).server.tokens.lookup now c
        (issuedAt settings line c s.asked).token =
      if now < (issuedAt settings line c s.asked).claims.expires.toInt then .normal
      else .absent := by
  have hr := h.record?_issuedAt c c
  have absent : s.server.tokens.lookup (line.seconds (s.asked + 2)) c
      (issuedAt settings line c s.asked).token = .absent := by
    rw [TokenStore.lookup_eq, hr, TokenRecord.stateAt_none]
  refine (s.server.tokens.lookup_issue c c _ (issuedAt settings line c s.asked).token
    (Int.le_of_eq same) (same ▸ line.seconds_nonneg _) _ absent).trans ?_
  rw [if_pos rfl, if_pos rfl]

/-- What the gate says of a token that was made and recorded within the same second. -/
theorem run_letIn_recorded (h : IsMade settings line s) (c : Client) {now ends : Int}
    (hn : line.seconds s.asked = now) (he : Clock.after now settings.tokenTtlSecs = ends)
    (later : Nat) (same : line.seconds (s.asked + 3 + later + 1) = now) :
    (Course.run line (letIn settings (some (issuedAt settings line c s.asked).token))
        ((recorded settings line c s).idle later)).1 =
      if ends < 0 then .error .tokenUnknown
      else if ends ≤ now then .error .tokenNotExist
      else .ok c := by
  obtain ⟨i, hi⟩ : ∃ i, issuedAt settings line c s.asked = i := ⟨_, rfl⟩
  have signed : i.token = sign settings.jwtSecret i.claims := hi ▸ rfl
  have client : (⟨i.claims.user, i.claims.platform⟩ : Client) = c := hi ▸ rfl
  have expires : i.claims.expires.toInt = ends := by
    rw [← hi, ← he, ← hn]
    exact toInt_expires_claimsFor settings c _ _
  have negative : i.claims.expires < 0 ↔ ends < 0 := by
    rw [Int64.lt_iff_toInt_lt, expires]
    exact Iff.rfl
  -- the clock stands still from the first question to the last
  have still : ∀ k, s.asked ≤ k → k ≤ s.asked + 3 + later + 1 → line.seconds k = now := by
    intro k hs hk
    exact Int.le_antisymm (same ▸ line.seconds_le hk) (hn ▸ line.seconds_le hs)
  have found := lookup_recorded h c (still (s.asked + 2) (by omega) (by omega))
  have first : line.seconds ((recorded settings line c s).idle later).asked = now :=
    still (s.asked + 3 + later) (by omega) (by omega)
  have second : line.seconds (((recorded settings line c s).idle later).asked + 1) = now := same
  rw [hi, expires] at found
  rw [hi, run_letIn (signed ▸ sign_ne_empty _ _), first, second, signed, verify_sign, ← signed,
    expires]
  by_cases h₀ : ends < 0
  · rw [if_pos (negative.2 h₀), if_pos h₀]
  · rw [if_neg fun h => h₀ (negative.1 h), if_neg h₀]
    by_cases h₁ : ends < now
    · rw [if_pos h₁, if_pos (Int.le_of_lt h₁)]
    · simp only [if_neg h₁, Course.idle_server, client, found]
      by_cases h₂ : now < ends
      · rw [if_pos h₂, if_neg (Int.not_le.2 h₂)]
        rfl
      · rw [if_neg h₂, if_pos (Int.not_lt.1 h₂)]
        rfl

/-- Under settings that pass all checks, and whatever was done before on an empty store, a user who
asks for a token gets one. Its end is exact, and the gate lets the user in with it within the same
second, exactly if its end does not leave the words of 64 bits. -/
theorem new_token_works_iff (settings : Settings) (valid : settings.fault? = none)
    (line : Timeline) (start : Course) (empty : start.server.tokens = ∅) (ops : List Operation)
    (user : String) (named : user ≠ "") (platform : Platform) :
    let c : Client := ⟨user, platform.id⟩
    let s := (performAll settings.auth line ops start).2
    let now := line.seconds s.asked
    let Fits := now + settings.auth.tokenTtlSecs.toNat ≤ 9223372036854775807
    ∃ i t, Course.run line (issue settings.auth c) s = (.ok i, t) ∧
      (i.claims.expires.toInt = now + settings.auth.tokenTtlSecs.toNat ↔ Fits) ∧
      ∀ later, line.seconds (t.asked + later + 1) = now →
        ((Course.run line (letIn settings.auth (some i.token)) (t.idle later)).1 = .ok c ↔
          Fits) := by
  intro c s now Fits
  have made : IsMade settings.auth line s := (IsMade.empty empty).performAll ops
  have positive := (Settings.fault?_eq_none_iff.1 valid).2.1
  have least : 0 ≤ line.seconds s.asked := line.seconds_nonneg s.asked
  have hu : checkUser c.user = .ok () := if_neg named
  have hp : checkPlatform c.platform = .ok () := by
    rw [checkPlatform, Platform.ofId?_id]
    rfl
  refine ⟨_, _, run_issue settings.auth line c s hu hp, ?_, fun later same => ?_⟩
  · change (claimsFor settings.auth c _ _).expires.toInt = _ ↔ _
    rw [toInt_expires_claimsFor]
    exact Clock.after_eq_iff least
  · have fits := Clock.lt_after_iff least positive
    rw [run_letIn_recorded made c rfl rfl later same]
    refine Iff.trans ?_ fits
    split
    · simp only [reduceCtorEq, false_iff]
      omega
    · split
      · simp only [reduceCtorEq, false_iff]
        omega
      · simp only [true_iff]
        omega

/-- A world whose clock stands still while new texts are made. -/
def standing (second : Nat) : Timeline where
  outside n := {
    seconds := second, milliseconds := 1000 * second, fresh := String.ofList (List.replicate n 'x')
    members := fun _ => .ok [], vendors := [], notify := fun _ _ _ => .ok () }
  start := Int.natCast_nonneg second
  forward _ _ _ := Int.le_refl _
  fresh m n h := by simpa using congrArg List.length (String.ofList_injective h)

/-- The longest span that fits: a user who has a token gets another, and is let in with it. -/
theorem new_token_works_of_longest_span :
    let settings : Settings := { auth := { tokenTtlSecs := 9223372036854775797 } }
    let line := standing 10
    let start : Course := ⟨.new settings, 0⟩
    let s := (performAll settings.auth line [.issue ⟨"u", 1⟩] start).2
    settings.fault? = none ∧ start.server.tokens = ∅ ∧ "u" ≠ "" ∧
      ∃ i t, Course.run line (issue settings.auth ⟨"u", 1⟩) s = (.ok i, t) ∧
        line.seconds (t.asked + 0 + 1) = line.seconds s.asked ∧
        i.claims.expires.toInt = 9223372036854775807 ∧
        (Course.run line (letIn settings.auth (some i.token)) t).1 = .ok ⟨"u", 1⟩ := by
  intro settings line start s
  have named : "u" ≠ "" := by decide
  have fits : (10 : Int) + settings.auth.tokenTtlSecs.toNat ≤ 9223372036854775807 := by decide
  obtain ⟨i, t, hi, exact, works⟩ :=
    new_token_works_iff settings rfl line start rfl [.issue ⟨"u", 1⟩] "u" named .ios
  refine ⟨rfl, rfl, named, i, t, hi, rfl, ?_, ?_⟩
  · exact (exact.2 fits).trans (by decide)
  · exact (works 0 rfl).2 fits

/-- The longest span that the environment can give counts as a negative one: the settings pass all
checks, and the gate refuses every new token in the second in which it was made. -/
theorem new_token_refused_of_negative_span :
    let settings : Settings := { auth := { tokenTtlSecs := 18446744073709551615 } }
    let line := standing 1700000000
    let start : Course := ⟨.new settings, 0⟩
    Settings.layered {} [("PRIVCHAT_PUSH_TOKEN_TTL_SECS", "18446744073709551615")] {} =
        .ok settings ∧
      settings.fault? = none ∧
      ∃ i t, Course.run line (issue settings.auth ⟨"u", 1⟩) start = (.ok i, t) ∧
        line.seconds (t.asked + 1) = line.seconds start.asked ∧
        (Course.run line (letIn settings.auth (some i.token)) t).1 = .error .tokenNotExist := by
  intro settings line start
  have made : IsMade settings.auth line start := .empty rfl
  have ends : Clock.after 1700000000 settings.auth.tokenTtlSecs = 1699999999 := by decide
  refine ⟨rfl, rfl, _, _, run_issue settings.auth line ⟨"u", 1⟩ start rfl rfl, rfl, ?_⟩
  exact (run_letIn_recorded made ⟨"u", 1⟩ rfl ends 0 rfl).trans rfl

end Gate
end Courier
