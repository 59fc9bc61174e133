import Courier.Gate.Token
import Courier.Proofs.Token.Books

/-!
# Whom the gate lets in

After any run of issues, logouts and purges on an empty store the gate decides by the history alone:
it lets in the holder of the last token that was issued to a client, while nothing has ended its
use. The gate reads the clock twice, for the token itself and for its record.
-/

namespace Courier.Gate

open Token

variable {settings : AuthSettings} {line : Timeline} {h : List Incident} {s : Course}

/-- What the gate says of a text, if its first look is at one time and its second at another. -/
structure IsJudged (settings : AuthSettings) (h : List Incident) (checked now : Int) (t : String)
    (verdict : Except ServiceError Client) : Prop where
  /-- A client is let in with its last token, unless it was logged out or the token has ended. -/
  letsIn : ∀ c, verdict = .ok c ↔
    ∃ i, IsStanding h c i ∧ i.token = t ∧ now < i.claims.expires.toInt
  /-- A token after which its client got another or was logged out is kicked until it ends. -/
  kicked : ∀ c i, IsDeposed h c i → i.token = t → now < i.claims.expires.toInt →
    verdict = .error .tokenKicked
  /-- A token that has ended does not exist any more. -/
  ended : ∀ c i, .issued c i ∈ h → i.token = t → i.claims.expires.toInt ≤ now →
    verdict = .error .tokenNotExist
  /-- Nor does one that was not issued here, though it is rightly signed. -/
  foreign : t ≠ "" → t ∉ tokens h →
    Token.verify settings.jwtSecret checked t ≠ .error .tokenUnknown →
    verdict = .error .tokenNotExist
  /-- What is no token, is not rightly signed or has another fault than its end is unknown. -/
  unknown : t ≠ "" → Token.verify settings.jwtSecret checked t = .error .tokenUnknown →
    verdict = .error .tokenUnknown
  /-- The empty text is no token at all. -/
  missing : t = "" → verdict = .error missingToken

theorem letIn_empty : letIn settings (some "") = throw missingToken := rfl

/-- What the gate says of a text that is not empty. -/
theorem run_letIn {t : String} (ht : t ≠ "") :
    (Course.run line (letIn settings (some t)) s).1 =
      match Token.verify settings.jwtSecret (line.seconds s.asked) t with
      | .error e => .error e
      | .ok claims =>
        ((s.server.tokens.lookup (line.seconds (s.asked + 1)) ⟨claims.user, claims.platform⟩
          t).check).map fun _ => ⟨claims.user, claims.platform⟩ := by
  rw [letIn_of_ne_empty settings ht]
  cases hv : Token.verify settings.jwtSecret (line.seconds s.asked) t with
  | error e => simp [Course.run_bind, hv]
  | ok claims =>
      cases hl : (s.server.tokens.lookup (line.seconds (s.asked + 1))
          ⟨claims.user, claims.platform⟩ t).check with
      | error e => simp [Course.run_bind, hv, hl, Except.map]
      | ok _ => simp [Course.run_bind, hv, hl, Except.map]

/-- A token only fails to be verified because it has ended or is unknown. -/
theorem verify_error {secret t : String} {now : Int} {e : ServiceError}
    (h : Token.verify secret now t = .error e) : e = .tokenNotExist ∨ e = .tokenUnknown := by
  unfold Token.verify at h
  (repeat' split at h) <;> cases h <;> simp

section Books

variable (b : Books settings line h s) (n : Nat)

include b

/-- What the gate says of a token that was issued here. -/
theorem run_letIn_issued {c : Client} {i : Issued} (hi : .issued c i ∈ h) :
    (Course.run line (letIn settings (some i.token)) (s.idle n)).1 =
      if i.claims.expires.toInt < line.seconds (s.asked + n) then .error .tokenNotExist
      else
        ((s.server.tokens.lookup (line.seconds (s.asked + n + 1)) c i.token).check).map
          fun _ => c := by
  have hg := b.genuine c i hi
  have hv : Token.verify settings.jwtSecret (line.seconds (s.asked + n)) i.token =
      if i.claims.expires.toInt < line.seconds (s.asked + n) then .error .tokenNotExist
      else .ok i.claims := by
    rw [hg.signed, verify_sign, if_neg (Int64.not_lt.2 hg.expires)]
  rw [run_letIn (hg.signed ▸ sign_ne_empty _ _), Course.idle_asked, hv]
  by_cases he : i.claims.expires.toInt < line.seconds (s.asked + n)
  · rw [if_pos he, if_pos he]
  · simp only [if_neg he, Course.idle_server, hg.client]

/-- While the store keeps the books of a history, the gate judges by the history. -/
theorem isJudged_letIn (t : String) :
    IsJudged settings h (line.seconds (s.asked + n)) (line.seconds (s.asked + n + 1)) t
      (Course.run line (letIn settings (some t)) (s.idle n)).1 where
  letsIn c := by
    have later : ∀ k < s.asked, line.seconds k ≤ line.seconds (s.asked + n + 1) :=
      fun k hk => line.seconds_le (by omega)
    constructor
    · intro hc
      by_cases ht : t = ""
      · rw [ht, letIn_empty, Course.run_throw] at hc
        cases hc
      rw [run_letIn ht] at hc
      cases hv : Token.verify settings.jwtSecret (line.seconds (s.asked + n)) t with
      | error e => simp [hv] at hc
      | ok claims =>
          have hl := b.kept _ later ⟨claims.user, claims.platform⟩ t
          simp only [Course.idle_asked, Course.idle_server, hv] at hc
          cases hs : s.server.tokens.lookup (line.seconds (s.asked + n + 1))
              ⟨claims.user, claims.platform⟩ t with
          | normal =>
              rw [hs] at hc hl
              cases hc
              exact hl
          | kicked =>
              rw [hs] at hc
              cases hc
          | absent =>
              rw [hs] at hc
              cases hc
    · rintro ⟨i, hi, rfl, hn⟩
      have hc := line.seconds_le (show s.asked + n ≤ s.asked + n + 1 by omega)
      rw [run_letIn_issued b n hi.issued, if_neg (by omega), b.lookup_isStanding later hi hn]
      rfl
  kicked := by
    rintro c i hi rfl hn
    have hc := line.seconds_le (show s.asked + n ≤ s.asked + n + 1 by omega)
    rw [run_letIn_issued b n hi.issued, if_neg (by omega),
      b.lookup_isDeposed (fun k hk => line.seconds_le (by omega)) hi hn]
    rfl
  ended := by
    rintro c i hi rfl hn
    rw [run_letIn_issued b n hi,
      b.lookup_ended (fun k hk => line.seconds_le (by omega)) hi hn]
    split <;> rfl
  foreign := by
    intro ht hf hv
    rw [run_letIn ht, Course.idle_asked]
    cases he : Token.verify settings.jwtSecret (line.seconds (s.asked + n)) t with
    | error e =>
        rcases verify_error he with rfl | rfl
        · rfl
        · exact absurd he hv
    | ok claims =>
        simp only [Course.idle_server]
        rw [b.lookup_absent (fun k hk => line.seconds_le (by omega)) hf]
        rfl
  unknown := by
    intro ht hv
    rw [run_letIn ht, Course.idle_asked, hv]
  missing := by
    rintro rfl
    rfl

end Books

/-- After any run on an empty store, and however much later, the gate judges every text by the
history of the run. -/
theorem isJudged_after_run (start : Course) (ops : List Operation)
    (empty : start.server.tokens = ∅)
    (fits : ∀ n < (performAll settings line ops start).2.asked,
      line.seconds n + settings.tokenTtlSecs.toNat ≤ 9223372036854775807)
    (later : Nat) (t : String) :
    let h := (performAll settings line ops start).1
    let s := (performAll settings line ops start).2
    IsJudged settings h (line.seconds (s.asked + later)) (line.seconds (s.asked + later + 1)) t
        (Course.run line (letIn settings (some t)) (s.idle later)).1 ∧
      (Course.run line (letIn settings none) (s.idle later)).1 = .error missingToken := by
  intro h s
  have b : Books settings line [] start := .empty empty
  exact ⟨isJudged_letIn (b.performAll ops fits) later t, rfl⟩

/-- A world in which a second goes by between two questions. -/
def ticking : Timeline where
  outside n := {
    seconds := n, milliseconds := 1000 * n, fresh := String.ofList (List.replicate n 'x')
    members := fun _ => .ok [], vendors := [], notify := fun _ _ _ => .ok () }
  start := Int.le_refl 0
  forward m n h := Int.ofNat_le.2 h
  fresh m n h := by simpa using congrArg List.length (String.ofList_injective h)

/-- A user with a new token is let in until the second at which it ends. -/
theorem isJudged_after_issue :
    let settings : AuthSettings := { tokenTtlSecs := 10 }
    let c : Client := ⟨"u1", 1⟩
    let start : Course := ⟨.new { auth := settings }, 0⟩
    let s := (performAll settings ticking [.issue c] start).2
    let t := (issuedAt settings ticking c 0).token
    start.server.tokens = ∅ ∧
      (∀ n < s.asked, ticking.seconds n + settings.tokenTtlSecs.toNat ≤ 9223372036854775807) ∧
      (Course.run ticking (letIn settings (some t)) (s.idle 5)).1 = .ok c ∧
      (Course.run ticking (letIn settings (some t)) (s.idle 6)).1 = .error .tokenNotExist := by
  intro settings c start s t
  have hp : performAll settings ticking [.issue c] start =
      ([.issued c (issuedAt settings ticking c 0)], recorded settings ticking c start) := by
    rw [performAll, perform_issue settings ticking c start rfl rfl]
    rfl
  have hh : (performAll settings ticking [.issue c] start).1 =
      [] ++ [.issued c (issuedAt settings ticking c 0)] := congrArg Prod.fst hp
  have fits : ∀ n < s.asked,
      ticking.seconds n + settings.tokenTtlSecs.toNat ≤ 9223372036854775807 := by
    intro n hn
    have h₃ : s.asked = 3 := congrArg (fun r => r.2.asked) hp
    have hs : ticking.seconds n = n := rfl
    have ht : settings.tokenTtlSecs.toNat = 10 := rfl
    omega
  have he : (issuedAt settings ticking c 0).claims.expires.toInt = 10 := by decide
  refine ⟨rfl, fits, ?_, ?_⟩
  · have hj := (isJudged_after_run start [.issue c] rfl fits 5 t).1
    rw [hh] at hj
    refine (hj.letsIn c).2 ⟨_, isStanding_append_issued, rfl, ?_⟩
    rw [he]
    decide
  · have hj := (isJudged_after_run start [.issue c] rfl fits 6 t).1
    rw [hh] at hj
    apply hj.ended c _ (List.mem_singleton_self _) rfl
    rw [he]
    decide

end Courier.Gate
