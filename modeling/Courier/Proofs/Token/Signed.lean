import Courier.Proofs.Json.Record
import Courier.Token.Signed

/-!
# Signed tokens are verified

A token that was signed is cut into the parts it was made of, its signature is the one that is
wanted, and its claims are read back. Main statement: verifying gives the claims, unless their end
is negative or past. Signing is therefore injective.
-/

namespace Courier.Token

theorem isSome_of_mapM {α β : Type} {f : α → Option β} {xs : List α} {ys : List β}
    (h : xs.mapM f = some ys) {x : α} (hx : x ∈ xs) : (f x).isSome = true := by
  induction xs generalizing ys with
  | nil => cases hx
  | cons a rest ih =>
      simp only [List.mapM_cons, Option.bind_eq_bind, Option.bind_eq_some_iff] at h
      obtain ⟨b, hb, bs, hbs, -⟩ := h
      rcases List.mem_cons.1 hx with rfl | hx
      · rw [hb]
        rfl
      · exact ih hbs hx

/-- No part of a token holds a point. -/
theorem notMem_part (bytes : List UInt8) : '.' ∉ part bytes := by
  intro hp
  obtain ⟨vs, hv, -⟩ := Option.bind_eq_some_iff.1 (Base64.decode?_encode_urlSafe bytes)
  exact absurd (isSome_of_mapM hv hp) (by decide)

/-- The first two parts of a signed token, with the point between them. -/
def message (claims : Claims) : List Char :=
  part header.bytes ++ '.' :: part claims.toJson.bytes

theorem toList_sign (secret : String) (claims : Claims) :
    (sign secret claims).toList = message claims ++ '.' :: signature secret (message claims) := by
  simp [sign, message]

theorem sign_ne_empty (secret : String) (claims : Claims) : sign secret claims ≠ "" := by
  intro h
  have := toList_sign secret claims
  simp [h] at this

theorem parts?_sign (secret : String) (claims : Claims) :
    parts? (sign secret claims).toList =
      some (part header.bytes, part claims.toJson.bytes, message claims,
        signature secret (message claims)) := by
  have h₁ : Cut.last? '.' (sign secret claims).toList =
      some (message claims, signature secret (message claims)) :=
    Cut.last?_eq_some_iff.2 ⟨toList_sign secret claims, notMem_part _⟩
  have h₂ : Cut.last? '.' (message claims) =
      some (part header.bytes, part claims.toJson.bytes) :=
    Cut.last?_eq_some_iff.2 ⟨rfl, notMem_part _⟩
  simp [parts?, h₁, h₂]

theorem whole_header : Json.Whole header := by
  apply Json.Whole.object
  simp [Json.Whole.text]

theorem whole_claims (claims : Claims) : Json.Whole claims.toJson := by
  apply Json.Whole.object
  simp [Json.Whole.text]

theorem document?_part {v : Json} (h : Json.Whole v) :
    document? (part v.bytes) = some ⟨v, true⟩ := by
  rw [document?, part, Base64.decode?_encode_urlSafe, Option.map_some, Json.ofBytes_bytes h]

theorem algorithm?_header : algorithm? (part header.bytes) = some .hs256 := by
  rw [algorithm?, document?_part whole_header]
  rfl

theorem read_claims (claims : Claims) : Claims.read claims.toJson = .ok claims := by
  have hu : Json.readText (.text claims.user) = .ok claims.user := rfl
  have hj : Json.readText (.text claims.unique) = .ok claims.unique := rfl
  simp [Claims.read, Claims.toJson, Json.readFields, Json.readMembers, Claims.fields,
    Json.Field.of, hu, hj, Json.readCode_ofInt, Json.readTime_ofInt, List.find?, List.lookup_cons,
    Json.Given.get, Json.Given.get?, bind, Except.bind, Functor.map, Except.map, pure,
    Except.pure]

theorem hasSoundClaims_claims (claims : Claims) : hasSoundClaims claims.toJson = true := by
  have hf : registeredClaims [(.quoted (.text "user_id"), .text claims.user),
      (.quoted (.text "platform_id"), .ofInt claims.platform.toInt),
      (.quoted (.text "exp"), .ofInt claims.expires.toInt),
      (.quoted (.text "iat"), .ofInt claims.issued.toInt),
      (.quoted (.text "jti"), .text claims.unique)] =
      [(.expires, .ofInt claims.expires.toInt)] := rfl
  have hp : RegisteredClaim.isPassable .expires (.ofInt claims.expires.toInt) = true := by
    simp only [RegisteredClaim.isPassable, RegisteredClaim.landing, Json.ofInt]
    split <;> rfl
  simp [hasSoundClaims, Claims.toJson, hf, hp]

theorem namesAudience_claims (claims : Claims) : namesAudience claims.toJson = false :=
  rfl

/-- A signed token gives its claims, unless their end is negative or past. -/
theorem verify_sign (secret : String) (now : Int) (claims : Claims) :
    verify secret now (sign secret claims) =
      if claims.expires < 0 then .error .tokenUnknown
      else if claims.expires.toInt < now then .error .tokenNotExist
      else .ok claims := by
  have hr : (Json.Document.mk claims.toJson true).read Claims.read = .ok claims := by
    rw [Json.Document.read, read_claims]
    rfl
  simp only [verify, parts?_sign, algorithm?_header, document?_part (whole_claims claims), hr,
    hasSoundClaims_claims, namesAudience_claims, ne_eq, not_true, if_false, Bool.not_true,
    Bool.false_eq_true, false_or]

/-- At a time since 1970 a signed token gives its claims up to and at their end. After an end that
is not negative it does not exist any more, and with a negative end it is unknown. -/
theorem verdict_on_signed (secret : String) {now : Int} (hn : 0 ≤ now) (claims : Claims) :
    let verdict := verify secret now (sign secret claims)
    (verdict = .ok claims ↔ now ≤ claims.expires.toInt) ∧
      (verdict = .error .tokenNotExist ↔
        0 ≤ claims.expires.toInt ∧ claims.expires.toInt < now) ∧
      (verdict = .error .tokenUnknown ↔ claims.expires.toInt < 0) := by
  intro verdict
  have hv : verdict = _ := verify_sign secret now claims
  have hneg : claims.expires < 0 ↔ claims.expires.toInt < 0 := Int64.lt_iff_toInt_lt
  rw [hv]
  by_cases h₀ : claims.expires.toInt < 0
  · rw [if_pos (hneg.2 h₀)]
    simp only [reduceCtorEq, false_iff, Except.error.injEq, true_iff]
    omega
  · rw [if_neg fun h => h₀ (hneg.1 h)]
    by_cases h₁ : claims.expires.toInt < now
    · rw [if_pos h₁]
      simp only [reduceCtorEq, false_iff, Except.error.injEq, true_iff]
      omega
    · rw [if_neg h₁]
      simp only [reduceCtorEq, false_iff, true_iff]
      omega

/-- In the second of its end a token still gives its claims, however its texts are quoted. -/
theorem verdict_on_signed_at_end :
    let claims : Claims := ⟨"a.b\"\\", -1, 100, 0, "é"⟩
    (0 : Int) ≤ 100 ∧ verify "secret" 100 (sign "secret" claims) = .ok claims :=
  ⟨by decide, (verdict_on_signed "secret" (by decide) _).1.2 (by decide)⟩

/-- The claims that a token is verified for are those that stand in it, whatever the time. -/
theorem verify_inj {secret token : String} {m n : Int} {a b : Claims}
    (ha : verify secret m token = .ok a) (hb : verify secret n token = .ok b) : a = b := by
  have read : ∀ {now : Int} {claims : Claims}, verify secret now token = .ok claims →
      ∃ parts d, parts? token.toList = some parts ∧ document? parts.2.1 = some d ∧
        d.read Claims.read = .ok claims := by
    intro now claims h
    unfold verify at h
    (repeat' split at h) <;> cases h
    exact ⟨_, _, ‹_›, ‹_›, ‹_›⟩
  obtain ⟨parts, d, hp, hd, hr⟩ := read ha
  obtain ⟨parts', d', hp', hd', hr'⟩ := read hb
  cases hp.symm.trans hp'
  cases hd.symm.trans hd'
  exact Except.ok.inj (hr.symm.trans hr')

/-- Claims are told by the token that is signed for them. -/
theorem sign_injective {secret : String} {a b : Claims} (h : sign secret a = sign secret b) :
    a = b := by
  have hp := parts?_sign secret a
  rw [h, parts?_sign secret b, Option.some.injEq, Prod.mk.injEq, Prod.mk.injEq] at hp
  have hd := document?_part (whole_claims a)
  rw [← hp.2.1, document?_part (whole_claims b), Option.some.injEq, Json.Document.mk.injEq] at hd
  have hr := read_claims a
  rw [← hd.1, read_claims b] at hr
  exact (Except.ok.inj hr).symm

end Courier.Token
