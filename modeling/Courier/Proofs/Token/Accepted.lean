import Courier.Proofs.Json.Fields
import Courier.Proofs.Token.Signed
import Mathlib.Data.List.Nodup

/-!
# Accepted tokens are signed

Whatever text is verified, it is accepted only if its last two points cut it into a header that
names the one supported algorithm, claims, and the digest of both under the secret, and if the
claims are what their part writes. Main statement: what is accepted is so signed, and two texts that
are accepted differ before their signatures.
-/

namespace Courier

open Json (valuesOf)

/-! ### Registered claims by name -/

/-- The name of a registered claim. -/
def RegisteredClaim.name : RegisteredClaim → String
  | .expires => "exp"
  | .notBefore => "nbf"
  | .subject => "sub"
  | .issuer => "iss"
  | .audience => "aud"

theorem RegisteredClaim.ofName?_eq_some_iff {name : String} {r : RegisteredClaim} :
    ofName? name = some r ↔ name = r.name := by
  constructor
  · unfold ofName?
    split <;> intro h <;> cases h <;> rfl
  · rintro rfl
    cases r <;> rfl

/-- The registered claims of a kind are the members of its name. -/
theorem filterMap_registeredClaims (members : List (Json.Key × Json)) (r : RegisteredClaim) :
    ((registeredClaims members).filterMap fun c => if c.1 = r then some c.2 else none) =
      valuesOf members r.name := by
  fun_induction registeredClaims members with
  | case1 => rfl
  | case2 name v rest s hs ih =>
      have hn : name = r.name ↔ s = r := by
        rw [← RegisteredClaim.ofName?_eq_some_iff, hs, Option.some.injEq]
      by_cases h : s = r <;> simp_all [valuesOf]
  | case3 name v rest hs ih =>
      have hn : name ≠ r.name := fun h => by
        rw [RegisteredClaim.ofName?_eq_some_iff.2 h] at hs
        cases hs
      simp_all [valuesOf]
  | case4 member rest other ih =>
      have hn : member.1 ≠ .quoted (.text r.name) := fun h => other r.name member.2 (by rw [← h])
      simp [valuesOf, hn, ih]

/-- In sound claims the name of a registered one stands no more than once. -/
theorem length_valuesOf_le_of_sound {members : List (Json.Key × Json)} {ending : Json.Ending}
    (h : hasSoundClaims (.obj members ending) = true) (r : RegisteredClaim) :
    (valuesOf members r.name).length ≤ 1 := by
  have hd : ((registeredClaims members).map Prod.fst).Nodup := by
    simp only [hasSoundClaims, Bool.and_eq_true, decide_eq_true_eq] at h
    exact h.1
  rw [← filterMap_registeredClaims, List.length_filterMap_eq_countP]
  calc (registeredClaims members).countP _
      = ((registeredClaims members).map Prod.fst).count r := by
        rw [List.count, List.countP_map]
        exact List.countP_congr fun c _ => by by_cases hc : c.1 = r <;> simp [hc]
    _ ≤ 1 := List.nodup_iff_count_le_one.1 hd r

theorem isAudience_eq_false_of_valuesOf {members : List (Json.Key × Json)} {ending : Json.Ending}
    (h : namesAudience (.obj members ending) = false) {v : Json}
    (hv : v ∈ valuesOf members "aud") : isAudience v = false := by
  rw [show "aud" = RegisteredClaim.audience.name from rfl, ← filterMap_registeredClaims,
    List.mem_filterMap] at hv
  obtain ⟨⟨r, w⟩, hm, hv⟩ := hv
  by_cases hr : r = .audience
  · rw [if_pos hr] at hv
    cases hv
    simpa [hr] using List.any_eq_false.1 h _ hm
  · rw [if_neg hr] at hv
    cases hv

/-- Whether the members of an object are claims that are taken: each of the five stands once, with
its value; a registered claim stands no more than once; and no audience is named. -/
structure Claims.StandIn (members : List (Json.Key × Json)) (c : Claims) : Prop where
  user : valuesOf members "user_id" = [.text c.user]
  platform : valuesOf members "platform_id" = [.ofInt c.platform.toInt]
  expires : valuesOf members "exp" = [.ofInt c.expires.toInt]
  issued : valuesOf members "iat" = [.ofInt c.issued.toInt]
  unique : valuesOf members "jti" = [.text c.unique]
  once : ∀ r : RegisteredClaim, (valuesOf members r.name).length ≤ 1
  audience : ∀ v ∈ valuesOf members "aud", isAudience v = false

namespace Token

/-- Whether the last two points of a token cut it into three parts. -/
def IsCut (token : String) (head payload given : List Char) : Prop :=
  token.toList = head ++ '.' :: (payload ++ '.' :: given) ∧ '.' ∉ payload ∧ '.' ∉ given

theorem parts?_eq_some_iff {token : String} {head payload message given : List Char} :
    parts? token.toList = some (head, payload, message, given) ↔
      IsCut token head payload given ∧ message = head ++ '.' :: payload := by
  simp only [parts?, Option.bind_eq_bind, Option.bind_eq_some_iff, Prod.exists,
    Cut.last?_eq_some_iff, Option.pure_def, Option.some.injEq, Prod.mk.injEq, IsCut]
  constructor
  · rintro ⟨_, _, ⟨ht, hg⟩, _, _, ⟨rfl, hp⟩, rfl, rfl, rfl, rfl⟩
    exact ⟨⟨by simpa using ht, hp, hg⟩, rfl⟩
  · rintro ⟨⟨ht, hp, hg⟩, rfl⟩
    exact ⟨_, given, ⟨by simpa using ht, hg⟩, head, payload, ⟨rfl, hp⟩, rfl, rfl, rfl, rfl⟩

/-- The values that a header has in the place of its algorithm: those of its members of that name,
or the second of an array. -/
def algorithmValues : Json → List Json
  | .obj members _ => valuesOf members "alg"
  | .arr items _ => items[1]?.toList
  | _ => []

/-- Whether a part of a token is a header that names the supported algorithm, once, and no other. -/
def NamesHmac (head : List Char) : Prop :=
  ∃ d v, document? head = some d ∧ d.ends = true ∧ algorithmValues d.root = [v] ∧
    Json.Names "HS256" v

theorem algorithmValues_of_readHeader {v : Json} {a : Algorithm} (h : readHeader v = .ok a) :
    ∃ w, algorithmValues v = [w] ∧ Algorithm.read w = .ok a := by
  obtain ⟨given, hf, ha⟩ := Json.bind_eq_ok_iff.1 h
  cases v with
  | obj members ending => exact Json.exists_valuesOf_of_get hf (by decide) ha
  | arr items ending =>
      obtain ⟨w, hw, hr⟩ := Json.Given.get_eq_ok_iff.1 ha
      rw [Json.readPositions_eq_ok hf] at hw
      refine ⟨w, ?_, hr⟩
      rcases items with - | ⟨typ, - | ⟨alg, rest⟩⟩
      · simp at hw
      · simp [headerFields, Json.Field.of, List.lookup_cons] at hw
      · simpa [headerFields, Json.Field.of, List.lookup_cons, algorithmValues] using hw
  | _ => cases hf

theorem namesHmac_of_algorithm? {head : List Char} (h : algorithm? head = some .hs256) :
    NamesHmac head := by
  obtain ⟨d, hd, hr⟩ := Option.bind_eq_some_iff.1 h
  obtain ⟨hr, he⟩ := Json.Document.read_eq_ok_iff.1 (Json.toOption_eq_some_iff.1 hr)
  obtain ⟨w, hv, hw⟩ := algorithmValues_of_readHeader hr
  obtain ⟨name, hn, hs⟩ := Json.names_of_readVariant hw
  have hname : name = "HS256" := by
    unfold Algorithm.ofName? at hn
    (repeat' split at hn) <;> first | assumption | cases hn
  exact ⟨d, w, hd, he, hv, hname ▸ hs⟩

theorem standIn_of_read {members : List (Json.Key × Json)} {ending : Json.Ending} {c : Claims}
    (h : Claims.read (.obj members ending) = .ok c)
    (sound : hasSoundClaims (.obj members ending) = true)
    (noAudience : namesAudience (.obj members ending) = false) :
    ending ≠ .cut ∧ c.StandIn members := by
  obtain ⟨given, hf, h⟩ := Json.bind_eq_ok_iff.1 h
  obtain ⟨user, hu, h⟩ := Json.bind_eq_ok_iff.1 h
  obtain ⟨platform, hp, h⟩ := Json.bind_eq_ok_iff.1 h
  obtain ⟨expires, he, h⟩ := Json.bind_eq_ok_iff.1 h
  obtain ⟨issued, hi, h⟩ := Json.bind_eq_ok_iff.1 h
  obtain ⟨unique, hj, h⟩ := Json.bind_eq_ok_iff.1 h
  cases h
  obtain ⟨v₁, hu, r₁⟩ := Json.exists_valuesOf_of_get hf (by decide) hu
  obtain ⟨v₂, hp, r₂⟩ := Json.exists_valuesOf_of_get hf (by decide) hp
  obtain ⟨v₃, he, r₃⟩ := Json.exists_valuesOf_of_get hf (by decide) he
  obtain ⟨v₄, hi, r₄⟩ := Json.exists_valuesOf_of_get hf (by decide) hi
  obtain ⟨v₅, hj, r₅⟩ := Json.exists_valuesOf_of_get hf (by decide) hj
  refine ⟨(Json.readMembers_of_readFields hf).1, ?_, ?_, ?_, ?_, ?_, ?_, ?_⟩
  · rw [hu, Json.readText_eq_ok_iff.1 r₁]
  · rw [hp, Json.readCode_eq_ok_iff.1 r₂]
  · rw [he, Json.readTime_eq_ok_iff.1 r₃]
  · rw [hi, Json.readTime_eq_ok_iff.1 r₄]
  · rw [hj, Json.readText_eq_ok_iff.1 r₅]
  · exact length_valuesOf_le_of_sound sound
  · exact fun v hv => isAudience_eq_false_of_valuesOf noAudience hv

/-- A token that is accepted has the signature of its first two parts, a header with the supported
algorithm and claims that pass every look at them. -/
theorem checks_of_verify {secret token : String} {now : Int} {c : Claims}
    (h : verify secret now token = .ok c) :
    ∃ head payload given d, IsCut token head payload given ∧ algorithm? head = some .hs256 ∧
      given = signature secret (head ++ '.' :: payload) ∧ document? payload = some d ∧
      d.read Claims.read = .ok c ∧ hasSoundClaims d.root = true ∧ namesAudience d.root = false ∧
      0 ≤ c.expires.toInt ∧ now ≤ c.expires.toInt := by
  unfold verify at h
  -- every check that fails ends in an error
  split at h
  · cases h
  rename_i head payload message given hparts
  obtain ⟨cut, rfl⟩ := parts?_eq_some_iff.1 hparts
  split at h
  · cases h
  rename_i algorithm
  split at h
  · cases h
  rename_i signed
  split at h
  · cases h
  rename_i d hd
  split at h
  · cases h
  rename_i claims hr
  split at h
  · cases h
  rename_i sound
  split at h
  · cases h
  rename_i fresh
  split at h
  · cases h
  rename_i noAudience
  cases h
  have hs : hasSoundClaims d.root = true ∧ ¬ c.expires < 0 := by simpa using sound
  have he : ¬ c.expires.toInt < 0 := fun he => hs.2 (Int64.lt_iff_toInt_lt.2 he)
  exact ⟨head, payload, given, d, cut, not_not.1 algorithm, not_not.1 signed, hd, hr, hs.1,
    by simpa using noAudience, by omega, by omega⟩

theorem signature_of_verify {secret token : String} {now : Int} {c : Claims}
    {head payload given : List Char} (h : verify secret now token = .ok c)
    (cut : IsCut token head payload given) : given = signature secret (head ++ '.' :: payload) := by
  obtain ⟨head', payload', given', -, cut', -, signed, -⟩ := checks_of_verify h
  have hp := (parts?_eq_some_iff.2 ⟨cut, rfl⟩).symm.trans (parts?_eq_some_iff.2 ⟨cut', rfl⟩)
  simp only [Option.some.injEq, Prod.mk.injEq] at hp
  obtain ⟨rfl, rfl, -, rfl⟩ := hp
  exact signed

/-- What is accepted is cut at its last two points into a header that names the one supported
algorithm, an object that the claims stand in, and the digest of both under the secret; the claims
have not ended. Two texts that are accepted differ before their signatures. -/
theorem accepted_only_if_signed (secret : String) :
    (∀ now token c, verify secret now token = .ok c →
      ∃ head payload given members ending, IsCut token head payload given ∧ NamesHmac head ∧
        given = Base64.encode Base64.urlSafe
          (Hmac.sha256 (utf8 secret) (Utf8.encode (head ++ '.' :: payload))) ∧
        document? payload = some ⟨.obj members ending, true⟩ ∧ ending ≠ .cut ∧
        c.StandIn members ∧ 0 ≤ c.expires.toInt ∧ now ≤ c.expires.toInt) ∧
    ∀ now now' token token' c c' head payload given given',
      verify secret now token = .ok c → verify secret now' token' = .ok c' →
      IsCut token head payload given → IsCut token' head payload given' → token = token' := by
  constructor
  · intro now token c h
    obtain ⟨head, payload, given, ⟨root, ends⟩, cut, algorithm, signed, hd, hr, sound, noAudience,
      start, stop⟩ := checks_of_verify h
    obtain ⟨hr, rfl⟩ := Json.Document.read_eq_ok_iff.1 hr
    cases root with
    | obj members ending =>
        obtain ⟨complete, stand⟩ := standIn_of_read hr sound noAudience
        exact ⟨head, payload, given, members, ending, cut, namesHmac_of_algorithm? algorithm,
          signed, hd, complete, stand, start, stop⟩
    | _ => cases sound
  · intro now now' token token' c c' head payload given given' h h' cut cut'
    have same : given = given' :=
      (signature_of_verify h cut).trans (signature_of_verify h' cut').symm
    subst same
    exact String.toList_inj.1 (cut.1.trans cut'.1.symm)

/-- In the second of its end a token is accepted, and it is no other than the one that has its
first two parts. -/
theorem accepted_at_end :
    let claims : Claims := ⟨"u", 1, 100, 0, "j"⟩
    verify "secret" 100 (sign "secret" claims) = .ok claims ∧
      (∃ head payload given members ending,
        IsCut (sign "secret" claims) head payload given ∧ NamesHmac head ∧
        given = Base64.encode Base64.urlSafe
          (Hmac.sha256 (utf8 "secret") (Utf8.encode (head ++ '.' :: payload))) ∧
        document? payload = some ⟨.obj members ending, true⟩ ∧ ending ≠ .cut ∧
        claims.StandIn members ∧ 0 ≤ claims.expires.toInt ∧ 100 ≤ claims.expires.toInt) ∧
      ∀ now token c given, verify "secret" now token = .ok c →
        IsCut token (part header.bytes) (part claims.toJson.bytes) given →
        token = sign "secret" claims := by
  intro claims
  have accepted : verify "secret" 100 (sign "secret" claims) = .ok claims := by
    rw [verify_sign]
    rfl
  refine ⟨accepted, (accepted_only_if_signed "secret").1 _ _ _ accepted, ?_⟩
  intro now token c given h cut
  exact (accepted_only_if_signed "secret").2 _ _ _ _ _ _ _ _ _ _ h accepted cut
    (parts?_eq_some_iff.1 (parts?_sign "secret" claims)).1

end Token

end Courier
