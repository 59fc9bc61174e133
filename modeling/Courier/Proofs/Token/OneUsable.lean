import Courier.Proofs.Table
import Courier.Proofs.Token.Kicked
import Mathlib.Data.Set.Card

/-!
# One usable token for each client

Whatever is done to a token store, and whatever the clock shows, a client has at most one record
that is not kicked, and be it one that has ended. Main statement: the number that an issue or a
logout tells is the number of tokens that it kicks, which is one at most, and no other client
notices.
-/

namespace Courier

/-- A row without repeats has as many members as places. -/
theorem encard_mem_of_nodup {α : Type} [DecidableEq α] {l : List α} (h : l.Nodup) :
    {x | x ∈ l}.encard = l.length := by
  rw [← List.toFinset_card_of_nodup h, ← Set.encard_coe_eq_coe_finsetCard, List.coe_toFinset]

/-- The keys of a table are as many as its size says. -/
theorem Table.encard_keys {κ ν : Type} [DecidableEq κ] (t : Table κ ν) :
    {k | k ∈ t.keys}.encard = t.size := by
  rw [← length_keys]
  exact encard_mem_of_nodup t.nodup

namespace TokenStore

/-- The tokens of a client with a record that is not kicked, whether or not it has ended. -/
def unkicked (s : TokenStore) (c : Client) : Set String :=
  {token | ∃ r, s.record? c token = some r ∧ r.state = .normal}

/-- The tokens of a client that are found usable at a time in one store and kicked in the next. -/
def newlyKicked (s t : TokenStore) (now : Int) (c : Client) : Set String :=
  {token | s.lookup now c token = .normal ∧ t.lookup now c token = .kicked}

/-- Whether a number tells how many tokens of a client, one at most, are kicked from one store to the
next, and no other client notices. -/
structure IsHonest (s t : TokenStore) (now : Int) (c : Client) (n : Nat) : Prop where
  told : (newlyKicked s t now c).encard = n
  atMostOne : n ≤ 1
  others : ∀ d, d ≠ c → ∀ later token, t.lookup later d token = s.lookup later d token

variable {s t : TokenStore} {m now : Int} {c d : Client} {token : String}

/-! ### At most one -/

/-- An operation leaves a client no unkicked token that it did not have, except one that it is
issued, which is then the only one. -/
theorem unkicked_operate (tombstone : UInt64) (s : TokenStore) (m : Int) (op : TokenOperation)
    (c : Client) :
    (s.operate tombstone m op).unkicked c ⊆ s.unkicked c ∨
      ∃ token, (s.operate tombstone m op).unkicked c ⊆ {token} := by
  cases op with
  | issue d token expires =>
      by_cases hd : c = d
      · right
        refine ⟨token, ?_⟩
        rintro other ⟨r, hr, hn⟩
        rw [operate, record?_issue, if_pos hd] at hr
        by_cases ho : other = token
        · exact ho
        · rw [if_neg ho] at hr
          obtain ⟨q, -, rfl⟩ := Option.map_eq_some_iff.1 hr
          cases hn
      · left
        rintro other ⟨r, hr, hn⟩
        rw [operate, record?_issue, if_neg hd] at hr
        exact ⟨r, hr, hn⟩
  | kick d token =>
      left
      rintro other ⟨r, hr, hn⟩
      rw [operate, record?_kick] at hr
      split at hr
      · cases hl : (s.record? d token).filter (·.isLive m) <;> rw [hl] at hr <;> cases hr <;>
          cases hn
      · exact ⟨r, hr, hn⟩
  | kickAll d =>
      left
      rintro other ⟨r, hr, hn⟩
      rw [operate, record?_kickAll] at hr
      split at hr
      · rename_i hd
        obtain ⟨q, hq, rfl⟩ := Option.map_eq_some_iff.1 hr
        refine ⟨q, hd ▸ hq, ?_⟩
        unfold TokenRecord.kickUsable at hn
        split at hn
        · cases hn
        · exact hn
      · exact ⟨r, hr, hn⟩
  | lookup d token => exact .inl subset_rfl
  | tokens d => exact .inl subset_rfl
  | purge =>
      left
      rintro other ⟨r, hr, hn⟩
      rw [operate, record?_purge] at hr
      exact ⟨r, (Option.filter_eq_some_iff.1 hr).1, hn⟩

theorem subsingleton_unkicked_operate (tombstone : UInt64)
    (h : ∀ c, (s.unkicked c).Subsingleton) (m : Int) (op : TokenOperation) (c : Client) :
    ((s.operate tombstone m op).unkicked c).Subsingleton := by
  rcases unkicked_operate tombstone s m op c with hs | ⟨token, ht⟩
  · exact (h c).anti hs
  · exact Set.subsingleton_singleton.anti ht

/-- No run leaves a client two tokens that are not kicked. -/
theorem subsingleton_unkicked_operateAll (tombstone : UInt64)
    (h : ∀ c, (s.unkicked c).Subsingleton) (run : List (Int × TokenOperation)) (c : Client) :
    ((s.operateAll tombstone run).unkicked c).Subsingleton := by
  induction run generalizing s with
  | nil => exact h c
  | cons x run ih => exact ih (subsingleton_unkicked_operate tombstone h x.1 x.2)

theorem unkicked_empty (c : Client) : ((∅ : TokenStore).unkicked c).Subsingleton := by
  rintro token ⟨r, hr, -⟩
  cases hr

/-! ### What is told -/

theorem lookup_eq_normal_iff :
    s.lookup now c token = .normal ↔
      ∃ r, s.record? c token = some r ∧ r.isUsable now = true := by
  rw [lookup_eq]
  cases hr : s.record? c token with
  | none => simp
  | some r =>
      rw [TokenRecord.stateAt_some]
      obtain ⟨kicked, ends⟩ := r
      by_cases hn : now < ends <;> cases kicked <;>
        simp [TokenRecord.isUsable, TokenRecord.isLive, TokenRecord.state, hn]

theorem newlyKicked_subset (s t : TokenStore) (now : Int) (c : Client) :
    newlyKicked s t now c ⊆ s.unkicked c := by
  rintro token ⟨hn, -⟩
  obtain ⟨r, hr, hu⟩ := lookup_eq_normal_iff.1 hn
  have hk : r.kicked = false := by
    simp only [TokenRecord.isUsable, Bool.and_eq_true, Bool.not_eq_true'] at hu
    exact hu.2
  exact ⟨r, hr, by simp [TokenRecord.state, hk]⟩

/-- An issue kicks the other usable tokens of its client. -/
theorem newlyKicked_issue (s : TokenStore) (now : Int) (c : Client) (token : String)
    (expires : Int) :
    newlyKicked s (s.issue now c token expires).2 now c =
      {other | other ∈ ((s.records c).filter fun t r => t ≠ token && r.isUsable now).keys} := by
  ext other
  rw [newlyKicked, Set.mem_ofPred_eq, Set.mem_ofPred_eq, Table.mem_keys_filter_iff,
    lookup_eq_normal_iff]
  change (∃ r, s.record? c other = some r ∧ _) ∧ _ ↔ ∃ r, s.record? c other = some r ∧ _
  rw [lookup_eq, record?_issue, if_pos rfl]
  by_cases ho : other = token
  · subst ho
    constructor
    · rintro ⟨⟨r, hr, hu⟩, hk⟩
      -- the token itself stays usable
      simp only [TokenRecord.isUsable, Bool.and_eq_true, Bool.not_eq_true'] at hu
      rw [if_pos rfl, hr, Option.filter_some, if_pos hu.1, TokenRecord.stateAt_some,
        TokenRecord.state_issue] at hk
      split at hk <;> simp [TokenRecord.state, hu.2, TokenState.onIssue] at hk
    · rintro ⟨r, -, hu⟩
      simp at hu
  · rw [if_neg ho, TokenRecord.stateAt_kick, TokenRecord.stateAt_filter (Int.le_refl now),
      ← lookup_eq]
    constructor
    · rintro ⟨⟨r, hr, hu⟩, -⟩
      exact ⟨r, hr, by simp [ho, hu]⟩
    · rintro ⟨r, hr, hu⟩
      have hu : r.isUsable now = true := by simpa [ho] using hu
      have hn := lookup_eq_normal_iff.2 ⟨r, hr, hu⟩
      rw [hn]
      exact ⟨⟨r, hr, hu⟩, rfl⟩

/-- A logout kicks the usable tokens of its client. -/
theorem newlyKicked_kickAll (s : TokenStore) (now : Int) (c : Client) :
    newlyKicked s (s.kickAll now c).2 now c =
      {other | other ∈ ((s.records c).filter fun _ r => r.isUsable now).keys} := by
  ext other
  rw [newlyKicked, Set.mem_ofPred_eq, Set.mem_ofPred_eq, Table.mem_keys_filter_iff,
    lookup_kickAll _ _ _ _ (Int.le_refl now), if_pos rfl]
  constructor
  · rintro ⟨hn, -⟩
    exact lookup_eq_normal_iff.1 hn
  · intro hu
    have hn := lookup_eq_normal_iff.2 hu
    rw [hn]
    exact ⟨rfl, rfl⟩

/-- What is told is at most one where a client has no two tokens that are not kicked. -/
theorem isHonest_of_told {n : Nat} (h : (s.unkicked c).Subsingleton)
    (told : (newlyKicked s t now c).encard = n)
    (others : ∀ d, d ≠ c → ∀ later token, t.lookup later d token = s.lookup later d token) :
    IsHonest s t now c n where
  told := told
  atMostOne := by
    have hs := Set.encard_le_one_iff_subsingleton.2 (h.anti (newlyKicked_subset s t now c))
    rw [told] at hs
    exact_mod_cast hs
  others := others

/-- After any run on an empty store, at whatever times, no client has two tokens that are not kicked,
and an issue or a logout tells how many tokens it kicks. -/
theorem isHonest_after_run (tombstone : UInt64) (run : List (Int × TokenOperation)) (now : Int)
    (c : Client) :
    let s := (∅ : TokenStore).operateAll tombstone run
    (∀ d, (s.unkicked d).Subsingleton) ∧
      (∀ token expires, IsHonest s (s.issue now c token expires).2 now c
        (s.issue now c token expires).1) ∧
      IsHonest s (s.kickAll now c).2 now c (s.kickAll now c).1 := by
  intro s
  have hs : ∀ d, (s.unkicked d).Subsingleton :=
    subsingleton_unkicked_operateAll tombstone unkicked_empty run
  refine ⟨hs, fun token expires => ?_, ?_⟩
  · refine isHonest_of_told (hs c) ?_ fun d hd later other => ?_
    · rw [newlyKicked_issue, Table.encard_keys]
      rfl
    · rw [lookup_eq, record?_issue, if_neg hd, lookup_eq]
  · refine isHonest_of_told (hs c) ?_ fun d hd later other => ?_
    · rw [newlyKicked_kickAll, Table.encard_keys]
      rfl
    · rw [lookup_eq, record?_kickAll, if_neg hd, lookup_eq]

end TokenStore

end Courier
