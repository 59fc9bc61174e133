import Courier.Proofs.Token.Store

/-!
# Kicked tokens stay kicked

A run carries out operations on a token store, each at a time of its own. Whatever it does, it takes
no kicked token back before its record ends, and never lets that record end earlier. Main statement:
from a kick on, every lookup finds the token kicked until the record that was there, or else the
tombstone, comes to its end.
-/

namespace Courier

/-- An operation on a store of tokens. -/
inductive TokenOperation where
  | issue (c : Client) (token : String) (expires : Int)
  | kick (c : Client) (token : String)
  | kickAll (c : Client)
  | lookup (c : Client) (token : String)
  | tokens (c : Client)
  | purge
  deriving DecidableEq, Repr

namespace TokenStore

/-- What an operation at a time leaves of a store whose tombstones end after a span. -/
def operate (tombstone : UInt64) (s : TokenStore) (now : Int) : TokenOperation → TokenStore
  | .issue c token expires => (s.issue now c token expires).2
  | .kick c token => (s.kick now tombstone c token).2
  | .kickAll c => (s.kickAll now c).2
  | .lookup .. | .tokens _ => s
  | .purge => (s.purge now).2

/-- What operations leave that are carried out in order, each at its time. -/
def operateAll (tombstone : UInt64) (s : TokenStore) (run : List (Int × TokenOperation)) :
    TokenStore :=
  run.foldl (fun s x => s.operate tombstone x.1 x.2) s

/-- The second until which a token is kicked by a kick at a time: the end of a record that has not
ended by then, or else the end of a tombstone. -/
def deadline (tombstone : UInt64) (s : TokenStore) (now : Int) (c : Client) (token : String) :
    Int :=
  (((s.record? c token).filter (·.isLive now)).map TokenRecord.expires).getD
    (now + tombstone.toNat)

/-- Whether a token is barred until a second: its record is kicked and ends no earlier. -/
def IsBarred (s : TokenStore) (c : Client) (token : String) (ends : Int) : Prop :=
  ∃ r, s.record? c token = some r ∧ r.kicked = true ∧ ends ≤ r.expires

variable {s : TokenStore} {m now ends : Int} {c : Client} {token : String} {r : TokenRecord}

/-- What a lookup finds kicked has a kicked record that has not ended. -/
theorem lookup_eq_kicked_iff :
    s.lookup now c token = .kicked ↔
      ∃ ends, s.record? c token = some ⟨true, ends⟩ ∧ now < ends := by
  rw [lookup_eq]
  constructor
  · intro h
    cases hr : s.record? c token with
    | none => simp [hr] at h
    | some r =>
        rw [hr, TokenRecord.stateAt_some] at h
        split at h
        · rename_i hn
          obtain ⟨kicked, ends⟩ := r
          cases kicked with
          | true => exact ⟨ends, rfl, hn⟩
          | false => cases h
        · cases h
  · rintro ⟨ends, hr, hn⟩
    rw [hr, TokenRecord.stateAt_some, if_pos hn]
    rfl

theorem IsBarred.lookup_eq (h : s.IsBarred c token ends) (hn : now < ends) :
    s.lookup now c token = .kicked := by
  obtain ⟨⟨kicked, expires⟩, hr, rfl, he⟩ := h
  exact lookup_eq_kicked_iff.2 ⟨expires, hr, Int.lt_of_lt_of_le hn he⟩

/-- An operation lets no record that has not ended end earlier, and takes no kicked token back. -/
theorem exists_record?_operate (tombstone : UInt64) (hr : s.record? c token = some r)
    (live : r.isLive m = true) (op : TokenOperation) :
    ∃ q, (s.operate tombstone m op).record? c token = some q ∧ r.expires ≤ q.expires ∧
      (r.kicked = true → q.kicked = true) := by
  have hl : (s.record? c token).filter (·.isLive m) = some r := by
    rw [hr, Option.filter_some, if_pos live]
  cases op with
  | issue d other expires =>
      have h := s.record?_issue m d c other token expires
      by_cases hd : c = d
      · subst hd
        by_cases ht : token = other
        · subst ht
          rw [if_pos rfl, if_pos rfl, hl] at h
          exact ⟨_, h, Int.le_max_right expires r.expires, id⟩
        · rw [if_pos rfl, if_neg ht, hl] at h
          exact ⟨_, h, Int.le_refl _, fun _ => rfl⟩
      · rw [if_neg hd, hr] at h
        exact ⟨r, h, Int.le_refl _, id⟩
  | kick d other =>
      have h := s.record?_kick m d c other token tombstone
      by_cases hd : c = d ∧ token = other
      · obtain ⟨rfl, rfl⟩ := hd
        rw [if_pos ⟨rfl, rfl⟩, hl] at h
        exact ⟨_, h, Int.le_refl _, fun _ => rfl⟩
      · rw [if_neg hd, hr] at h
        exact ⟨r, h, Int.le_refl _, id⟩
  | kickAll d =>
      have h := s.record?_kickAll m d c token
      by_cases hd : c = d
      · subst hd
        rw [if_pos rfl, hr, Option.map_some] at h
        refine ⟨_, h, ?_, ?_⟩ <;> unfold TokenRecord.kickUsable <;> split
        · exact Int.le_refl _
        · exact Int.le_refl _
        · exact fun _ => rfl
        · exact id
      · rw [if_neg hd, hr] at h
        exact ⟨r, h, Int.le_refl _, id⟩
  | lookup d other => exact ⟨r, hr, Int.le_refl _, id⟩
  | tokens d => exact ⟨r, hr, Int.le_refl _, id⟩
  | purge => exact ⟨r, (s.record?_purge m c token).trans hl, Int.le_refl _, id⟩

/-- A token is still barred after an operation that comes before the end. -/
theorem IsBarred.operate (h : s.IsBarred c token ends) (tombstone : UInt64) (hm : m < ends)
    (op : TokenOperation) : (s.operate tombstone m op).IsBarred c token ends := by
  obtain ⟨r, hr, hk, he⟩ := h
  have live : r.isLive m = true := decide_eq_true (Int.lt_of_lt_of_le hm he)
  obtain ⟨q, hq, hle, hkq⟩ := exists_record?_operate tombstone hr live op
  exact ⟨q, hq, hkq hk, Int.le_trans he hle⟩

/-- A token is still barred after a run before the end. -/
theorem IsBarred.operateAll (h : s.IsBarred c token ends) (tombstone : UInt64)
    {run : List (Int × TokenOperation)} (hm : ∀ x ∈ run, x.1 < ends) :
    (s.operateAll tombstone run).IsBarred c token ends := by
  induction run generalizing s with
  | nil => exact h
  | cons x run ih =>
      have hx := h.operate tombstone (hm x List.mem_cons_self) x.2
      exact ih hx fun y hy => hm y (List.mem_cons_of_mem x hy)

/-- Only a kick of the token itself makes one kicked that has no record, or one that has ended. -/
theorem lookup_operate_ne_kicked (tombstone : UInt64) (absent : s.lookup m c token = .absent)
    {op : TokenOperation} (hop : op ≠ .kick c token) :
    (s.operate tombstone m op).lookup m c token ≠ .kicked := by
  have hn : (s.record? c token).filter (·.isLive m) = none :=
    (TokenRecord.stateAt_eq_absent_iff _ m).1 absent
  have unnoticed : ∀ {t : TokenStore}, t.record? c token = s.record? c token →
      t.lookup m c token ≠ .kicked := by
    intro t ht
    rw [lookup_eq, ht, ← lookup_eq, absent]
    simp
  cases op with
  | issue d other expires =>
      have h := s.record?_issue m d c other token expires
      by_cases hd : c = d
      · subst hd
        by_cases ht : token = other
        · subst ht
          rw [if_pos rfl, if_pos rfl, hn] at h
          rw [lookup_eq, operate, h, TokenRecord.stateAt_some]
          split <;> simp [TokenRecord.issue, TokenRecord.state]
        · rw [if_pos rfl, if_neg ht, hn] at h
          rw [lookup_eq, operate, h]
          simp
      · exact unnoticed (h.trans (if_neg hd))
  | kick d other =>
      refine unnoticed ((s.record?_kick m d c other token tombstone).trans (if_neg ?_))
      rintro ⟨rfl, rfl⟩
      exact hop rfl
  | kickAll d =>
      rw [operate, lookup_kickAll s d c token (Int.le_refl m)]
      split
      · rename_i hd
        subst hd
        rw [absent]
        simp [TokenState.onKick]
      · exact unnoticed rfl
  | lookup d other => exact unnoticed rfl
  | tokens d => exact unnoticed rfl
  | purge =>
      rw [operate, lookup_purge s c token (Int.le_refl m)]
      exact unnoticed rfl

/-- A kick bars a token until the deadline. -/
theorem record?_kick_self {tombstone : UInt64} (least : -9223372036854775808 ≤ m)
    (fits : m + tombstone.toNat ≤ 9223372036854775807) :
    (s.operate tombstone m (.kick c token)).record? c token =
      some ⟨true, s.deadline tombstone m c token⟩ := by
  rw [operate, record?_kick, if_pos ⟨rfl, rfl⟩, deadline,
    Clock.after_eq least (Int.lt_add_one_iff.2 fits)]
  cases (s.record? c token).filter (·.isLive m) <;> rfl

/-- An operation after which a token is found kicked bars it until the deadline at least. -/
theorem exists_ends_of_kicked {tombstone : UInt64} (least : -9223372036854775808 ≤ m)
    (fits : m + tombstone.toNat ≤ 9223372036854775807) {op : TokenOperation}
    (hk : op = .kick c token ∨ (s.operate tombstone m op).lookup m c token = .kicked) :
    ∃ ends, (s.operate tombstone m op).record? c token = some ⟨true, ends⟩ ∧
      s.deadline tombstone m c token ≤ ends := by
  by_cases hop : op = .kick c token
  · subst hop
    exact ⟨_, record?_kick_self least fits, Int.le_refl _⟩
  · have hl := hk.resolve_left hop
    obtain ⟨ends, he, hn⟩ := lookup_eq_kicked_iff.1 hl
    refine ⟨ends, he, ?_⟩
    cases hr : (s.record? c token).filter (·.isLive m) with
    | none =>
        have absent := (TokenRecord.stateAt_eq_absent_iff _ m).2 hr
        exact absurd hl (lookup_operate_ne_kicked tombstone absent hop)
    | some r =>
        obtain ⟨hr', live⟩ := Option.filter_eq_some_iff.1 hr
        obtain ⟨q, hq, hle, -⟩ := exists_record?_operate tombstone hr' live op
        rw [he] at hq
        cases hq
        rw [deadline, hr]
        exact hle

/-- Whatever a run does before and afterwards, a token that one of its operations kicks, or leaves
kicked, is found kicked until its record ends: the one that had not ended by then, or the tombstone
of a token that had none. -/
theorem lookup_eq_kicked_until (tombstone : UInt64) (s : TokenStore)
    (before after : List (Int × TokenOperation)) (time : Int) (op : TokenOperation) (c : Client)
    (token : String) (now : Int)
    (forward : ((before ++ (time, op) :: after).map Prod.fst ++ [now]).Pairwise (· ≤ ·))
    (least : -9223372036854775808 ≤ time)
    (fits : time + tombstone.toNat ≤ 9223372036854775807) :
    let t := s.operateAll tombstone before
    let u := t.operate tombstone time op
    op = .kick c token ∨ u.lookup time c token = .kicked →
      ∃ ends, u.record? c token = some ⟨true, ends⟩ ∧ t.deadline tombstone time c token ≤ ends ∧
        (now < ends →
          (s.operateAll tombstone (before ++ (time, op) :: after)).lookup now c token =
            .kicked) := by
  intro t u hk
  obtain ⟨ends, hu, hd⟩ := exists_ends_of_kicked least fits hk
  refine ⟨ends, hu, hd, fun hn => ?_⟩
  have hb : u.IsBarred c token ends := ⟨_, hu, rfl, Int.le_refl _⟩
  have hm : ∀ x ∈ after, x.1 < ends := by
    intro x hx
    have hle : x.1 ≤ now := (List.pairwise_append.1 forward).2.2 x.1
      (List.mem_map_of_mem (List.mem_append_right _ (List.mem_cons_of_mem _ hx))) now
      (List.mem_singleton_self now)
    exact Int.lt_of_le_of_lt hle hn
  rw [operateAll, List.foldl_append, List.foldl_cons]
  exact (hb.operateAll tombstone hm).lookup_eq hn

/-- A token that is kicked before it is issued is not let in while its tombstone stands, though it
is issued twice and all that had ended is purged. -/
theorem lookup_kicked_before_issue :
    let c : Client := ⟨"u", 1⟩
    let kick : TokenOperation := .kick c "token"
    let before : List (Int × TokenOperation) := [(90, .issue c "other" 95)]
    let after : List (Int × TokenOperation) :=
      [(101, .issue c "token" 500), (102, .purge), (103, .issue c "other" 600),
        (104, .issue c "token" 50)]
    ((before ++ (100, kick) :: after).map Prod.fst ++ [109]).Pairwise (· ≤ ·) ∧
      ((∅ : TokenStore).operateAll 10 before).deadline 10 100 c "token" = 110 ∧
      ((∅ : TokenStore).operateAll 10 (before ++ (100, kick) :: after)).lookup 109 c "token" =
        .kicked := by
  intro c kick before after
  have forward : ((before ++ (100, kick) :: after).map Prod.fst ++ [109]).Pairwise (· ≤ ·) := by
    decide
  have hd : ((∅ : TokenStore).operateAll 10 before).deadline 10 100 c "token" = 110 := by decide
  obtain ⟨ends, -, hle, hl⟩ := lookup_eq_kicked_until 10 ∅ before after 100 kick c "token" 109
    forward (by decide) (by decide) (.inl rfl)
  exact ⟨forward, hd, hl (by omega)⟩

end TokenStore

end Courier
