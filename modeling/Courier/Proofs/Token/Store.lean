import Courier.Token.Store

/-!
# Lookups in a token store

A lookup sees a record until the second at which it ends, so what an operation changes is told by
the state that is found at any later time: an issue makes the new token usable and kicks the others
of its client, a logout kicks them all, and a purge changes nothing.
-/

namespace Courier.TokenRecord

/-- The state of a record that may be missing or past its end. -/
def stateAt (r : Option TokenRecord) (now : Int) : TokenState :=
  ((r.filter (·.isLive now)).map state).getD .absent

variable {now : Int}

theorem state_ne_absent (r : TokenRecord) : r.state ≠ .absent := by
  cases h : r.kicked <;> simp [state, h]

theorem stateAt_some (r : TokenRecord) (now : Int) :
    stateAt (some r) now = if now < r.expires then r.state else .absent := by
  by_cases h : now < r.expires <;> simp [stateAt, isLive, Option.filter, h]

@[simp] theorem stateAt_none (now : Int) : stateAt none now = .absent := rfl

theorem stateAt_eq_absent_iff (r : Option TokenRecord) (now : Int) :
    stateAt r now = .absent ↔ r.filter (·.isLive now) = none := by
  rw [stateAt]
  cases h : r.filter (·.isLive now) with
  | none => simp
  | some r => simp [state_ne_absent r]

/-- A record that had ended before makes no difference later. -/
theorem stateAt_filter (h : m ≤ now) (r : Option TokenRecord) :
    stateAt (r.filter (·.isLive m)) now = stateAt r now := by
  cases r with
  | none => rfl
  | some r =>
      by_cases hm : r.isLive m = true
      · rw [Option.filter_some, if_pos hm]
      · have hn : ¬ now < r.expires := by
          simp only [isLive, decide_eq_true_eq] at hm
          omega
        rw [Option.filter_some, if_neg hm, stateAt_some, if_neg hn, stateAt_none]

theorem stateAt_kick (r : Option TokenRecord) (now : Int) :
    stateAt (r.map kick) now = (stateAt r now).onKick := by
  cases r with
  | none => rfl
  | some r =>
      have he : r.kick.expires = r.expires := rfl
      rw [Option.map_some, stateAt_some, stateAt_some, he, state_kick]
      split <;> rfl

theorem stateAt_kickUsable (h : m ≤ now) (r : Option TokenRecord) :
    stateAt (r.map (·.kickUsable m)) now = (stateAt r now).onKick := by
  cases r with
  | none => rfl
  | some r =>
      rw [← stateAt_kick]
      by_cases hk : r.kicked = true
      · have hu : r.isUsable m = false := by simp [isUsable, hk]
        have : r.kick = r := by
          cases r
          simp_all [kick]
        simp [kickUsable, hu, this]
      · by_cases hm : r.isLive m = true
        · simp [kickUsable, isUsable, hk, hm]
        · have hn : ¬ now < r.expires := by
            simp only [isLive, decide_eq_true_eq] at hm
            omega
          have he : r.kick.expires = r.expires := rfl
          simp [kickUsable, isUsable, hm, stateAt_some, he, hn]

/-- The record of a token that was not there is usable until it ends. -/
theorem stateAt_issue_none (h : 0 ≤ now) (expires : Int) :
    stateAt (some (issue none expires)) now = if now < expires then .normal else .absent := by
  have he : (issue none expires).expires = max expires 0 := rfl
  have hs : (issue none expires).state = .normal := rfl
  rw [stateAt_some, he, hs]
  by_cases hl : now < expires
  · rw [if_pos hl, if_pos (by omega)]
  · rw [if_neg hl, if_neg (by omega)]

end Courier.TokenRecord

namespace Courier.TokenStore

variable (s : TokenStore) {m now : Int} (c d : Client) (token other : String)

theorem lookup_eq (now : Int) :
    s.lookup now c token = TokenRecord.stateAt (s.record? c token) now := rfl

@[simp] theorem lookup_empty (now : Int) : (∅ : TokenStore).lookup now c token = .absent := rfl

/-- A token that was absent when it was issued is usable until it ends, and the other tokens of its
client are kicked. -/
theorem lookup_issue (h : m ≤ now) (hn : 0 ≤ now) (expires : Int)
    (absent : s.lookup m c token = .absent) :
    (s.issue m c token expires).2.lookup now d other =
      if d = c then
        if other = token then if now < expires then .normal else .absent
        else (s.lookup now c other).onKick
      else s.lookup now d other := by
  rw [lookup_eq, TokenRecord.stateAt_eq_absent_iff] at absent
  rw [lookup_eq, record?_issue]
  by_cases hd : d = c
  · by_cases ho : other = token
    · rw [if_pos hd, if_pos ho, if_pos hd, if_pos ho, absent, TokenRecord.stateAt_issue_none hn]
    · rw [if_pos hd, if_neg ho, if_pos hd, if_neg ho, TokenRecord.stateAt_kick,
        TokenRecord.stateAt_filter h, lookup_eq]
  · rw [if_neg hd, if_neg hd, lookup_eq]

/-- All tokens of a client that is logged out are kicked. -/
theorem lookup_kickAll (h : m ≤ now) :
    (s.kickAll m c).2.lookup now d other =
      if d = c then (s.lookup now c other).onKick else s.lookup now d other := by
  rw [lookup_eq, record?_kickAll]
  by_cases hd : d = c
  · rw [if_pos hd, if_pos hd, TokenRecord.stateAt_kickUsable h, lookup_eq]
  · rw [if_neg hd, if_neg hd, lookup_eq]

/-- The one usable token of a client is the one that it was issued last. -/
theorem lookup_issue_eq_normal_iff {expires : Int} (new : s.record? c token = none)
    (hp : other = token → 0 ≤ expires) :
    (s.issue m c token expires).2.lookup now d other = .normal ↔
      if d = c then other = token ∧ now < expires else s.lookup now d other = .normal := by
  rw [lookup_eq, record?_issue]
  by_cases hd : d = c
  · rw [if_pos hd, if_pos hd]
    by_cases ho : other = token
    · have he : (TokenRecord.issue none expires).expires = expires := Int.max_eq_left (hp ho)
      rw [if_pos ho, new, Option.filter_none, TokenRecord.stateAt_some, he]
      by_cases hn : now < expires
      · rw [if_pos hn]
        exact ⟨fun _ => ⟨ho, hn⟩, fun _ => rfl⟩
      · simp [hn]
    · rw [if_neg ho, TokenRecord.stateAt_kick]
      exact ⟨fun h => absurd h (TokenState.onKick_ne_normal _), fun h => absurd h.1 ho⟩
  · rw [if_neg hd, if_neg hd, lookup_eq]

/-- A client that is logged out has no usable token. -/
theorem lookup_kickAll_eq_normal_iff (h : m ≤ now) :
    (s.kickAll m c).2.lookup now d other = .normal ↔
      d ≠ c ∧ s.lookup now d other = .normal := by
  rw [lookup_kickAll s c d other h]
  split
  · exact ⟨fun hk => absurd hk (TokenState.onKick_ne_normal _), fun hk => absurd ‹_› hk.1⟩
  · exact ⟨fun hk => ⟨‹_›, hk⟩, And.right⟩

/-- No lookup notices a purge. -/
theorem lookup_purge (h : m ≤ now) :
    (s.purge m).2.lookup now c token = s.lookup now c token := by
  rw [lookup_eq, record?_purge, TokenRecord.stateAt_filter h, lookup_eq]

end Courier.TokenStore
