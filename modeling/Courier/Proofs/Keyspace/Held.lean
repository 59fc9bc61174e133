import Courier.Proofs.Keyspace.Keys
import Courier.Proofs.Keyspace.Tombstone

/-!
# What tokens a keyspace holds

Where all tokens are issued for one span, and none is kicked that was not issued, only states of
issued tokens stand in a keyspace, and no key ends later than a span from now. Main statements: a
token that is issued next stands under the key of its client exactly until it ends itself, and is
then the only usable one there; a client that is logged out has none.
-/

namespace Courier.Keyspace.Tokens

/-- Whether only the states of known tokens stand in a keyspace, all with an end that does not come
after the latest. -/
def HoldsTokens (known : List String) (latest : Int) (k : Keyspace) : Prop :=
  ∀ key e, k.entries.get? key = some e → ∃ t second, e = ⟨.fields t, some second⟩ ∧
    second ≤ latest ∧ ∀ token value, t.get? token = some value →
      token ∈ known ∧ (value = usable ∨ value = kicked)

/-- Whether a client's token stands in a keyspace as usable at a time. -/
def IsUsable (k : Keyspace) (now : Int) (c : Client) (token : String) : Prop :=
  (k.shelf now (tokenKey c)).1.get? token = some usable

variable {known : List String} {m now latest span : Int} {k : Keyspace} {c d : Client}
  {key token other : String}

theorem kick_value {value : String} (h : value = usable ∨ value = kicked) :
    (if value = usable then kicked else value) = kicked := by
  rcases h with rfl | rfl
  · rw [if_pos rfl]
  · rw [if_neg kicked_ne_usable]

/-- A value that is kicked is not the one of usable tokens. -/
theorem map_kick_ne_usable (value : Option String) :
    (value.map fun v => if v = usable then kicked else v) ≠ some usable := by
  cases value with
  | none => simp
  | some v => by_cases hv : v = usable <;> simp [hv, kicked_ne_usable]

namespace HoldsTokens

theorem empty : HoldsTokens known latest ∅ := by
  intro key e he
  cases he

theorem mono (h : HoldsTokens known latest k) {more : List String} (hk : known ⊆ more)
    {later : Int} (hl : latest ≤ later) : HoldsTokens more later k := by
  intro key e he
  obtain ⟨t, second, rfl, hs, hv⟩ := h key e he
  exact ⟨t, second, rfl, Int.le_trans hs hl, fun token value hg =>
    ⟨hk (hv token value hg).1, (hv token value hg).2⟩⟩

theorem isFielded (h : HoldsTokens known latest k) (now : Int) (key : String) :
    k.IsFielded now key := by
  refine HoldsFields.isFielded (fun key e he => ?_) now key
  obtain ⟨t, second, rfl, -⟩ := h key e he
  exact ⟨t, rfl⟩

theorem put (h : HoldsTokens known latest k) {t : Table String String} {second : Int}
    (hs : second ≤ latest)
    (hv : ∀ token value, t.get? token = some value →
      token ∈ known ∧ (value = usable ∨ value = kicked)) :
    HoldsTokens known latest (k.put key ⟨.fields t, some second⟩) := by
  intro other e he
  rw [get?_entries_put] at he
  split at he
  · cases he
    exact ⟨t, second, rfl, hs, hv⟩
  · exact h other e he

/-- Under a key stands nothing, or what has an end and holds states of known tokens. -/
theorem shelf_cases (h : HoldsTokens known latest k) (now : Int) (key : String) :
    k.shelf now key = (∅, none) ∨ ∃ t second, k.shelf now key = (t, some second) ∧
      second ≤ latest ∧ ∀ token value, t.get? token = some value →
        token ∈ known ∧ (value = usable ∨ value = kicked) := by
  rcases Keyspace.shelf_cases k now key with hs | hg
  · exact .inl hs
  · obtain ⟨t, second, he, hrest⟩ := h key _ hg
    obtain ⟨ht, hsec⟩ := Entry.mk.inj he
    refine .inr ⟨t, second, ?_, hrest⟩
    rw [← Content.fields.inj ht, ← hsec]

theorem get?_shelf (h : HoldsTokens known latest k) {value : String}
    (hv : (k.shelf now key).1.get? token = some value) :
    token ∈ known ∧ (value = usable ∨ value = kicked) := by
  rcases h.shelf_cases now key with hs | ⟨t, second, hs, -, ht⟩
  · rw [hs] at hv
    cases hv
  · rw [hs] at hv
    exact ht token value hv

/-- A token is looked up as usable if its value is the one of usable tokens. -/
theorem lookup_eq_normal_iff (h : HoldsTokens known latest k) :
    ((lookup c token).on now k).1 = .ok .normal ↔ IsUsable k now c token := by
  rw [lookup_on (h.isFielded now _), IsUsable]
  cases hv : (k.shelf now (tokenKey c)).1.get? token with
  | none => simp
  | some value =>
      rcases (h.get?_shelf hv).2 with rfl | rfl
      · simp [stateOf_usable]
      · simp [stateOf_kicked, kicked_ne_usable]

/-- No token of a client ends later than one that is issued last. -/
theorem prolonged_eq (h : HoldsTokens known (m + span) k) (positive : 0 < span)
    (taken : accepts m span = true) :
    prolonged m span span (k.shelf m key).2 = some (m + span) := by
  rw [prolonged]
  split
  · rfl
  · rename_i hr
    have hl : ¬ left m (k.shelf m key).2 < span := fun hlt => hr ⟨hlt, taken⟩
    rcases h.shelf_cases m key with hs | ⟨t, second, hs, hle, -⟩
    · rw [hs] at hl
      exact absurd (show -1 < span by omega) hl
    · rw [hs] at hl ⊢
      have : ¬ second - m < span := hl
      rw [show second = m + span by omega]

/-- A token that is issued for the span of all others stands under the key of its client until it
ends. -/
theorem issue_on (h : HoldsTokens known (m + span) k) (positive : 0 < span)
    (small : span < 9223372036854775808) (taken : accepts m span = true) (c : Client)
    (token : String) :
    (issue m c token (m + span)).on m k =
      (.ok ((k.shelf m (tokenKey c)).1.filter (isOther token)).size,
        k.put (tokenKey c)
          ⟨.fields (issued (k.shelf m (tokenKey c)).1 token), some (m + span)⟩) := by
  have hs : max (Clock.word (m + span - m)) 1 = span := by
    rw [Clock.word_eq (by omega) (by omega)]
    omega
  rw [Tokens.issue_on (h.isFielded m _), hs]
  dsimp only
  rw [if_neg (not_refused taken), h.prolonged_eq positive taken]

/-- Beside a token that is issued stand the other tokens of its client, kicked. -/
theorem put_issued (h : HoldsTokens known (m + span) k) (c : Client) (token : String) :
    HoldsTokens (known ++ [token]) (m + span) (k.put (tokenKey c)
      ⟨.fields (issued (k.shelf m (tokenKey c)).1 token), some (m + span)⟩) := by
  refine (h.mono (List.subset_append_left _ _) (Int.le_refl _)).put (Int.le_refl _) ?_
  intro other value hv
  rw [get?_issued] at hv
  split at hv
  · rename_i ho
    cases hv
    refine ⟨by simp [ho], ?_⟩
    split
    · exact .inr rfl
    · exact .inl rfl
  · obtain ⟨v, hg, rfl⟩ := Option.map_eq_some_iff.1 hv
    obtain ⟨hk, hu⟩ := h.get?_shelf hg
    exact ⟨List.mem_append_left _ hk, .inr (kick_value hu)⟩

theorem isUsable_put_issued_iff (h : HoldsTokens known (m + span) k) (new : token ∉ known) :
    IsUsable (k.put (tokenKey c)
        ⟨.fields (issued (k.shelf m (tokenKey c)).1 token), some (m + span)⟩) now d other ↔
      if d = c then other = token ∧ now < m + span else IsUsable k now d other := by
  unfold IsUsable
  by_cases hd : d = c
  · subst hd
    have hg : (k.shelf m (tokenKey d)).1.get? token ≠ some kicked := fun hg =>
      new (h.get?_shelf hg).1
    rw [if_pos rfl, shelf_put_self]
    by_cases hn : now < m + span
    · rw [if_pos hn, get?_issued, if_neg hg]
      by_cases ho : other = token
      · simp [ho, hn]
      · rw [if_neg ho]
        exact ⟨fun hu => absurd hu (map_kick_ne_usable _), fun hu => absurd hu.1 ho⟩
    · simp [hn]
  · rw [if_neg hd, shelf_put_of_ne fun hk => hd (tokenKey_injective hk)]

theorem kickAll (h : HoldsTokens known latest k) (m : Int) (c : Client) :
    HoldsTokens known latest ((Tokens.kickAll c).on m k).2 := by
  rw [kickAll_on (h.isFielded m _)]
  dsimp only
  split
  · exact h
  · rename_i he
    rcases h.shelf_cases m (tokenKey c) with hs | ⟨t, second, hs, hle, hv⟩
    · rw [hs] at he
      exact absurd rfl he
    · rw [hs]
      refine h.put hle fun token value hg => ?_
      rw [Table.get?_mapValues] at hg
      obtain ⟨v, ht, rfl⟩ := Option.map_eq_some_iff.1 hg
      exact ⟨(hv token v ht).1, .inr (kick_value (hv token v ht).2)⟩

theorem isUsable_kickAll_iff (h : HoldsTokens known latest k) (hn : m ≤ now) :
    IsUsable ((Tokens.kickAll c).on m k).2 now d token ↔ d ≠ c ∧ IsUsable k now d token := by
  rw [kickAll_on (h.isFielded m _)]
  dsimp only
  by_cases hd : d = c
  · subst hd
    refine ⟨fun hu => ?_, fun hu => absurd rfl hu.1⟩
    split at hu
    · rename_i he
      -- what had ended by the logout does not come back
      have hm := get?_shelf_of_le hn hu
      rw [Table.get?_of_isEmpty he] at hm
      cases hm
    · rename_i he
      rcases h.shelf_cases m (tokenKey d) with hs | ⟨t, second, hs, -, -⟩
      · rw [hs] at he
        exact absurd rfl he
      · rw [IsUsable, hs, shelf_put_self] at hu
        split at hu
        · rw [Table.get?_mapValues] at hu
          exact absurd hu (map_kick_ne_usable _)
        · cases hu
  · have hk : tokenKey d ≠ tokenKey c := fun hk => hd (tokenKey_injective hk)
    split
    · exact ⟨fun hu => ⟨hd, hu⟩, And.right⟩
    · rw [IsUsable, shelf_put_of_ne hk]
      exact ⟨fun hu => ⟨hd, hu⟩, And.right⟩

end HoldsTokens

end Courier.Keyspace.Tokens
