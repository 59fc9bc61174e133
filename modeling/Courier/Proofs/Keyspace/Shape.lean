import Courier.Proofs.Keyspace.Agreement
import Courier.Proofs.Keyspace.Held
import Courier.Proofs.Token.OneUsable

/-!
# The shape of tokens in a keyspace

Three rows of commands write under the keys of tokens, and not all of them give a key an end. Main
statement: wherever tokens are kept from nothing on, what stands under the key of a client has an
end, and its fields are states of tokens of which one at most is usable. So every value that is read
stands for a state, and no issue and no logout kicks more than one token.
-/

namespace Courier

/-- A table without two keys has one entry at most. -/
theorem Table.size_le_one {κ ν : Type} [DecidableEq κ] {t : Table κ ν}
    (h : {k | k ∈ t.keys}.Subsingleton) : t.size ≤ 1 := by
  have hs := Set.encard_le_one_iff_subsingleton.2 h
  rw [encard_keys] at hs
  exact_mod_cast hs

namespace Keyspace.Tokens

/-- Whether fields are tokens of a client: each is usable or kicked, and one at most is usable. -/
structure IsRoll (t : Table String String) : Prop where
  state : ∀ token value, t.get? token = some value → value = usable ∨ value = kicked
  one : {token | t.get? token = some usable}.Subsingleton

/-- Whether under the key of every client stand its tokens with an end, if anything does. -/
def IsShaped (k : Keyspace) : Prop :=
  ∀ c e, k.entries.get? (tokenKey c) = some e →
    ∃ t second, e = ⟨.fields t, some second⟩ ∧ IsRoll t

variable {k : Keyspace} {now : Int} {c : Client} {token : String} {t : Table String String}
  {tombstone : UInt64}

namespace IsRoll

theorem empty : IsRoll ∅ where
  state _ _ h := by cases h
  one _ h := by cases h

/-- Beside a token that is issued no other is usable. -/
theorem issued (h : IsRoll t) (token : String) : IsRoll (Keyspace.issued t token) where
  state other value hv := by
    rw [get?_issued] at hv
    split at hv
    · cases hv
      split
      · exact .inr rfl
      · exact .inl rfl
    · obtain ⟨v, hg, rfl⟩ := Option.map_eq_some_iff.1 hv
      exact .inr (kick_value (h.state other v hg))
  one := by
    have own : ∀ other, (Keyspace.issued t token).get? other = some usable → other = token := by
      intro other hu
      rw [get?_issued] at hu
      by_contra ho
      rw [if_neg ho] at hu
      exact map_kick_ne_usable _ hu
    exact fun a ha b hb => (own a ha).trans (own b hb).symm

theorem kick (h : IsRoll t) (token : String) : IsRoll (t.insert token kicked) where
  state other value hv := by
    rcases Table.get?_insert_eq_some_iff.1 hv with ⟨-, rfl⟩ | ⟨-, hg⟩
    · exact .inr rfl
    · exact h.state other value hg
  one := by
    refine h.one.anti fun other hu => ?_
    rcases Table.get?_insert_eq_some_iff.1 hu with ⟨-, hk⟩ | ⟨-, hg⟩
    · exact absurd hk.symm kicked_ne_usable
    · exact hg

theorem kickAll (h : IsRoll t) :
    IsRoll (t.mapValues fun _ value => if value = usable then kicked else value) where
  state other value hv := by
    rw [Table.get?_mapValues] at hv
    obtain ⟨v, hg, rfl⟩ := Option.map_eq_some_iff.1 hv
    exact .inr (kick_value (h.state other v hg))
  one other hu := by
    have hu : (t.mapValues fun _ value => if value = usable then kicked else value).get? other =
      some usable := hu
    rw [Table.get?_mapValues] at hu
    exact absurd hu (map_kick_ne_usable _)

/-- Of the usable tokens there is one at most. -/
theorem size_filter_le_one (h : IsRoll t) {p : String → String → Bool}
    (hp : ∀ token value, p token value = true → value = usable) : (t.filter p).size ≤ 1 := by
  refine Table.size_le_one (h.one.anti fun token ht => ?_)
  obtain ⟨value, hv, hpv⟩ := Table.mem_keys_filter_iff.1 ht
  rwa [hp token value hpv] at hv

/-- Every field stands for a state. -/
theorem exists_state (h : IsRoll t) {value : String} (hv : t.get? token = some value) :
    ∃ state, stateOf value = .ok state := by
  rcases h.state token value hv with rfl | rfl
  · exact ⟨_, stateOf_usable⟩
  · exact ⟨_, stateOf_kicked⟩

end IsRoll

namespace IsShaped

theorem isFielded (h : IsShaped k) (now : Int) (c : Client) : k.IsFielded now (tokenKey c) := by
  intro e he
  obtain ⟨t, second, rfl, -⟩ := h c e (Option.filter_eq_some_iff.1 he).1
  exact ⟨t, rfl⟩

/-- What is found under the key of a client at a time are its tokens, with an end if there are
any. -/
theorem shelf (h : IsShaped k) (now : Int) (c : Client) :
    IsRoll (k.shelf now (tokenKey c)).1 ∧
      (k.shelf now (tokenKey c) = (∅, none) ∨ (k.shelf now (tokenKey c)).2.isSome = true) := by
  rcases shelf_cases k now (tokenKey c) with hs | hg
  · rw [hs]
    exact ⟨.empty, .inl rfl⟩
  · obtain ⟨t, second, he, ht⟩ := h c _ hg
    obtain ⟨hfields, hend⟩ := Entry.mk.inj he
    rw [Content.fields.inj hfields, hend]
    exact ⟨ht, .inr rfl⟩

theorem put (h : IsShaped k) (c : Client) (ht : IsRoll t) {expires : Option Int}
    (set : expires.isSome = true) : IsShaped (k.put (tokenKey c) ⟨.fields t, expires⟩) := by
  obtain ⟨second, rfl⟩ := Option.isSome_iff_exists.1 set
  intro d e he
  rw [get?_entries_put] at he
  split at he
  · cases he
    exact ⟨t, second, rfl, ht⟩
  · exact h d e he

/-- Every operation leaves the shape as it is, if the span that it sets is taken. -/
theorem operate (h : IsShaped k) {op : TokenOperation} (taken : IsTaken tombstone now op) :
    IsShaped (operate tombstone k now op) := by
  cases op with
  | issue c token expires =>
      rw [Tokens.operate, issue_on (h.isFielded now c)]
      exact h.put c ((h.shelf now c).1.issued token) (isSome_prolonged (by omega) taken _)
  | kick c token =>
      rw [Tokens.operate, kick_on (h.isFielded now c)]
      exact h.put c ((h.shelf now c).1.kick token) (isSome_prolonged (Int.le_refl 0) taken _)
  | kickAll c =>
      rw [Tokens.operate, kickAll_on (h.isFielded now c)]
      dsimp only
      split
      · exact h
      · -- a key without an end has no fields, so there is nothing to kick
        rename_i hf
        obtain ⟨roll, hs | hs⟩ := h.shelf now c
        · rw [hs] at hf
          exact absurd rfl hf
        · exact h.put c roll.kickAll hs
  | lookup c token =>
      rw [Tokens.operate, lookup_on (h.isFielded now c)]
      exact h
  | tokens c =>
      rw [Tokens.operate, tokens_on (h.isFielded now c)]
      exact h
  | purge => exact h

theorem operateAll (h : IsShaped k) {run : List (Int × TokenOperation)}
    (taken : ∀ x ∈ run, IsTaken tombstone x.1 x.2) : IsShaped (operateAll tombstone k run) := by
  induction run generalizing k with
  | nil => exact h
  | cons x run ih =>
      simp only [List.forall_mem_cons] at taken
      exact ih (h.operate taken.1) taken.2

/-! ### What is read -/

theorem exists_lookup (h : IsShaped k) (now : Int) (c : Client) (token : String) :
    ∃ state, ((lookup c token).on now k).1 = .ok state := by
  rw [lookup_on (h.isFielded now c)]
  dsimp only
  cases hv : (k.shelf now (tokenKey c)).1.get? token with
  | none => exact ⟨_, rfl⟩
  | some value => exact (h.shelf now c).1.exists_state hv

/-- No field is left out where the tokens of a client are read. -/
theorem exists_tokens (h : IsShaped k) (now : Int) (c : Client) :
    ∃ states, ((tokens c).on now k).1 = .ok states ∧
      ∀ token, token ∈ states.keys ↔ token ∈ (k.shelf now (tokenKey c)).1.keys := by
  rw [tokens_on (h.isFielded now c)]
  refine ⟨_, rfl, fun token => ?_⟩
  rw [Table.mem_keys_iff, Table.mem_keys_iff, get?_statesOf]
  cases hv : (k.shelf now (tokenKey c)).1.get? token with
  | none => simp
  | some value =>
      obtain ⟨state, hs⟩ := (h.shelf now c).1.exists_state hv
      simp [hs, Except.toOption]

theorem issue_le_one (h : IsShaped k) {expires : Int}
    (taken : IsTaken tombstone now (.issue c token expires)) :
    ∃ n, ((issue now c token expires).on now k).1 = .ok n ∧ n ≤ 1 := by
  rw [issue_on (h.isFielded now c)]
  refine ⟨_, if_neg (not_refused taken), (h.shelf now c).1.size_filter_le_one ?_⟩
  intro token value hp
  simp only [isOther, Bool.and_eq_true, decide_eq_true_eq] at hp
  exact hp.2

theorem kickAll_le_one (h : IsShaped k) (now : Int) (c : Client) :
    ∃ n, ((Tokens.kickAll c).on now k).1 = .ok n ∧ n ≤ 1 := by
  rw [kickAll_on (h.isFielded now c)]
  exact ⟨_, rfl, (h.shelf now c).1.size_filter_le_one fun _ _ hp => of_decide_eq_true hp⟩

end IsShaped

/-- Whatever a run does in a keyspace without tokens, at whatever times and with whatever ends that
the keyspace takes: at every time, what stands under the key of a client has an end and holds states
of tokens, of which one at most is usable; all of them can be read; and an issue or a logout kicks
no token or one. The end that an issue names may be any number, so the span that it asks for may
have been reckoned at another time than the one at which it is carried out. -/
theorem isShaped_after_run (tombstone : UInt64) (k : Keyspace) (run : List (Int × TokenOperation))
    (vacant : ∀ c, k.entries.get? (tokenKey c) = none)
    (taken : ∀ x ∈ run, IsTaken tombstone x.1 x.2) :
    let l := Tokens.operateAll tombstone k run
    ∀ now c,
      (∀ e, l.live? now (tokenKey c) = some e →
        ∃ t second, e = ⟨.fields t, some second⟩ ∧ IsRoll t) ∧
      (∀ token, ∃ state, ((lookup c token).on now l).1 = .ok state) ∧
      (∃ states, ((tokens c).on now l).1 = .ok states ∧
        ∀ token, token ∈ states.keys ↔ token ∈ (l.shelf now (tokenKey c)).1.keys) ∧
      (∀ token expires, IsTaken tombstone now (.issue c token expires) →
        ∃ n, ((issue now c token expires).on now l).1 = .ok n ∧ n ≤ 1) ∧
      ∃ n, ((kickAll c).on now l).1 = .ok n ∧ n ≤ 1 := by
  intro l now c
  have empty : IsShaped k := fun d e he => by
    rw [vacant d] at he
    cases he
  have h : IsShaped l := empty.operateAll taken
  exact ⟨fun e he => h c e (Option.filter_eq_some_iff.1 he).1, h.exists_lookup now c,
    h.exists_tokens now c, fun _ _ => h.issue_le_one, h.kickAll_le_one now c⟩

/-- A key that came to its end after a logout is there again after a kick, with an end of its own
and one usable token beside the kicked one. A registration stands beside it. -/
theorem isShaped_after_end :
    let c : Client := ⟨"u", 1⟩
    let k := (∅ : Keyspace).put (registrationKey c) ⟨.text "device", none⟩
    let run : List (Int × TokenOperation) :=
      [(0, .issue c "a" 10), (2, .issue c "b" 5), (3, .kickAll c), (10, .kick c "ghost"),
        (11, .kickAll c), (12, .issue c "ghost" 4000), (13, .issue c "d" 20)]
    (∀ d, k.entries.get? (tokenKey d) = none) ∧ (∀ x ∈ run, IsTaken 3600 x.1 x.2) ∧
      ∃ t second, (Tokens.operateAll 3600 k run).live? 3999 (tokenKey c) =
        some ⟨.fields t, some second⟩ ∧ IsRoll t := by
  intro c k run
  have vacant : ∀ d, k.entries.get? (tokenKey d) = none := by
    intro d
    rw [get?_entries_put, if_neg (tokenKey_ne_registrationKey d c)]
    rfl
  have taken : ∀ x ∈ run, IsTaken 3600 x.1 x.2 := by decide
  have live : ((Tokens.operateAll 3600 k run).live? 3999 (tokenKey c)).isSome = true := by
    decide +kernel
  obtain ⟨e, he⟩ := Option.isSome_iff_exists.1 live
  obtain ⟨shape, -⟩ := isShaped_after_run 3600 k run vacant taken 3999 c
  obtain ⟨t, second, rfl, ht⟩ := shape e he
  exact ⟨vacant, taken, t, second, he, ht⟩

end Keyspace.Tokens

end Courier
