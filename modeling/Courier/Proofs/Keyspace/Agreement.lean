import Courier.Proofs.Keyspace.Keys
import Courier.Proofs.Keyspace.Tombstone

/-!
# Two places for tokens, and the same results

A token store keeps records of its own, each with an end; a keyspace keeps the numbers of states
under the key of a client, with one end for all of them. As long as nothing that either of them
keeps comes to its end, nobody can tell them apart. Main statement: a run tells the same from
operation to operation, wherever it is carried out, if all its times come before every end that it
sets.
-/

namespace Courier

/-- What an operation on tokens tells. The states of all tokens count as a map. -/
inductive TokenOutcome where
  | count (n : Nat)
  | state (s : TokenState)
  | states (of : String → Option TokenState)

namespace TokenStore

variable (tombstone : UInt64)

/-- What an operation at a time tells about a store. -/
def outcome (s : TokenStore) (now : Int) : TokenOperation → TokenOutcome
  | .issue c token expires => .count (s.issue now c token expires).1
  | .kick c token => .state (s.kick now tombstone c token).1
  | .kickAll c => .count (s.kickAll now c).1
  | .lookup c token => .state (s.lookup now c token)
  | .tokens c => .states (s.tokens now c).get?
  | .purge => .count (s.purge now).1

/-- What operations tell that are carried out in order. -/
def outcomes (s : TokenStore) : List (Int × TokenOperation) → List TokenOutcome
  | [] => []
  | x :: run => s.outcome tombstone x.1 x.2 :: (s.operate tombstone x.1 x.2).outcomes run

/-- The end that an operation gives to a record: the one of an issue, or of a tombstone that is
made. -/
def end? (s : TokenStore) (now : Int) : TokenOperation → Option Int
  | .issue _ _ expires => some expires
  | .kick c token =>
      if s.lookup now c token = .absent then some (Clock.after now tombstone) else none
  | .kickAll _ | .lookup .. | .tokens _ | .purge => none

/-- The ends that operations give to records. -/
def ends (s : TokenStore) : List (Int × TokenOperation) → List Int
  | [] => []
  | x :: run => (s.end? tombstone x.1 x.2).toList ++ (s.operate tombstone x.1 x.2).ends run

end TokenStore

namespace Keyspace

/-- The ends that are set in a keyspace. -/
def ends (k : Keyspace) : List Int :=
  k.entries.values.filterMap Entry.expires

theorem mem_ends {k : Keyspace} {key : String} {e : Entry} {second : Int}
    (he : k.entries.get? key = some e) (hs : e.expires = some second) : second ∈ k.ends :=
  List.mem_filterMap.2 ⟨e, List.mem_map_of_mem (Table.get?_eq_some_iff.1 he), hs⟩

namespace Tokens

variable (tombstone : UInt64)

/-- What an operation at a time tells about a keyspace. -/
def outcome (k : Keyspace) (now : Int) : TokenOperation → Except ServiceError TokenOutcome
  | .issue c token expires => ((issue now c token expires).on now k).1.map .count
  | .kick c token => ((kick tombstone c token).on now k).1.map .state
  | .kickAll c => ((kickAll c).on now k).1.map .count
  | .lookup c token => ((lookup c token).on now k).1.map .state
  | .tokens c => ((tokens c).on now k).1.map fun t => .states t.get?
  | .purge => (purge.on now k).1.map .count

/-- What operations tell that are carried out in order. -/
def outcomes (k : Keyspace) : List (Int × TokenOperation) → List (Except ServiceError TokenOutcome)
  | [] => []
  | x :: run => outcome tombstone k x.1 x.2 :: outcomes (operate tombstone k x.1 x.2) run

/-- The ends that are set in a keyspace after one operation or another. -/
def ends (k : Keyspace) : List (Int × TokenOperation) → List Int
  | [] => []
  | x :: run => (operate tombstone k x.1 x.2).ends ++ ends (operate tombstone k x.1 x.2) run

/-- Whether the span for which an operation lets a key stay is taken. -/
def IsTaken (now : Int) : TokenOperation → Prop
  | .issue _ _ expires => accepts now (max (Clock.word (expires - now)) 1) = true
  | .kick .. => accepts now (max tombstone.toNat 1) = true
  | .kickAll _ | .lookup .. | .tokens _ | .purge => True

instance (now : Int) (op : TokenOperation) : Decidable (IsTaken tombstone now op) := by
  cases op <;> unfold IsTaken <;> infer_instance

/-- The value under which a record is kept in a keyspace. -/
def valueOf (r : TokenRecord) : String :=
  if r.kicked then kicked else usable

/-- Whether a keyspace keeps what a store keeps, and nothing ends by any of the given times. -/
structure Agrees (times : List Int) (s : TokenStore) (k : Keyspace) : Prop where
  later : ∀ c token r, s.record? c token = some r → ∀ m ∈ times, m < r.expires
  fields : ∀ key e, k.entries.get? key = some e →
    ∃ t second, e = ⟨.fields t, some second⟩ ∧ ∀ m ∈ times, m < second
  same : ∀ c token, ∀ m ∈ times,
    (k.shelf m (tokenKey c)).1.get? token = (s.record? c token).map valueOf

variable {times : List Int} {s u : TokenStore} {k : Keyspace} {m : Int} {c : Client}
  {token : String} {tombstone}

theorem agrees_empty (times : List Int) : Agrees times ∅ ∅ where
  later c token r hr := by cases hr
  fields key e he := by cases he
  same c token m hm := rfl

namespace Agrees

theorem holdsFields (h : Agrees times s k) : HoldsFields k := by
  intro key e he
  obtain ⟨t, second, rfl, -⟩ := h.fields key e he
  exact ⟨t, rfl⟩

theorem isFielded (h : Agrees times s k) (m : Int) (c : Client) :
    k.IsFielded m (tokenKey c) :=
  h.holdsFields.isFielded m _

/-- No record has ended. -/
theorem filter_record? (h : Agrees times s k) (hm : m ∈ times) (c : Client) (token : String) :
    (s.record? c token).filter (·.isLive m) = s.record? c token := by
  cases hr : s.record? c token with
  | none => rfl
  | some r => exact Option.filter_some_pos (decide_eq_true (h.later c token r hr m hm))

/-- The keyspace keeps the same as a store that has the same records. -/
theorem congr (h : Agrees times s k) (hu : ∀ c token, u.record? c token = s.record? c token) :
    Agrees times u k where
  later c token r hr := h.later c token r (hu c token ▸ hr)
  fields := h.fields
  same c token m hm := by rw [hu, h.same c token m hm]

/-- The keyspace keeps the same as a store when both change what they have of one client. -/
theorem put (h : Agrees times s k) (c : Client) {t : Table String String} {expires : Option Int}
    (others : ∀ d, d ≠ c → ∀ token, u.record? d token = s.record? d token)
    (own : ∀ token, t.get? token = (u.record? c token).map valueOf)
    (later : ∀ token r, u.record? c token = some r → ∀ m ∈ times, m < r.expires)
    (set : expires.isSome = true)
    (ends : ∀ second ∈ (k.put (tokenKey c) ⟨.fields t, expires⟩).ends, ∀ m ∈ times, m < second) :
    Agrees times u (k.put (tokenKey c) ⟨.fields t, expires⟩) := by
  obtain ⟨second, rfl⟩ := Option.isSome_iff_exists.1 set
  have hself : (k.put (tokenKey c) ⟨.fields t, some second⟩).entries.get? (tokenKey c) =
      some ⟨.fields t, some second⟩ := by
    rw [get?_entries_put, if_pos rfl]
  have hs : ∀ m ∈ times, m < second := ends second (mem_ends hself rfl)
  refine ⟨fun d token r hr => ?_, fun key e he => ?_, fun d token m hm => ?_⟩
  · by_cases hd : d = c
    · exact later token r (hd ▸ hr)
    · exact h.later d token r (others d hd token ▸ hr)
  · rw [get?_entries_put] at he
    split at he
    · cases he
      exact ⟨t, second, rfl, hs⟩
    · exact h.fields key e he
  · by_cases hd : d = c
    · subst hd
      rw [shelf_of_get? hself, own]
      rintro _ ⟨⟩
      exact hs m hm
    · have hk : tokenKey d ≠ tokenKey c := fun hk => hd (tokenKey_injective hk)
      rw [shelf_put_of_ne hk, others d hd, h.same d token m hm]

/-- Fields have an end where there are any. -/
theorem isSome_shelf (h : Agrees times s k) (hf : (k.shelf m (tokenKey c)).1.isEmpty ≠ true) :
    (k.shelf m (tokenKey c)).2.isSome = true := by
  rcases shelf_cases k m (tokenKey c) with hs | hg
  · rw [hs] at hf
    exact absurd rfl hf
  · obtain ⟨t, second, he, -⟩ := h.fields _ _ hg
    rw [(Entry.mk.inj he).2]
    rfl

/-- As many records pass a test as there are values that pass a test of what they stand for. -/
theorem size_filter (h : Agrees times s k) (hm : m ∈ times)
    {p : String → TokenRecord → Bool} {q : String → String → Bool}
    (hpq : ∀ token r, s.record? c token = some r → p token r = q token (valueOf r)) :
    ((s.records c).filter p).size = ((k.shelf m (tokenKey c)).1.filter q).size := by
  apply Table.size_eq_of_keys
  intro token
  rw [Table.mem_keys_filter_iff, Table.mem_keys_filter_iff, h.same c token m hm]
  change (∃ r, s.record? c token = some r ∧ _) ↔ _
  cases hr : s.record? c token with
  | none => simp
  | some r => simp [hpq token r hr]

theorem isUsable_eq (h : Agrees times s k) (hm : m ∈ times) {r : TokenRecord}
    (hr : s.record? c token = some r) : r.isUsable m = decide (valueOf r = usable) := by
  have live : r.isLive m = true := decide_eq_true (h.later c token r hr m hm)
  rw [TokenRecord.isUsable, live, Bool.true_and]
  obtain ⟨_ | _, ends⟩ := r <;> rfl

end Agrees

/-! ### One operation -/

theorem valueOf_issue (r : Option TokenRecord) (expires : Int) :
    valueOf (.issue r expires) = if r.map valueOf = some kicked then kicked else usable := by
  obtain _ | ⟨_ | _, ends⟩ := r <;> rfl

theorem valueOf_kickUsable {r : TokenRecord} (hu : r.isUsable m = decide (valueOf r = usable)) :
    valueOf (r.kickUsable m) = if valueOf r = usable then kicked else valueOf r := by
  rw [TokenRecord.kickUsable, hu]
  by_cases hv : valueOf r = usable
  · rw [if_pos (decide_eq_true hv), if_pos hv]
    rfl
  · rw [if_neg (by simpa using hv), if_neg hv]

theorem valueOf_kick (r : TokenRecord) :
    valueOf r.kick = if valueOf r = usable then kicked else valueOf r := by
  obtain ⟨_ | _, ends⟩ := r <;> rfl

theorem stateOf_valueOf (r : TokenRecord) : stateOf (valueOf r) = .ok r.state := by
  obtain ⟨_ | _, ends⟩ := r
  · exact stateOf_usable
  · exact stateOf_kicked

theorem isSome_prolonged {now bound span : Int} (hb : 0 ≤ bound) (taken : accepts now span = true)
    (expires : Option Int) : (prolonged now bound span expires).isSome = true := by
  rw [prolonged]
  split
  · rfl
  · rename_i hn
    cases expires with
    | none => exact absurd ⟨by change -1 < bound; omega, taken⟩ hn
    | some second => rfl

namespace Agrees

theorem issue (h : Agrees times s k) (hm : m ∈ times) {expires : Int}
    (taken : IsTaken tombstone m (.issue c token expires))
    (given : ∀ n ∈ times, n < expires)
    (ends : ∀ second ∈ (operate tombstone k m (.issue c token expires)).ends,
      ∀ n ∈ times, n < second) :
    Agrees times (s.issue m c token expires).2
      (operate tombstone k m (.issue c token expires)) := by
  have hr := fun d other => s.record?_issue m c d token other expires
  rw [operate, issue_on (h.isFielded m c)] at ends ⊢
  apply h.put c _ _ _ (isSome_prolonged (by omega) taken _) ends
  · intro d hd other
    rw [hr, if_neg hd]
  · intro other
    rw [hr, if_pos rfl, get?_issued, h.same c token m hm, h.same c other m hm,
      h.filter_record? hm, h.filter_record? hm]
    split
    · rw [Option.map_some, valueOf_issue]
    · simp only [Option.map_map, Function.comp_def, valueOf_kick]
  · intro other r hr' n hn
    rw [hr, if_pos rfl, h.filter_record? hm, h.filter_record? hm] at hr'
    split at hr'
    · cases hr'
      exact Int.lt_of_lt_of_le (given n hn) (Int.le_max_left _ _)
    · obtain ⟨q, hq, rfl⟩ := Option.map_eq_some_iff.1 hr'
      exact h.later c other q hq n hn

theorem kick (h : Agrees times s k) (hm : m ∈ times)
    (taken : IsTaken tombstone m (.kick c token))
    (given : s.lookup m c token = .absent → ∀ n ∈ times, n < Clock.after m tombstone)
    (ends : ∀ second ∈ (operate tombstone k m (.kick c token)).ends, ∀ n ∈ times, n < second) :
    Agrees times (s.kick m tombstone c token).2 (operate tombstone k m (.kick c token)) := by
  have hr := fun d other => s.record?_kick m c d token other tombstone
  rw [operate, kick_on (h.isFielded m c)] at ends ⊢
  apply h.put c _ _ _ (isSome_prolonged (Int.le_refl 0) taken _) ends
  · intro d hd other
    rw [hr, if_neg fun hc => hd hc.1]
  · intro other
    rw [hr, Table.get?_insert, h.same c other m hm, h.filter_record? hm]
    by_cases ho : other = token
    · rw [if_pos ho, if_pos ⟨rfl, ho⟩]
      cases s.record? c token <;> rfl
    · rw [if_neg ho, if_neg fun hc => ho hc.2]
  · intro other r hr' n hn
    rw [hr] at hr'
    split at hr'
    · cases hl : (s.record? c token).filter (·.isLive m) with
      | none =>
          rw [hl] at hr'
          cases hr'
          exact given ((TokenRecord.stateAt_eq_absent_iff _ m).2 hl) n hn
      | some q =>
          rw [hl] at hr'
          cases hr'
          exact h.later c token q (Option.filter_eq_some_iff.1 hl).1 n hn
    · exact h.later c other r hr' n hn

theorem kickAll (h : Agrees times s k) (hm : m ∈ times)
    (ends : ∀ second ∈ (operate tombstone k m (.kickAll c)).ends, ∀ n ∈ times, n < second) :
    Agrees times (s.kickAll m c).2 (operate tombstone k m (.kickAll c)) := by
  have hr := fun d other => s.record?_kickAll m c d other
  rw [operate, kickAll_on (h.isFielded m c)] at ends ⊢
  dsimp only at ends ⊢
  split at ends
  · rename_i he
    rw [if_pos he]
    apply h.congr
    intro d other
    rw [hr]
    split
    · rename_i hd
      have hn : (s.record? c other).map valueOf = none := by
        rw [← h.same c other m hm, Table.get?_of_isEmpty he]
      rw [hd, Option.map_eq_none_iff.1 hn]
      rfl
    · rfl
  · rename_i he
    rw [if_neg he]
    apply h.put c _ _ _ (h.isSome_shelf he) ends
    · intro d hd other
      rw [hr, if_neg hd]
    · intro other
      rw [hr, if_pos rfl, Table.get?_mapValues, h.same c other m hm]
      cases hq : s.record? c other with
      | none => rfl
      | some q => exact congrArg some (valueOf_kickUsable (h.isUsable_eq hm hq)).symm
    · intro other r hr' n hn
      rw [hr, if_pos rfl] at hr'
      obtain ⟨q, hq, rfl⟩ := Option.map_eq_some_iff.1 hr'
      have := h.later c other q hq n hn
      unfold TokenRecord.kickUsable
      split
      · exact this
      · exact this

/-- What an operation leaves agrees again, as long as the ends that it sets come later. -/
theorem operate (h : Agrees times s k) (hm : m ∈ times) {op : TokenOperation}
    (taken : IsTaken tombstone m op)
    (given : ∀ second ∈ (s.end? tombstone m op).toList, ∀ n ∈ times, n < second)
    (ends : ∀ second ∈ (operate tombstone k m op).ends, ∀ n ∈ times, n < second) :
    Agrees times (s.operate tombstone m op) (operate tombstone k m op) := by
  cases op with
  | issue c token expires => exact h.issue hm taken (given expires (List.mem_singleton_self _)) ends
  | kick c token =>
      refine h.kick hm taken (fun absent => given _ ?_) ends
      rw [TokenStore.end?, if_pos absent]
      exact List.mem_singleton_self _
  | kickAll c => exact h.kickAll hm ends
  | lookup c token =>
      rw [Tokens.operate, lookup_on (h.isFielded m c)]
      exact h
  | tokens c =>
      rw [Tokens.operate, tokens_on (h.isFielded m c)]
      exact h
  | purge =>
      refine h.congr fun c token => ?_
      rw [TokenStore.operate, TokenStore.record?_purge, h.filter_record? hm]

/-- No record has ended, so a purge takes none out. -/
theorem purge_eq_zero (h : Agrees times s k) (hm : m ∈ times) : (s.purge m).1 = 0 := by
  change List.length _ = 0
  rw [List.length_eq_zero_iff, List.flatMap_eq_nil_iff]
  intro records hr
  obtain ⟨⟨c, _⟩, hc, rfl⟩ := List.mem_map.1 hr
  apply List.filter_eq_nil_iff.2
  rintro ⟨token, r⟩ he
  have hrec : s.record? c token = some r := by
    rw [TokenStore.record?, TokenStore.records, Table.get?_eq_some_iff.2 hc]
    exact Table.get?_eq_some_iff.2 he
  simpa [TokenRecord.isLive] using h.later c token r hrec m hm

theorem lookup_eq (h : Agrees times s k) (hm : m ∈ times) (c : Client) (token : String) :
    s.lookup m c token = ((s.record? c token).map TokenRecord.state).getD .absent := by
  rw [TokenStore.lookup, h.filter_record? hm]

/-- An operation tells the same. -/
theorem outcome_eq (h : Agrees times s k) (hm : m ∈ times) {op : TokenOperation}
    (taken : IsTaken tombstone m op) :
    outcome tombstone k m op = .ok (s.outcome tombstone m op) := by
  cases op with
  | issue c token expires =>
      have hs : ((s.records c).filter fun t r => t ≠ token && r.isUsable m).size =
          ((k.shelf m (tokenKey c)).1.filter (isOther token)).size :=
        h.size_filter hm fun other r hr => by rw [h.isUsable_eq hm hr, isOther]
      rw [outcome, issue_on (h.isFielded m c)]
      dsimp only
      rw [if_neg (not_refused taken), ← hs]
      rfl
  | kick c token =>
      have hs : (s.kick m tombstone c token).1 = .kicked := by
        rw [TokenStore.kick]
        cases (s.record? c token).filter (·.isLive m) <;> rfl
      rw [outcome, kick_on (h.isFielded m c), if_neg (not_refused taken), TokenStore.outcome, hs]
      rfl
  | kickAll c =>
      have hs : ((s.records c).filter fun _ r => r.isUsable m).size =
          ((k.shelf m (tokenKey c)).1.filter fun _ value => value = usable).size :=
        h.size_filter hm fun token r hr => h.isUsable_eq hm hr
      rw [outcome, kickAll_on (h.isFielded m c), ← hs]
      rfl
  | lookup c token =>
      rw [outcome, lookup_on (h.isFielded m c), h.same c token m hm, TokenStore.outcome,
        h.lookup_eq hm]
      cases s.record? c token with
      | none => rfl
      | some r => exact congrArg (Except.map TokenOutcome.state) (stateOf_valueOf r)
  | tokens c =>
      have hs : (statesOf (k.shelf m (tokenKey c)).1).get? = (s.tokens m c).get? := by
        funext token
        rw [get?_statesOf, h.same c token m hm, TokenStore.tokens, Table.get?_mapValues,
          Table.get?_filter]
        change _ = ((s.record? c token).filter (·.isLive m)).map _
        rw [h.filter_record? hm]
        cases s.record? c token with
        | none => rfl
        | some r => exact congrArg Except.toOption (stateOf_valueOf r)
      rw [outcome, tokens_on (h.isFielded m c), TokenStore.outcome, ← hs]
      rfl
  | purge =>
      rw [outcome, TokenStore.outcome, h.purge_eq_zero hm]
      rfl

/-! ### A run -/

/-- A run tells the same from two places that agree, as long as the ends that it sets come later. -/
theorem outcomes_eq (h : Agrees times s k) {run : List (Int × TokenOperation)}
    (within : ∀ x ∈ run, x.1 ∈ times) (taken : ∀ x ∈ run, IsTaken tombstone x.1 x.2)
    (given : ∀ second ∈ s.ends tombstone run, ∀ n ∈ times, n < second)
    (ends : ∀ second ∈ ends tombstone k run, ∀ n ∈ times, n < second) :
    outcomes tombstone k run = (s.outcomes tombstone run).map .ok := by
  induction run generalizing s k with
  | nil => rfl
  | cons x run ih =>
      simp only [List.forall_mem_cons] at within taken
      simp only [TokenStore.ends, Tokens.ends, List.mem_append, or_imp, forall_and] at given ends
      have next := h.operate within.1 taken.1 given.1 ends.1
      rw [outcomes, TokenStore.outcomes, List.map_cons, h.outcome_eq within.1 taken.1,
        ih next within.2 taken.2 given.2 ends.2]

end Agrees

/-- Whatever a run does, from nothing on, with whatever clients and tokens: every operation tells the
same about a store of tokens and about a keyspace, if no time of the run reaches an end that an issue
gives, that a tombstone has or that a key of the keyspace is given. -/
theorem outcomes_eq_of_nothing_ends (tombstone : UInt64) (run : List (Int × TokenOperation))
    (taken : ∀ x ∈ run, IsTaken tombstone x.1 x.2)
    (given : ∀ second ∈ (∅ : TokenStore).ends tombstone run, ∀ x ∈ run, x.1 < second)
    (set : ∀ second ∈ ends tombstone (∅ : Keyspace) run, ∀ x ∈ run, x.1 < second) :
    outcomes tombstone ∅ run = ((∅ : TokenStore).outcomes tombstone run).map .ok := by
  have times : ∀ second, (∀ x ∈ run, x.1 < second) → ∀ n ∈ run.map Prod.fst, n < second := by
    rintro second hs _ hn
    obtain ⟨x, hx, rfl⟩ := List.mem_map.1 hn
    exact hs x hx
  exact (agrees_empty (run.map Prod.fst)).outcomes_eq (fun x hx => List.mem_map_of_mem hx) taken
    (fun second hs => times second (given second hs))
    fun second hs => times second (set second hs)

/-- One client is issued two tokens and logged out; the other is issued one that was kicked before. -/
theorem outcomes_of_two_clients :
    let c : Client := ⟨"u:1", 2⟩
    let d : Client := ⟨"u", 2⟩
    let run : List (Int × TokenOperation) :=
      [(100, .issue c "a" 500), (110, .issue c "b" 600), (120, .kick d "b"),
        (90, .issue d "b" 700), (150, .kickAll c), (160, .lookup d "b")]
    (∀ x ∈ run, IsTaken 3600 x.1 x.2) ∧
      (∀ second ∈ (∅ : TokenStore).ends 3600 run, ∀ x ∈ run, x.1 < second) ∧
      (∀ second ∈ ends 3600 (∅ : Keyspace) run, ∀ x ∈ run, x.1 < second) ∧
      outcomes 3600 ∅ run =
        [.ok (.count 0), .ok (.count 1), .ok (.state .kicked), .ok (.count 0), .ok (.count 1),
          .ok (.state .kicked)] := by
  intro c d run
  have taken : ∀ x ∈ run, IsTaken 3600 x.1 x.2 := by decide
  have given : ∀ second ∈ (∅ : TokenStore).ends 3600 run, ∀ x ∈ run, x.1 < second := by
    decide +kernel
  have set : ∀ second ∈ ends 3600 (∅ : Keyspace) run, ∀ x ∈ run, x.1 < second := by
    decide +kernel
  refine ⟨taken, given, set, ?_⟩
  rw [outcomes_eq_of_nothing_ends 3600 run taken given set]
  rfl

end Tokens

end Keyspace

end Courier
