import Courier.Proofs.Keyspace.Agreement
import Courier.Proofs.Token.OneUsable

/-!
# Purges go unnoticed

A record that has ended counts as none, whatever is done with it, so stores that differ in ended
records only cannot be told apart any more. Main statement: wherever purges are put into a run, its
other operations tell what they tell without them; and a purge tells how many records have ended,
takes out exactly those, and leaves no client without records.
-/

namespace Courier

namespace TokenRecord

variable {m now : Int}

/-- A record that had not ended later had not ended before. -/
theorem filter_isLive_of_le (h : m ≤ now) (r : Option TokenRecord) :
    (r.filter (·.isLive m)).filter (·.isLive now) = r.filter (·.isLive now) := by
  cases r with
  | none => rfl
  | some r =>
      by_cases hm : r.isLive m = true
      · rw [Option.filter_some_pos hm]
      · have hn : ¬ r.isLive now = true := by
          simp only [isLive, decide_eq_true_eq] at hm ⊢
          omega
        simp [Option.filter, hm, hn]

theorem isLive_kickUsable (r : TokenRecord) : (r.kickUsable m).isLive now = r.isLive now := by
  unfold kickUsable
  split <;> rfl

theorem filter_map_kickUsable (r : Option TokenRecord) :
    (r.map (·.kickUsable m)).filter (·.isLive now) =
      (r.filter (·.isLive now)).map (·.kickUsable m) := by
  cases r with
  | none => rfl
  | some r => by_cases hn : r.isLive now = true <;> simp [Option.filter, isLive_kickUsable, hn]

end TokenRecord

namespace TokenStore

/-- Whether two stores hold the same records of those that have not ended at a time. -/
def IsAlike (now : Int) (s t : TokenStore) : Prop :=
  ∀ c token, (s.record? c token).filter (·.isLive now) =
    (t.record? c token).filter (·.isLive now)

/-- Whether a store holds what another held and had not ended at a time, without empty tables, and a
number is that of the ended records. -/
structure IsSwept (now : Int) (s t : TokenStore) (n : Nat) : Prop where
  told : {x : Client × String | ∃ r, s.record? x.1 x.2 = some r ∧ r.expires ≤ now}.encard = n
  held : ∀ c token r, t.record? c token = some r ↔ s.record? c token = some r ∧ now < r.expires
  filled : ∀ c records, t.clients.get? c = some records → records.isEmpty = false

variable {s t u : TokenStore} {m now : Int} {tombstone : UInt64}

namespace IsAlike

theorem refl (now : Int) (s : TokenStore) : IsAlike now s s :=
  fun _ _ => rfl

theorem trans (h : IsAlike now s t) (g : IsAlike now t u) : IsAlike now s u :=
  fun c token => (h c token).trans (g c token)

theorem mono (h : IsAlike m s t) (hm : m ≤ now) : IsAlike now s t := by
  intro c token
  rw [← TokenRecord.filter_isLive_of_le hm, h c token, TokenRecord.filter_isLive_of_le hm]

theorem purge (now : Int) (s : TokenStore) : IsAlike now (s.purge now).2 s := by
  intro c token
  rw [record?_purge, TokenRecord.filter_isLive_of_le (Int.le_refl now)]

/-- No operation tells ended records from missing ones in what it leaves. -/
theorem operate (h : IsAlike now s t) (op : TokenOperation) :
    IsAlike now (s.operate tombstone now op) (t.operate tombstone now op) := by
  cases op with
  | issue c token expires =>
      intro d other
      simp only [TokenStore.operate, record?_issue, h c]
      split
      · rfl
      · exact h d other
  | kick c token =>
      intro d other
      simp only [TokenStore.operate, record?_kick, h c]
      split
      · rfl
      · exact h d other
  | kickAll c =>
      intro d other
      simp only [TokenStore.operate, record?_kickAll]
      split
      · rw [TokenRecord.filter_map_kickUsable, TokenRecord.filter_map_kickUsable, h c other]
      · exact h d other
  | lookup c token => exact h
  | tokens c => exact h
  | purge => exact (purge now s).trans (h.trans fun c token => (purge now t c token).symm)

theorem lookup_eq (h : IsAlike now s t) (c : Client) (token : String) :
    s.lookup now c token = t.lookup now c token := by
  rw [lookup, h c token, lookup]

/-- A client has as many usable tokens of a kind in both stores. -/
theorem size_usable_eq (h : IsAlike now s t) (c : Client) (p : String → Bool) :
    ((s.records c).filter fun token r => p token && r.isUsable now).size =
      ((t.records c).filter fun token r => p token && r.isUsable now).size := by
  have found : ∀ (v : TokenStore) (token : String),
      token ∈ ((v.records c).filter fun token r => p token && r.isUsable now).keys ↔
        p token = true ∧ v.lookup now c token = .normal := by
    intro v token
    rw [Table.mem_keys_filter_iff, lookup_eq_normal_iff]
    simp only [Bool.and_eq_true, record?]
    constructor
    · rintro ⟨r, hr, hp, hu⟩
      exact ⟨hp, r, hr, hu⟩
    · rintro ⟨hp, r, hr, hu⟩
      exact ⟨r, hr, hp, hu⟩
  apply Table.size_eq_of_keys
  intro token
  rw [found, found, h.lookup_eq]

/-- No operation but a purge tells ended records from missing ones. -/
theorem outcome_eq (h : IsAlike now s t) {op : TokenOperation} (hop : op ≠ .purge) :
    s.outcome tombstone now op = t.outcome tombstone now op := by
  cases op with
  | issue c token expires =>
      exact congrArg TokenOutcome.count (h.size_usable_eq c fun other => decide (other ≠ token))
  | kick c token =>
      simp only [outcome, TokenStore.kick, h c token]
  | kickAll c =>
      have hs := h.size_usable_eq c fun _ => true
      simp only [Bool.true_and] at hs
      exact congrArg TokenOutcome.count hs
  | lookup c token => exact congrArg TokenOutcome.state (h.lookup_eq c token)
  | tokens c =>
      refine congrArg TokenOutcome.states (funext fun token => ?_)
      simp only [TokenStore.tokens, Table.get?_mapValues, Table.get?_filter]
      exact congrArg (Option.map TokenRecord.state) (h c token)
  | purge => exact absurd rfl hop

/-- Whatever purges there are in a run, its other operations tell the same without them. -/
theorem outcomes_eq (h : IsAlike m s t) {run : List (Int × TokenOperation)}
    (forward : (m :: run.map Prod.fst).Pairwise (· ≤ ·)) :
    ((run.zip (s.outcomes tombstone run)).filter fun x => x.1.2 ≠ .purge) =
      (run.filter fun x => x.2 ≠ .purge).zip
        (t.outcomes tombstone (run.filter fun x => x.2 ≠ .purge)) := by
  induction run generalizing m s t with
  | nil => rfl
  | cons x run ih =>
      obtain ⟨time, op⟩ := x
      have hm : m ≤ time := List.rel_of_pairwise_cons forward List.mem_cons_self
      have next := h.mono hm
      have later := (List.pairwise_cons.1 forward).2
      by_cases hop : op = .purge
      · subst hop
        have swept : IsAlike time (s.operate tombstone time .purge) t :=
          (purge time s).trans next
        simpa [outcomes] using ih swept later
      · have acted : IsAlike time (s.operate tombstone time op) (t.operate tombstone time op) :=
          next.operate op
        have hrest := ih acted later
        rw [List.filter_cons_of_pos (by simpa using hop)]
        simp only [outcomes, List.zip_cons_cons]
        rw [List.filter_cons_of_pos (by simpa using hop), hrest, next.outcome_eq hop]

end IsAlike

/-! ### What a purge takes out -/

/-- The ended records, by client and token. -/
def ended (s : TokenStore) (now : Int) : List (Client × String) :=
  s.clients.entries.flatMap fun x =>
    (x.2.filter fun _ r => !r.isLive now).keys.map fun token => (x.1, token)

theorem mem_ended {x : Client × String} :
    x ∈ s.ended now ↔ ∃ r, s.record? x.1 x.2 = some r ∧ r.expires ≤ now := by
  obtain ⟨c, token⟩ := x
  simp only [ended, List.mem_flatMap, List.mem_map, Prod.mk.injEq, Table.mem_keys_filter_iff]
  constructor
  · rintro ⟨⟨d, table⟩, hd, other, ⟨r, hr, he⟩, rfl, rfl⟩
    refine ⟨r, ?_, by simpa [TokenRecord.isLive] using he⟩
    rw [record?, records, Table.get?_eq_some_iff.2 hd]
    exact hr
  · rintro ⟨r, hr, he⟩
    cases hc : s.clients.get? c with
    | none =>
        rw [record?, records, hc] at hr
        cases hr
    | some table =>
        rw [record?, records, hc] at hr
        refine ⟨(c, table), Table.get?_eq_some_iff.1 hc, token, ⟨r, hr, ?_⟩, rfl, rfl⟩
        simpa [TokenRecord.isLive] using he

theorem nodup_ended (s : TokenStore) (now : Int) : (s.ended now).Nodup := by
  rw [ended, List.nodup_flatMap]
  constructor
  · intro x _
    exact (Table.nodup _).map fun a b h => (Prod.mk.inj h).2
  · -- different clients have no pair in common
    refine (List.pairwise_map.1 s.clients.nodup).imp fun {x y} hne p hx hy => hne ?_
    obtain ⟨a, -, rfl⟩ := List.mem_map.1 hx
    obtain ⟨b, -, hb⟩ := List.mem_map.1 hy
    exact (Prod.mk.inj hb).1.symm

theorem length_ended (s : TokenStore) (now : Int) : (s.ended now).length = (s.purge now).1 := by
  change _ = List.length (List.flatMap _ (List.map Prod.snd s.clients.entries))
  rw [ended, List.flatMap_map, List.length_flatMap, List.length_flatMap]
  simp [Table.keys]

theorem isSwept_purge (now : Int) (s : TokenStore) :
    IsSwept now s (s.purge now).2 (s.purge now).1 where
  told := by
    rw [← length_ended, ← encard_mem_of_nodup (nodup_ended s now)]
    simp only [mem_ended]
  held c token r := by
    rw [record?_purge, Option.filter_eq_some_iff, TokenRecord.isLive, decide_eq_true_eq]
  filled c records h := by
    have := (Option.filter_eq_some_iff.1 ((Table.get?_filter _ _ _).symm.trans h)).2
    simpa using this

/-- However a store came about and however often it is purged in the course of a run whose clock
never goes back: the other operations tell, one after the other, what they tell in the run without
the purges, and each purge tells how many records have ended and sweeps them out. -/
theorem purges_unnoticed (tombstone : UInt64) (s : TokenStore) (run : List (Int × TokenOperation))
    (forward : (run.map Prod.fst).Pairwise (· ≤ ·)) :
    let proper := run.filter fun x => x.2 ≠ .purge
    ((run.zip (s.outcomes tombstone run)).filter fun x => x.1.2 ≠ .purge) =
        proper.zip (s.outcomes tombstone proper) ∧
      ∀ before time after, run = before ++ (time, .purge) :: after →
        let t := s.operateAll tombstone before
        ∃ n, t.outcome tombstone time .purge = .count n ∧
          IsSwept time t (t.operate tombstone time .purge) n := by
  intro proper
  constructor
  · cases run with
    | nil => rfl
    | cons x run =>
        refine (IsAlike.refl x.1 s).outcomes_eq (List.pairwise_cons.2 ⟨fun n hn => ?_, forward⟩)
        rcases List.mem_cons.1 hn with rfl | hn
        · exact Int.le_refl _
        · exact (List.pairwise_cons.1 forward).1 n hn
  · intro before time after _ t
    exact ⟨_, rfl, isSwept_purge time t⟩

/-- A purge takes out a tombstone and a token that have ended. The token of the tombstone is then
issued and found usable, as it is without the purge. -/
theorem purges_unnoticed_of_tombstone :
    let c : Client := ⟨"u", 1⟩
    let before : List (Int × TokenOperation) := [(10, .issue c "token" 25), (15, .kick c "ghost")]
    let after : List (Int × TokenOperation) :=
      [(26, .issue c "ghost" 40), (30, .purge), (34, .lookup c "ghost")]
    let run := before ++ (25, .purge) :: after
    (run.map Prod.fst).Pairwise (· ≤ ·) ∧
      ((run.zip ((∅ : TokenStore).outcomes 10 run)).filter fun x => x.1.2 ≠ .purge).map Prod.snd =
        [.count 0, .state .kicked, .count 0, .state .normal] ∧
      {x : Client × String | ∃ r, ((∅ : TokenStore).operateAll 10 before).record? x.1 x.2 = some r ∧
        r.expires ≤ 25}.encard = 2 := by
  intro c before after run
  have forward : (run.map Prod.fst).Pairwise (· ≤ ·) := by decide
  obtain ⟨same, swept⟩ := purges_unnoticed 10 ∅ run forward
  refine ⟨forward, by rw [same]; rfl, ?_⟩
  obtain ⟨n, hn, hs⟩ := swept before 25 after rfl
  cases hn
  exact hs.told

end TokenStore

end Courier
