import Courier.Proofs.Keyspace.Scripts
import Courier.Proofs.Token.Kicked

/-!
# How long a tombstone stays in a keyspace

The tokens of a client stand under one key and so come to one end. An issue only ever puts that end
off, while a kick gives the key an end where there is none and leaves a nearer one as it is. Main
statement: the tombstone of a kicked token stays for its span exactly if the records that it is put
beside do not end before. Where they do, the tombstone goes with them, and the kicked token can be
issued again.
-/

namespace Courier.Keyspace.Tokens

variable {k l : Keyspace} {now ends : Int} {key token : String} {c : Client} {tombstone : UInt64}

/-- What an operation at a time leaves of a keyspace in which tombstones are to stay for a span. -/
def operate (tombstone : UInt64) (k : Keyspace) (now : Int) : TokenOperation → Keyspace
  | .issue c token expires => ((issue now c token expires).on now k).2
  | .kick c token => ((kick tombstone c token).on now k).2
  | .kickAll c => ((kickAll c).on now k).2
  | .lookup c token => ((lookup c token).on now k).2
  | .tokens c => ((tokens c).on now k).2
  | .purge => (purge.on now k).2

/-- What operations leave that are carried out in order, each at its time. -/
def operateAll (tombstone : UInt64) (k : Keyspace) (run : List (Int × TokenOperation)) : Keyspace :=
  run.foldl (fun k x => operate tombstone k x.1 x.2) k

/-! ### The operations in closed form -/

theorem kick_on (h : k.IsFielded now (tokenKey c)) :
    (kick tombstone c token).on now k =
      (if left now (k.shelf now (tokenKey c)).2 < 0 ∧
          accepts now (max tombstone.toNat 1) = false then .error Refusal.within.error
        else .ok .kicked,
        k.put (tokenKey c) ⟨.fields ((k.shelf now (tokenKey c)).1.insert token kicked),
          prolonged now 0 (max tombstone.toNat 1) (k.shelf now (tokenKey c)).2⟩) := by
  rw [kick, Shared.on_bind, Shared.on_run, on_kick h]
  by_cases hf : left now (k.shelf now (tokenKey c)).2 < 0 ∧
      accepts now (max tombstone.toNat 1) = false
  · rw [if_pos hf, if_pos hf]
    rfl
  · rw [if_neg hf, if_neg hf]
    rfl

theorem issue_on (h : k.IsFielded now (tokenKey c)) (expires : Int) :
    (issue now c token expires).on now k =
      let span := max (Clock.word (expires - now)) 1
      (if left now (k.shelf now (tokenKey c)).2 < span ∧ accepts now span = false then
          .error Refusal.within.error
        else .ok ((k.shelf now (tokenKey c)).1.filter (isOther token)).size,
        k.put (tokenKey c) ⟨.fields (issued (k.shelf now (tokenKey c)).1 token),
          prolonged now span span (k.shelf now (tokenKey c)).2⟩) := by
  dsimp only
  rw [issue, Shared.on_bind, Shared.on_run, on_issue h]
  generalize max (Clock.word (expires - now)) 1 = span
  by_cases hf : left now (k.shelf now (tokenKey c)).2 < span ∧ accepts now span = false
  · rw [if_pos hf, if_pos hf]
    rfl
  · rw [if_neg hf, if_neg hf]
    rfl

theorem kickAll_on (h : k.IsFielded now (tokenKey c)) :
    (kickAll c).on now k =
      (.ok ((k.shelf now (tokenKey c)).1.filter fun _ value => value = usable).size,
        if (k.shelf now (tokenKey c)).1.isEmpty then k else
          k.put (tokenKey c) ⟨.fields ((k.shelf now (tokenKey c)).1.mapValues fun _ value =>
            if value = usable then kicked else value), (k.shelf now (tokenKey c)).2⟩) := by
  rw [kickAll, Shared.on_bind, Shared.on_run, on_kickAll h]
  rfl

theorem lookup_on (h : k.IsFielded now (tokenKey c)) :
    (lookup c token).on now k =
      (match (k.shelf now (tokenKey c)).1.get? token with
        | none => .ok .absent
        | some value => stateOf value, k) := by
  have hw : (fields now (tokenKey c) >>= fun t => pure (t.get? token) : Work (Option String)).on k =
      (.ok ((k.shelf now (tokenKey c)).1.get? token), k) := by
    rw [on_bind, on_fields h]
    rfl
  have hf : (send (.field (tokenKey c) token)).on now k =
      (.ok ((k.shelf now (tokenKey c)).1.get? token), k) :=
    congrArg (fun r : Except Refusal (Option String) × Keyspace =>
      (r.1.mapError Refusal.error, r.2)) hw
  rw [lookup, Shared.on_bind, hf]
  cases (k.shelf now (tokenKey c)).1.get? token <;> rfl

theorem tokens_on (h : k.IsFielded now (tokenKey c)) :
    (tokens c).on now k = (.ok (statesOf (k.shelf now (tokenKey c)).1), k) := by
  have hw : ((Command.allFields (tokenKey c)).work now).on k =
      (.ok (k.shelf now (tokenKey c)).1, k) := on_fields h
  rw [tokens, Shared.on_bind, Shared.on_send, hw]
  rfl

/-! ### What an operation can change -/

/-- Whether fields stand under all keys. -/
def HoldsFields (k : Keyspace) : Prop :=
  ∀ key e, k.entries.get? key = some e → ∃ t, e.content = .fields t

theorem holdsFields_empty : HoldsFields ∅ := by
  intro key e he
  cases he

theorem HoldsFields.isFielded (h : HoldsFields k) (now : Int) (key : String) :
    k.IsFielded now key :=
  fun e he => h key e (Option.filter_eq_some_iff.1 he).1

theorem HoldsFields.put (h : HoldsFields k) (key : String) (t : Table String String)
    (expires : Option Int) : HoldsFields (k.put key ⟨.fields t, expires⟩) := by
  intro other e he
  rw [get?_entries_put] at he
  split at he
  · cases he
    exact ⟨t, rfl⟩
  · exact h other e he

/-- Whether an end is followed by one that comes no earlier. -/
def Outlasts (expires later : Option Int) : Prop :=
  ∀ second, expires = some second → ∃ s, later = some s ∧ second ≤ s

theorem outlasts_prolonged {bound span : Int} (hb : bound ≤ span) (expires : Option Int) :
    Outlasts expires (prolonged now bound span expires) := by
  rintro second rfl
  rw [prolonged]
  split
  · rename_i h
    have : second - now < bound := h.1
    exact ⟨_, rfl, by omega⟩
  · exact ⟨second, rfl, Int.le_refl _⟩

/-- The value of a token after another or the token itself is issued. -/
theorem get?_issued (t : Table String String) (token other : String) :
    (issued t token).get? other =
      if other = token then some (if t.get? token = some kicked then kicked else usable)
      else (t.get? other).map fun value => if value = usable then kicked else value := by
  have hm : (t.mapValues fun o value => if isOther token o value then kicked else value).get? other =
      if other = token then t.get? token
      else (t.get? other).map fun value => if value = usable then kicked else value := by
    rw [Table.get?_mapValues]
    by_cases ho : other = token <;> simp [isOther, ho]
  have own : (t.mapValues fun o value => if isOther token o value then kicked else value).get?
      token = t.get? token := by
    rw [Table.get?_mapValues]
    simp [isOther]
  rw [issued, own]
  split
  · rename_i hk
    rw [hm, hk]
  · rw [Table.get?_insert, hm]
    split <;> rfl

/-- An issue takes no kicked token back. -/
theorem get?_issued_kicked {t : Table String String} {other : String}
    (h : t.get? token = some kicked) : (issued t other).get? token = some kicked := by
  rw [get?_issued]
  split
  · rename_i ht
    rw [← ht, h, if_pos rfl]
  · rw [h]
    rfl

/-- What an operation can do to a keyspace: it puts fields under one key, where it takes back no
kicked token and lets what stands there end no earlier. -/
inductive Step (k : Keyspace) (now : Int) : Keyspace → Prop where
  | still : Step k now k
  | put (key : String) (t : Table String String) (expires : Option Int)
      (kept : ∀ token, (k.shelf now key).1.get? token = some kicked → t.get? token = some kicked)
      (later : Outlasts (k.shelf now key).2 expires) : Step k now (k.put key ⟨.fields t, expires⟩)

theorem step_operate (h : HoldsFields k) (tombstone : UInt64) (now : Int) (op : TokenOperation) :
    Step k now (operate tombstone k now op) := by
  cases op with
  | issue c token expires =>
      rw [operate, issue_on (h.isFielded now _)]
      exact .put _ _ _ (fun _ hk => get?_issued_kicked hk) (outlasts_prolonged (Int.le_refl _) _)
  | kick c token =>
      rw [operate, kick_on (h.isFielded now _)]
      refine .put _ _ _ (fun other hk => ?_) (outlasts_prolonged (by omega) _)
      rw [Table.get?_insert]
      split
      · rfl
      · exact hk
  | kickAll c =>
      rw [operate, kickAll_on (h.isFielded now _)]
      dsimp only
      split
      · exact .still
      · refine .put _ _ _ (fun other hk => ?_) fun second hs => ⟨second, hs, Int.le_refl _⟩
        rw [Table.get?_mapValues, hk]
        rfl
  | lookup c token =>
      rw [operate, lookup_on (h.isFielded now _)]
      exact .still
  | tokens c =>
      rw [operate, tokens_on (h.isFielded now _)]
      exact .still
  | purge => exact .still

theorem Step.holdsFields (hs : Step k now l) (h : HoldsFields k) : HoldsFields l := by
  cases hs with
  | still => exact h
  | put key t expires _ _ => exact h.put key t expires

theorem HoldsFields.operateAll (h : HoldsFields k) (tombstone : UInt64)
    (run : List (Int × TokenOperation)) : HoldsFields (operateAll tombstone k run) := by
  induction run generalizing k with
  | nil => exact h
  | cons x run ih => exact ih ((step_operate h tombstone x.1 x.2).holdsFields h)

/-! ### Barred tokens -/

/-- Whether a token is barred until a second: it is kicked, and its key ends no earlier. -/
def IsBarred (k : Keyspace) (key token : String) (ends : Int) : Prop :=
  ∃ t second, k.entries.get? key = some ⟨.fields t, some second⟩ ∧
    t.get? token = some kicked ∧ ends ≤ second

theorem IsBarred.shelf (h : IsBarred k key token ends) (hn : now < ends) :
    ∃ t second, k.shelf now key = (t, some second) ∧ t.get? token = some kicked ∧
      ends ≤ second := by
  obtain ⟨t, second, he, hk, hs⟩ := h
  refine ⟨t, second, shelf_of_get? he ?_, hk, hs⟩
  rintro _ ⟨⟩
  omega

/-- A token is still barred after an operation that comes before the end. -/
theorem IsBarred.step (h : IsBarred k key token ends) (hn : now < ends) (hs : Step k now l) :
    IsBarred l key token ends := by
  cases hs with
  | still => exact h
  | put other t expires kept later =>
      by_cases ho : key = other
      · subst ho
        obtain ⟨u, second, hu, hku, hse⟩ := h.shelf hn
        rw [hu] at kept later
        obtain ⟨s, rfl, hle⟩ := later second rfl
        exact ⟨t, s, by rw [get?_entries_put, if_pos rfl], kept token hku, Int.le_trans hse hle⟩
      · obtain ⟨u, second, hu, hku⟩ := h
        exact ⟨u, second, by rw [get?_entries_put, if_neg ho, hu], hku⟩

/-- A token is still barred after a run before the end. -/
theorem IsBarred.operateAll (h : IsBarred k key token ends) (hf : HoldsFields k)
    (tombstone : UInt64) {run : List (Int × TokenOperation)} (hn : ∀ x ∈ run, x.1 < ends) :
    IsBarred (operateAll tombstone k run) key token ends := by
  induction run generalizing k with
  | nil => exact h
  | cons x run ih =>
      have hs := step_operate hf tombstone x.1 x.2
      have hx := h.step (hn x List.mem_cons_self) hs
      exact ih hx (hs.holdsFields hf) fun y hy => hn y (List.mem_cons_of_mem x hy)

theorem IsBarred.lookup_eq (h : IsBarred k (tokenKey c) token ends) (hf : HoldsFields k)
    (hn : now < ends) : ((lookup c token).on now k).1 = .ok .kicked := by
  obtain ⟨t, second, hs, hk, -⟩ := h.shelf hn
  rw [lookup_on (hf.isFielded now _), hs]
  dsimp only
  rw [hk]
  exact stateOf_kicked

/-! ### The end of a tombstone -/

/-- A kick lets the records of a client end when they would have, and where they have no end,
after the span of a tombstone. -/
theorem prolonged_kick {span : Int} (taken : accepts now span = true) :
    prolonged now 0 span (k.shelf now key).2 = some ((k.shelf now key).2.getD (now + span)) := by
  rw [prolonged]
  cases hs : (k.shelf now key).2 with
  | none => simp [left, taken]
  | some second =>
      have := lt_of_shelf hs
      have hl : ¬ left now (some second) < 0 := by
        change ¬ second - now < 0
        omega
      simp [hl]

theorem kick_of_accepts (h : HoldsFields k)
    (taken : accepts now (max tombstone.toNat 1) = true) (c : Client) (token : String) :
    ((kick tombstone c token).on now k).1 = .ok .kicked ∧
      (operate tombstone k now (.kick c token)).entries.get? (tokenKey c) =
        some ⟨.fields ((k.shelf now (tokenKey c)).1.insert token kicked),
          some ((k.shelf now (tokenKey c)).2.getD (now + max (tombstone.toNat : Int) 1))⟩ := by
  rw [operate, kick_on (h.isFielded now _), prolonged_kick taken, get?_entries_put, if_pos rfl]
  exact ⟨if_neg (not_refused taken), rfl⟩

theorem get?_issued_empty (token : String) : (issued ∅ token).get? token = some usable := by
  rw [get?_issued, if_pos rfl, Table.get?_empty, if_neg (by simp)]

/-- Once the records of a client have ended, any token can be issued to it. -/
theorem lookup_issue_of_ended (hf : HoldsFields k) {e : Entry}
    (he : k.entries.get? (tokenKey c) = some e) (gone : e.isLive now = false)
    (tombstone : UInt64) (token : String) (expires : Int) :
    ((lookup c token).on now (operate tombstone k now (.issue c token expires))).1 =
      .ok .normal := by
  have hs : k.shelf now (tokenKey c) = (∅, none) := by
    rw [Keyspace.shelf, live?, he, Option.filter_some, if_neg (by simp [gone])]
  have hl := (step_operate hf tombstone now (.issue c token expires)).holdsFields hf
  rw [lookup_on (hl.isFielded now _), operate, issue_on (hf.isFielded now _), hs]
  dsimp only
  rw [shelf_of_get? (by rw [get?_entries_put, if_pos rfl])]
  · rw [get?_issued_empty]
    exact stateOf_usable
  · intro second h
    rw [prolonged] at h
    split at h
    · cases h
      omega
    · cases h

/-- Whatever was done before: no later run takes a kicked token back before its tombstone was to end
exactly if the records of its client, at the time of the kick, had no nearer end. -/
theorem tombstone_lasts_iff (tombstone : UInt64) (prior : List (Int × TokenOperation)) (c : Client)
    (token : String) (time : Int) (taken : accepts time (max tombstone.toNat 1) = true) :
    let k := operateAll tombstone ∅ prior
    let l := operate tombstone k time (.kick c token)
    ((kick tombstone c token).on time k).1 = .ok .kicked ∧
      ((∀ run now, (time :: run.map Prod.fst ++ [now]).Pairwise (· ≤ ·) →
          now < time + tombstone.toNat →
          ((lookup c token).on now (operateAll tombstone l run)).1 ≠ .ok .normal) ↔
        ∀ second, (k.shelf time (tokenKey c)).2 = some second →
          time + tombstone.toNat ≤ second) := by
  intro k l
  have hk : HoldsFields k := holdsFields_empty.operateAll tombstone prior
  have hl : HoldsFields l := (step_operate hk tombstone time (.kick c token)).holdsFields hk
  obtain ⟨hr, he⟩ := kick_of_accepts hk taken c token
  refine ⟨hr, ?_, ?_⟩
  · intro h second hs
    -- the token is issued in the second in which the records end
    refine Int.not_lt.1 fun hlt => ?_
    rw [hs, Option.getD_some] at he
    have := lt_of_shelf hs
    apply h [(second, .issue c token (second + 1))] second
    · simp
      omega
    · omega
    · exact lookup_issue_of_ended hl he (by simp [Entry.isLive]) tombstone token (second + 1)
  · intro h run now forward hn
    have hb : IsBarred l (tokenKey c) token (time + tombstone.toNat) := by
      refine ⟨_, _, he, by rw [Table.get?_insert, if_pos rfl], ?_⟩
      cases hs : (k.shelf time (tokenKey c)).2 with
      | none =>
          rw [Option.getD_none]
          omega
      | some second => exact h second hs
    have hm : ∀ x ∈ run, x.1 < time + tombstone.toNat := by
      intro x hx
      have : x.1 ≤ now := (List.pairwise_append.1 forward).2.2 x.1
        (List.mem_cons_of_mem _ (List.mem_map_of_mem hx)) now (List.mem_singleton_self now)
      omega
    rw [(hb.operateAll hl tombstone hm).lookup_eq (hl.operateAll tombstone run) hn]
    simp

/-- A tombstone beside a token that stays longer outlives an issue of the kicked token. -/
theorem tombstone_beside_longer :
    let c : Client := ⟨"u", 1⟩
    let k := operateAll 3600 ∅ [(0, .issue c "other" 8000)]
    let l := operate 3600 k 100 (.kick c "token")
    accepts 100 (max (3600 : UInt64).toNat 1) = true ∧
      ((lookup c "token").on 3699
        (operateAll 3600 l [(200, .issue c "token" 9000), (300, .kickAll c)])).1 ≠
          .ok .normal := by
  intro c k l
  have taken : accepts 100 (max (3600 : UInt64).toNat 1) = true := by decide
  have longer : ∀ second, (k.shelf 100 (tokenKey c)).2 = some second →
      100 + ((3600 : UInt64).toNat : Int) ≤ second := by
    intro second hs
    have ends : (k.shelf 100 (tokenKey c)).2 = some 8000 := by decide +kernel
    cases ends.symm.trans hs
    decide
  exact ⟨taken, (tombstone_lasts_iff 3600 [(0, .issue c "other" 8000)] c "token" 100 taken).2.2
    longer _ _ (by decide) (by decide)⟩

/-- A token that is kicked for an hour beside records that end in ten seconds is usable again after
twenty. -/
theorem normal_before_tombstone_ends :
    let c : Client := ⟨"u", 1⟩
    let k := operateAll 3600 ∅ [(0, .issue c "other" 10), (0, .kickAll c)]
    let l := operate 3600 k 0 (.kick c "token")
    ((lookup c "token").on 0 k).1 = .ok .absent ∧
      ((kick 3600 c "token").on 0 k).1 = .ok .kicked ∧
      ((lookup c "token").on 20 (operateAll 3600 l [(20, .issue c "token" 3620)])).1 =
        .ok .normal :=
  ⟨rfl, rfl, rfl⟩

end Courier.Keyspace.Tokens
