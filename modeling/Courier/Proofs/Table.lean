import Courier.Table

/-!
# Entries of tables

What inserting, erasing and changing values do to the row of entries: a new key adds one entry, a
key that is erased takes its one entry away, and a change of all values commutes with both.
-/

namespace Courier.Table

variable {κ ν μ : Type}

theorem ext {t u : Table κ ν} (h : t.entries = u.entries) : t = u := by
  cases t
  cases u
  cases h
  rfl

theorem mem_keys_of_mem {t : Table κ ν} {k : κ} {v : ν} (h : (k, v) ∈ t.entries) : k ∈ t.keys :=
  List.mem_map_of_mem h

theorem length_keys (t : Table κ ν) : t.keys.length = t.size :=
  List.length_map _

/-- Tables with the same keys have the same size. -/
theorem size_eq_of_keys {t : Table κ ν} {u : Table κ μ} (h : ∀ k, k ∈ t.keys ↔ k ∈ u.keys) :
    t.size = u.size := by
  have hp : t.keys.Perm u.keys := (List.perm_ext_iff_of_nodup t.nodup u.nodup).2 h
  rw [← length_keys, ← length_keys, hp.length_eq]

theorem entries_mapValues (f : κ → ν → μ) (t : Table κ ν) :
    (t.mapValues f).entries = t.entries.map fun e => (e.1, f e.1 e.2) := rfl

@[simp] theorem keys_mapValues (f : κ → ν → μ) (t : Table κ ν) : (t.mapValues f).keys = t.keys := by
  simp [keys, mapValues, Function.comp_def]

@[simp] theorem isEmpty_mapValues (f : κ → ν → μ) (t : Table κ ν) :
    (t.mapValues f).isEmpty = t.isEmpty := by
  simp [isEmpty, mapValues]

variable [DecidableEq κ]

theorem mem_keys_filter_iff {t : Table κ ν} {p : κ → ν → Bool} {k : κ} :
    k ∈ (t.filter p).keys ↔ ∃ v, t.get? k = some v ∧ p k v = true := by
  simp only [mem_keys_iff, get?_filter, Option.filter_eq_some_iff]

theorem get?_insert_eq_some_iff {t : Table κ ν} {k j : κ} {v w : ν} :
    (t.insert k v).get? j = some w ↔ j = k ∧ w = v ∨ j ≠ k ∧ t.get? j = some w := by
  rw [get?_insert]
  by_cases h : j = k <;> simp [h, eq_comm]

theorem entries_insert_of_notMem {t : Table κ ν} {k : κ} (h : k ∉ t.keys) (v : ν) :
    (t.insert k v).entries = t.entries ++ [(k, v)] := by
  rw [insert, dif_neg h]

theorem size_insert_of_notMem {t : Table κ ν} {k : κ} (h : k ∉ t.keys) (v : ν) :
    (t.insert k v).size = t.size + 1 := by
  rw [size, entries_insert_of_notMem h, List.length_append]
  rfl

theorem size_insert_of_mem {t : Table κ ν} {k : κ} (h : k ∈ t.keys) (v : ν) :
    (t.insert k v).size = t.size := by
  rw [insert, dif_pos h]
  simp [modify, mapValues, size]

/-- Keys that are numbers below the size stay so when the size is inserted as the next key. -/
theorem lt_size_insert_size {t : Table Nat ν} (h : ∀ k ∈ t.keys, k < t.size) (v : ν) :
    ∀ k ∈ (t.insert t.size v).keys, k < (t.insert t.size v).size := by
  intro k hk
  rw [size_insert_of_notMem fun hm => Nat.lt_irrefl _ (h _ hm)]
  rw [mem_keys_iff] at hk
  obtain ⟨w, hw⟩ := hk
  rcases get?_insert_eq_some_iff.1 hw with ⟨rfl, -⟩ | ⟨-, hw⟩
  · exact Nat.lt_succ_self _
  · exact Nat.lt_succ_of_lt (h k (mem_keys_iff.2 ⟨w, hw⟩))

theorem lt_size_insert_of_mem {t : Table Nat ν} (h : ∀ k ∈ t.keys, k < t.size) {j : Nat}
    (hj : j ∈ t.keys) (v : ν) : ∀ k ∈ (t.insert j v).keys, k < (t.insert j v).size := by
  intro k hk
  rw [size_insert_of_mem hj]
  rw [mem_keys_iff] at hk
  obtain ⟨w, hw⟩ := hk
  rcases get?_insert_eq_some_iff.1 hw with ⟨rfl, -⟩ | ⟨-, hw⟩
  · exact h _ hj
  · exact h k (mem_keys_iff.2 ⟨w, hw⟩)

/-- The last value counts that is inserted at a key. -/
theorem insert_insert (t : Table κ ν) (k : κ) (v w : ν) :
    (t.insert k v).insert k w = t.insert k w := by
  have hk : k ∈ (t.insert k v).keys := mem_keys_iff.2 ⟨v, get?_insert_self t k v⟩
  apply ext
  by_cases h : k ∈ t.keys
  · rw [insert, dif_pos hk, insert, dif_pos h, insert, dif_pos h]
    simp only [modify, entries_mapValues, List.map_map]
    apply List.map_congr_left
    intro e _
    by_cases he : e.1 = k <;> simp [he]
  · rw [insert, dif_pos hk, modify, entries_mapValues, entries_insert_of_notMem h,
      entries_insert_of_notMem h, List.map_append]
    congr 1
    · refine (List.map_congr_left fun e he => ?_).trans (List.map_id _)
      have : e.1 ≠ k := fun hek => h (hek ▸ mem_keys_of_mem he)
      simp [this]
    · simp

theorem entries_erase (t : Table κ ν) (k : κ) :
    (t.erase k).entries = t.entries.filter fun e => e.1 ≠ k := rfl

theorem mem_keys_insert_iff {t : Table κ ν} {k j : κ} {v : ν} :
    j ∈ (t.insert k v).keys ↔ j = k ∨ j ∈ t.keys := by
  rw [mem_keys_iff, mem_keys_iff]
  by_cases h : j = k <;> simp [get?_insert, h]

theorem mem_keys_of_mem_erase {t : Table κ ν} {k j : κ} (h : j ∈ (t.erase k).keys) :
    j ∈ t.keys := by
  obtain ⟨v, hv⟩ := mem_keys_iff.1 h
  rw [get?_erase] at hv
  split at hv
  · cases hv
  · exact mem_keys_iff.2 ⟨v, hv⟩

theorem erase_of_get?_eq_none {t : Table κ ν} {k : κ} (h : t.get? k = none) : t.erase k = t := by
  apply ext
  rw [entries_erase, List.filter_eq_self]
  rintro ⟨j, v⟩ hj
  have : j ≠ k := fun hk => get?_eq_none_iff.1 h (hk ▸ mem_keys_of_mem hj)
  simpa using this

/-- A key that has a value has one entry, which is gone when the key is erased. -/
theorem perm_erase {t : Table κ ν} {k : κ} {v : ν} (h : t.get? k = some v) :
    t.entries.Perm ((k, v) :: (t.erase k).entries) := by
  rw [entries_erase]
  have hm := get?_eq_some_iff.1 h
  have hn := t.nodup
  generalize t.entries = l at hm hn
  induction l with
  | nil => cases hm
  | cons e rest ih =>
      rw [List.map_cons, List.nodup_cons] at hn
      rcases List.mem_cons.1 hm with rfl | hm
      · have hr : rest.filter (fun e => e.1 ≠ k) = rest := by
          rw [List.filter_eq_self]
          rintro ⟨j, w⟩ he
          have hj : j ∈ rest.map Prod.fst := List.mem_map.2 ⟨(j, w), he, rfl⟩
          have : j ≠ k := fun hk => hn.1 (hk ▸ hj)
          simpa using this
        rw [List.filter_cons_of_neg (by simp), hr]
      · have hj : k ∈ rest.map Prod.fst := List.mem_map.2 ⟨(k, v), hm, rfl⟩
        have he : e.1 ≠ k := fun hk => hn.1 (hk ▸ hj)
        rw [List.filter_cons_of_pos (by simpa using he)]
        exact ((ih hm hn.2).cons e).trans (List.Perm.swap _ _ _)

theorem mapValues_insert (f : ν → μ) (t : Table κ ν) (k : κ) (v : ν) :
    (t.insert k v).mapValues (fun _ => f) = (t.mapValues fun _ => f).insert k (f v) := by
  apply ext
  by_cases h : k ∈ t.keys
  · have h' : k ∈ (t.mapValues fun _ => f).keys := by rwa [keys_mapValues]
    rw [insert, dif_pos h, insert, dif_pos h']
    simp only [modify, entries_mapValues, List.map_map]
    apply List.map_congr_left
    intro e _
    by_cases hk : e.1 = k <;> simp [hk]
  · have h' : k ∉ (t.mapValues fun _ => f).keys := by rwa [keys_mapValues]
    rw [entries_insert_of_notMem h', entries_mapValues, entries_insert_of_notMem h,
      entries_mapValues, List.map_append]
    rfl

theorem mapValues_erase (f : ν → μ) (t : Table κ ν) (k : κ) :
    (t.erase k).mapValues (fun _ => f) = (t.mapValues fun _ => f).erase k := by
  apply ext
  simp [entries_mapValues, entries_erase, List.filter_map, Function.comp_def]

theorem modify_congr {t : Table κ ν} {k : κ} {f g : ν → ν}
    (h : ∀ v, t.get? k = some v → f v = g v) : t.modify k f = t.modify k g := by
  apply ext
  simp only [modify, entries_mapValues]
  apply List.map_congr_left
  rintro ⟨j, v⟩ hj
  by_cases hk : j = k
  · subst hk
    simp [h v (get?_eq_some_iff.2 hj)]
  · simp [hk]

theorem modify_comm (t : Table κ ν) {k j : κ} (h : k ≠ j) (f g : ν → ν) :
    (t.modify k f).modify j g = (t.modify j g).modify k f := by
  apply ext
  simp only [modify, entries_mapValues, List.map_map]
  apply List.map_congr_left
  rintro ⟨i, v⟩ -
  by_cases hk : i = k
  · subst hk
    simp [h]
  · simp [hk]

omit [DecidableEq κ] in
theorem filter_comm (t : Table κ ν) (p q : κ → ν → Bool) :
    (t.filter p).filter q = (t.filter q).filter p := by
  apply ext
  simp [filter, Bool.and_comm]

/-- A change of values that a filter does not notice commutes with it. -/
theorem modify_filter (t : Table κ ν) {p : κ → ν → Bool} {k : κ} {f : ν → ν}
    (h : ∀ v, p k (f v) = p k v) : (t.filter p).modify k f = (t.modify k f).filter p := by
  apply ext
  simp only [filter, modify, entries_mapValues, List.filter_map]
  congr 1
  apply List.filter_congr
  rintro ⟨j, v⟩ -
  by_cases hj : j = k
  · subst hj
    simp [h]
  · simp [hj]

theorem eq_of_mem {t : Table κ ν} {k : κ} {v w : ν} (h : t.get? k = some w)
    (hm : (k, v) ∈ t.entries) : v = w :=
  Option.some.inj ((get?_eq_some_iff.2 hm).symm.trans h)

/-- To give a key the value that it has changes nothing. -/
theorem insert_eq_self {t : Table κ ν} {k : κ} {v : ν} (h : t.get? k = some v) :
    t.insert k v = t := by
  rw [insert, dif_pos (mem_keys_iff.2 ⟨v, h⟩)]
  apply ext
  calc
    (t.modify k fun _ => v).entries = t.entries.map id := by
      apply List.map_congr_left
      rintro ⟨j, w⟩ hj
      by_cases hk : j = k
      · subst hk
        simp [eq_of_mem h hj]
      · simp [hk]
    _ = t.entries := List.map_id _

/-- To drop the value of a key if it fails a test is to keep all entries but that one. -/
theorem alter_filter (t : Table κ ν) (k : κ) (p : ν → Bool) :
    t.alter k (Option.filter p) = t.filter fun j v => j ≠ k || p v := by
  unfold alter
  cases h : t.get? k with
  | none =>
      apply ext
      simp only [Option.filter_none, entries_erase, filter]
      apply List.filter_congr
      rintro ⟨j, v⟩ hj
      have : j ≠ k := fun hk => get?_eq_none_iff.1 h (hk ▸ mem_keys_of_mem hj)
      simp [this]
  | some w =>
      have hf : ∀ e ∈ t.entries, (decide (e.1 ≠ k) || p e.2) = (decide (e.1 ≠ k) || p w) := by
        rintro ⟨j, v⟩ hj
        by_cases hk : j = k
        · subst hk
          simp [eq_of_mem h hj]
        · simp [hk]
      have hr : (t.filter fun j v => j ≠ k || p v).entries =
          t.entries.filter fun e => decide (e.1 ≠ k) || p w := List.filter_congr hf
      cases hp : p w with
      | true =>
          rw [Option.filter_some_pos hp]
          dsimp only
          rw [insert_eq_self h]
          apply ext
          rw [hr, List.filter_eq_self.2 (by simp [hp])]
      | false =>
          rw [Option.filter_some_neg (by simp [hp])]
          apply ext
          rw [hr, hp]
          simp [entries_erase]

end Courier.Table
