/-!
# Tables

A table maps finitely many keys to one value each and keeps them in the order in which they came.
Every operation is described by what `get?` finds afterwards.
-/

namespace Courier

/-- Finitely many keys with one value each. -/
structure Table (κ ν : Type) where
  entries : List (κ × ν)
  nodup : (entries.map Prod.fst).Nodup

namespace Table

variable {κ ν μ : Type}

instance : EmptyCollection (Table κ ν) where
  emptyCollection := ⟨[], .nil⟩

instance : Inhabited (Table κ ν) where
  default := ∅

/-- The keys of a table. -/
def keys (t : Table κ ν) : List κ :=
  t.entries.map Prod.fst

/-- The values of a table. -/
def values (t : Table κ ν) : List ν :=
  t.entries.map Prod.snd

/-- The number of keys. -/
def size (t : Table κ ν) : Nat :=
  t.entries.length

/-- Whether a table has no key. -/
def isEmpty (t : Table κ ν) : Bool :=
  t.entries.isEmpty

/-- Keeps the entries that pass. -/
def filter (p : κ → ν → Bool) (t : Table κ ν) : Table κ ν where
  entries := t.entries.filter fun e => p e.1 e.2
  nodup := t.nodup.sublist (List.filter_sublist.map _)

/-- Changes every value. -/
def mapValues (f : κ → ν → μ) (t : Table κ ν) : Table κ μ where
  entries := t.entries.map fun e => (e.1, f e.1 e.2)
  nodup := by simpa [Function.comp_def] using t.nodup

variable [DecidableEq κ]

/-- The value of a key. -/
def get? (t : Table κ ν) (k : κ) : Option ν :=
  (t.entries.find? fun e => e.1 = k).map Prod.snd

/-- Whether a key has a value. -/
def contains (t : Table κ ν) (k : κ) : Bool :=
  (t.get? k).isSome

/-- Takes a key out. -/
def erase (t : Table κ ν) (k : κ) : Table κ ν :=
  t.filter fun j _ => j ≠ k

/-- Changes the value of a key, if it has one. -/
def modify (t : Table κ ν) (k : κ) (f : ν → ν) : Table κ ν :=
  t.mapValues fun j v => if j = k then f v else v

/-- Gives a key a value. A new key comes last. -/
def insert (t : Table κ ν) (k : κ) (v : ν) : Table κ ν :=
  if h : k ∈ t.keys then t.modify k fun _ => v
  else {
    entries := t.entries ++ [(k, v)]
    nodup := by
      rw [List.map_append, List.nodup_append]
      refine ⟨t.nodup, by simp, ?_⟩
      intro a ha b hb
      simp only [List.map_cons, List.map_nil, List.mem_singleton] at hb
      subst hb
      exact fun e => h (e ▸ ha) }

@[simp] theorem get?_empty (k : κ) : (∅ : Table κ ν).get? k = none := rfl

theorem find?_key {l : List (κ × ν)} (h : (l.map Prod.fst).Nodup) {e : κ × ν} (he : e ∈ l) :
    l.find? (fun x => x.1 = e.1) = some e := by
  induction l with
  | nil => cases he
  | cons x rest ih =>
    rw [List.map_cons, List.nodup_cons] at h
    rcases List.mem_cons.1 he with rfl | he
    · simp
    · have : x.1 ≠ e.1 := fun hx => h.1 (hx ▸ List.mem_map_of_mem he)
      rw [List.find?_cons_of_neg (by simpa using this)]
      exact ih h.2 he

theorem get?_eq_some_iff {t : Table κ ν} {k : κ} {v : ν} :
    t.get? k = some v ↔ (k, v) ∈ t.entries := by
  constructor
  · intro h
    obtain ⟨e, he, rfl⟩ := Option.map_eq_some_iff.1 h
    have hk : e.1 = k := by simpa using List.find?_some he
    exact hk ▸ List.mem_of_find?_eq_some he
  · intro h
    rw [get?, find?_key t.nodup h]
    rfl

theorem get?_eq_none_iff {t : Table κ ν} {k : κ} : t.get? k = none ↔ k ∉ t.keys := by
  simp only [get?, Option.map_eq_none_iff, List.find?_eq_none, keys, List.mem_map, not_exists,
    not_and, decide_eq_true_eq]

theorem get?_of_isEmpty {t : Table κ ν} (h : t.isEmpty = true) (k : κ) : t.get? k = none := by
  simp [get?, List.isEmpty_iff.1 h]

theorem mem_keys_iff {t : Table κ ν} {k : κ} : k ∈ t.keys ↔ ∃ v, t.get? k = some v := by
  simp [keys, get?_eq_some_iff]

@[simp] theorem get?_filter (p : κ → ν → Bool) (t : Table κ ν) (k : κ) :
    (t.filter p).get? k = (t.get? k).filter (p k) := by
  apply Option.ext
  intro v
  rw [get?_eq_some_iff, Option.filter_eq_some_iff, get?_eq_some_iff]
  simp [filter]

@[simp] theorem get?_mapValues (f : κ → ν → μ) (t : Table κ ν) (k : κ) :
    (t.mapValues f).get? k = (t.get? k).map (f k) := by
  apply Option.ext
  intro v
  rw [get?_eq_some_iff, Option.map_eq_some_iff]
  simp only [get?_eq_some_iff, mapValues, List.mem_map, Prod.mk.injEq, Prod.exists]
  exact ⟨fun ⟨_, w, hw, hk, hv⟩ => ⟨w, hk ▸ hw, hk ▸ hv⟩, fun ⟨w, hw, hv⟩ => ⟨k, w, hw, rfl, hv⟩⟩

theorem get?_erase (t : Table κ ν) (k j : κ) :
    (t.erase k).get? j = if j = k then none else t.get? j := by
  rw [erase, get?_filter]
  by_cases h : j = k <;> cases t.get? j <;> simp [h, Option.filter]

theorem get?_modify (t : Table κ ν) (k : κ) (f : ν → ν) (j : κ) :
    (t.modify k f).get? j = if j = k then (t.get? j).map f else t.get? j := by
  by_cases h : j = k <;> simp [modify, h]

theorem get?_insert (t : Table κ ν) (k : κ) (v : ν) (j : κ) :
    (t.insert k v).get? j = if j = k then some v else t.get? j := by
  unfold insert
  split
  · rename_i h
    obtain ⟨w, hw⟩ := mem_keys_iff.1 h
    rw [get?_modify]
    by_cases hj : j = k
    · simp [hj, hw]
    · simp [hj]
  · rename_i h
    have hk : ∀ x, (k, x) ∉ t.entries := fun x hx => h (List.mem_map_of_mem hx)
    apply Option.ext
    intro w
    rw [get?_eq_some_iff]
    by_cases hj : j = k
    · simp [hj, hk, eq_comm]
    · simp [hj, get?_eq_some_iff]

@[simp] theorem get?_insert_self (t : Table κ ν) (k : κ) (v : ν) :
    (t.insert k v).get? k = some v := by
  simp [get?_insert]

@[simp] theorem get?_erase_self (t : Table κ ν) (k : κ) : (t.erase k).get? k = none := by
  simp [get?_erase]

/-- Changes what a key maps to, which may be nothing before and after. -/
def alter (t : Table κ ν) (k : κ) (f : Option ν → Option ν) : Table κ ν :=
  match f (t.get? k) with
  | some v => t.insert k v
  | none => t.erase k

theorem get?_alter (t : Table κ ν) (k : κ) (f : Option ν → Option ν) (j : κ) :
    (t.alter k f).get? j = if j = k then f (t.get? k) else t.get? j := by
  unfold alter
  cases h : f (t.get? k) <;> simp [get?_insert, get?_erase]

end Table

end Courier
