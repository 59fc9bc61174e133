import Courier.Proofs.Json.Record

/-!
# What the fields of a record stand for

A reader that takes a value tells what the value is: a text or a whole number is taken for nothing
but itself, and a variant without a value is written in one of two ways. Main statement: a field
that a record is read with stands exactly once among the members of an object, and in its own place
in an array.
-/

namespace Courier.Json

/-! ### Readers of single values -/

theorem map_eq_ok_iff {ε α β : Type} {x : Except ε α} {f : α → β} {b : β} :
    f <$> x = .ok b ↔ ∃ a, x = .ok a ∧ f a = b := by
  cases x <;> simp [Functor.map, Except.map]

theorem readText_eq_ok_iff {v : Json} {s : String} : readText v = .ok s ↔ v = .text s := by
  constructor
  · intro h
    unfold readText at h
    split at h
    · cases h
      rfl
    · cases h
  · rintro rfl
    rfl

theorem readNull_eq_ok_iff {v : Json} {u : Unit} : readNull v = .ok u ↔ v = .null := by
  constructor
  · intro h
    unfold readNull at h
    split at h
    · rfl
    · cases h
  · rintro rfl
    rfl

theorem skip_eq_ok_iff {v : Json} : skip v = .ok () ↔ v.isSkippable = true := by
  unfold skip
  cases v.isSkippable <;> simp

theorem eq_whole_of_int? {n : Number} {i : Int} (h : n.int? = some i) :
    n = .whole (i < 0) i.natAbs := by
  unfold Number.int? at h
  split at h
  · cases h
  · rename_i m hm
    cases h
    have hp : m ≠ 0 := hm
    have hn : -(m : Int) < 0 := by omega
    rw [decide_eq_true hn, Int.natAbs_neg, Int.natAbs_natCast]
  · rename_i m
    cases h
    have hn : ¬ (m : Int) < 0 := by omega
    rw [decide_eq_false hn, Int.natAbs_natCast]
  · cases h

/-- A whole number is read from nothing but itself. -/
theorem eq_ofInt_of_readInt {least most i : Int} {v : Json} (h : readInt least most v = .ok i) :
    v = .ofInt i ∧ least ≤ i ∧ i ≤ most := by
  unfold readInt at h
  split at h
  · split at h
    · split at h
      · rename_i n _ j hj
        split at h
        · rename_i hi
          cases h
          exact ⟨congrArg Json.num (eq_whole_of_int? hj), hi⟩
        · cases h
      · cases h
    · cases h
  · cases h

theorem readCode_eq_ok_iff {v : Json} {n : Int32} : readCode v = .ok n ↔ v = .ofInt n.toInt := by
  constructor
  · intro h
    obtain ⟨i, hi, hn⟩ := bind_eq_ok_iff.1 (show readInt _ _ v >>= (.ok ∘ Int32.ofInt) = _ from h)
    obtain ⟨rfl, hl, hm⟩ := eq_ofInt_of_readInt hi
    cases hn
    rw [Int32.toInt_ofInt_of_le hl (by omega)]
  · rintro rfl
    exact readCode_ofInt n

theorem readTime_eq_ok_iff {v : Json} {n : Int64} : readTime v = .ok n ↔ v = .ofInt n.toInt := by
  constructor
  · intro h
    obtain ⟨i, hi, hn⟩ := bind_eq_ok_iff.1 (show readInt _ _ v >>= (.ok ∘ Int64.ofInt) = _ from h)
    obtain ⟨rfl, hl, hm⟩ := eq_ofInt_of_readInt hi
    cases hn
    rw [Int64.toInt_ofInt_of_le hl (by omega)]
  · rintro rfl
    exact readTime_ofInt n

/-- Whether a value names a variant that has no value: as a text, or as the one member of an
object. -/
def Names (name : String) (v : Json) : Prop :=
  v = .text name ∨ ∃ ending, ending ≠ .cut ∧ v = .obj [(.quoted (.text name), .null)] ending

theorem names_of_readVariant {α : Type} {bare : String → Option α} {v : Json} {a : α}
    (h : readVariant bare (fun _ => none) v = .ok a) :
    ∃ name, bare name = some a ∧ Names name v := by
  unfold readVariant at h
  split at h
  · rename_i name
    cases hb : bare name with
    | none => simp [hb] at h
    | some b =>
        simp only [hb, Except.ok.injEq] at h
        exact ⟨name, h ▸ hb, .inl rfl⟩
  · rename_i name w rest ending
    cases hn : bare name with
    | none => simp [hn, bind, Except.bind, throw, throwThe, MonadExceptOf.throw] at h
    | some b =>
        simp only [hn] at h
        obtain ⟨c, hc, h⟩ := bind_eq_ok_iff.1 h
        split at h
        · rename_i alone
          cases h
          obtain ⟨hr, hcut⟩ := alone
          cases w with
          | null =>
              cases hc
              exact ⟨name, hn, .inr ⟨ending, hcut, by rw [List.isEmpty_iff.1 hr]⟩⟩
          | _ => cases hc
        · cases h
  · cases h
  · cases h

/-- A variant without a value is read from what names it, and from nothing else. -/
theorem readVariant_eq_ok_iff {α : Type} {bare : String → Option α} {v : Json} {a : α} :
    readVariant bare (fun _ => none) v = .ok a ↔ ∃ name, bare name = some a ∧ Names name v := by
  constructor
  · exact names_of_readVariant
  · rintro ⟨name, hb, rfl | ⟨ending, hc, rfl⟩⟩
    · simp [readVariant, hb]
    · simp [readVariant, hb, hc, readNull, bind, Except.bind, Functor.map, Except.map, pure,
        Except.pure]

/-! ### Fields of records -/

/-- The values of the members of a name, in order. -/
def valuesOf (members : List (Key × Json)) (name : String) : List Json :=
  members.filterMap fun m => if m.1 = .quoted (.text name) then some m.2 else none

variable {fields : List Field} {members : List (Key × Json)} {given found : Given}
  {ending : Ending} {name : String}

/-- A known field is found with what was given for it before and what the members have, and that is
one value at most. -/
theorem lookup_readMembers (h : readMembers fields given members = .ok found)
    (known : name ∈ fields.map Field.name) :
    (found.lookup name).toList = (given.lookup name).toList ++ valuesOf members name := by
  -- what was given grows along the members, so the induction is over both
  fun_induction readMembers fields given members with
  | case1 given =>
      cases h
      simp [valuesOf]
  | case2 given key v rest hn ih =>
      obtain ⟨-, -, h⟩ := bind_eq_ok_iff.1 h
      have hk : key ≠ name := by
        rintro rfl
        obtain ⟨f, hf, he⟩ := List.mem_map.1 known
        exact absurd (List.find?_eq_none.1 hn f hf) (by simp [he])
      rw [ih h]
      simp [valuesOf, hk]
  | case3 => cases h
  | case4 given key v rest f _ _ new ih =>
      obtain ⟨-, -, h⟩ := bind_eq_ok_iff.1 h
      rw [ih h, List.lookup_append]
      by_cases hk : key = name
      · subst hk
        simp [Option.not_isSome_iff_eq_none.1 new, valuesOf]
      · have other : (name == key) = false := beq_false_of_ne (Ne.symm hk)
        simp [valuesOf, hk, List.lookup_cons, other]
  | case5 => cases h

/-- The values of an array are taken for the fields in their order. -/
theorem readPositions_eq_ok {items : List Json}
    (h : readPositions ending fields items = .ok found) :
    found = (fields.map Field.name).zip items := by
  fun_induction readPositions ending fields items generalizing found with
  | case1 => cases h
  | case2 =>
      cases h
      rfl
  | case3 => cases h
  | case4 => cases h
  | case5 f fs _ _ ih => simpa using ih h
  | case6 => cases h
  | case7 f fs v vs ih =>
      obtain ⟨-, -, h⟩ := bind_eq_ok_iff.1 h
      obtain ⟨rest, hr, h⟩ := bind_eq_ok_iff.1 h
      cases h
      rw [ih hr]
      rfl

/-- An object that a record is read from ends with its bracket, and gives what its members do. -/
theorem readMembers_of_readFields (h : readFields fields (.obj members ending) = .ok found) :
    ending ≠ .cut ∧ readMembers fields [] members = .ok found := by
  obtain ⟨given, hm, h⟩ := bind_eq_ok_iff.1 h
  by_cases hc : ending = .cut
  · simp [hc, bind, Except.bind, throw, throwThe, MonadExceptOf.throw] at h
  · rw [if_neg hc] at h
    dsimp only at h
    split at h
    · cases h
    · cases h
      exact ⟨hc, hm⟩

/-- A field that an object is read with stands once in it, with a value that is read so. -/
theorem exists_valuesOf_of_get {α : Type} {read : Reader α} {a : α}
    (h : readFields fields (.obj members ending) = .ok found)
    (known : name ∈ fields.map Field.name) (ha : found.get name read = .ok a) :
    ∃ v, valuesOf members name = [v] ∧ read v = .ok a := by
  obtain ⟨v, hv, hr⟩ := Given.get_eq_ok_iff.1 ha
  have hl := lookup_readMembers (readMembers_of_readFields h).2 known
  rw [hv] at hl
  exact ⟨v, by simpa using hl.symm, hr⟩

theorem Document.read_eq_ok_iff {α : Type} {d : Document} {read : Reader α} {a : α} :
    d.read read = .ok a ↔ read d.root = .ok a ∧ d.ends = true := by
  unfold Document.read
  cases read d.root <;> cases d.ends <;>
    simp [bind, Except.bind, pure, Except.pure, throw, throwThe, MonadExceptOf.throw]

end Courier.Json
