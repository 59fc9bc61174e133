import Courier.Proofs.Json.Parse

/-!
# Written values are read back

Integers of the sizes that records use are finite in double precision, and the readers of bytes, of
small codes and of points in time take what is written for them. So do the readers of lists and of
optional values, if their items are read back.
-/

namespace Courier.Json

/-- A word of 64 bits is finite in double precision: it has at most 20 digits. -/
theorem isFinite_of_lt {m : Nat} (h : m < 18446744073709551616) :
    Decimal.isFinite m 0 = true := by
  have hp : 18446744073709551616 ≤ 10 ^ 20 := by decide
  have hl : (Nat.toDigits 10 m).length ≤ 20 :=
    (Nat.length_toDigits_le_iff (by decide) (by decide)).2 (Nat.lt_of_lt_of_le h hp)
  have hs : m = 0 ∨ ((Nat.toDigits 10 m).length : Int) + 0 < 309 := Or.inr (by omega)
  simp only [Decimal.isFinite, if_pos hs]

theorem readInt_ofInt {least most n : Int} (hl : least ≤ n) (hm : n ≤ most)
    (hf : n.natAbs < 18446744073709551616) : readInt least most (ofInt n) = .ok n := by
  simp only [readInt, ofInt, Number.isFinite, isFinite_of_lt hf, int?_ofInt, hl, hm, and_self,
    if_true]

theorem readCode_ofInt (n : Int32) : readCode (ofInt n.toInt) = .ok n := by
  have hl := n.le_toInt
  have hm := n.toInt_lt
  rw [readCode, readInt_ofInt (by omega) (by omega) (by omega)]
  exact congrArg Except.ok (Int32.ofInt_toInt n)

theorem readTime_ofInt (n : Int64) : readTime (ofInt n.toInt) = .ok n := by
  have hl := n.le_toInt
  have hm := n.toInt_lt
  rw [readTime, readInt_ofInt (by omega) (by omega) (by omega)]
  exact congrArg Except.ok (Int64.ofInt_toInt n)

theorem readByte_ofNat (b : UInt8) : readByte (.ofNat b.toNat) = .ok b := by
  have hb := b.toNat_lt
  have hn : Json.ofNat b.toNat = .ofInt b.toNat := by simp [ofInt]
  rw [readByte, hn, readInt_ofInt (by omega) (by omega) (by omega)]
  exact congrArg Except.ok (by simp)

theorem readList_array {α : Type} {read : Reader α} {write : α → Json}
    (h : ∀ a, read (write a) = .ok a) (l : List α) :
    readList read (.array (l.map write)) = .ok l := by
  have hm : (l.map write).mapM read = .ok l := by
    induction l with
    | nil => rfl
    | cons a l ih => simp [List.mapM_cons, h, ih, bind, Except.bind, pure, Except.pure]
  simp [readList, hm, bind, Except.bind, pure, Except.pure]

theorem readOptional_getD {α : Type} {read : Reader α} {write : α → Json}
    (h : ∀ a, read (write a) = .ok a) (hn : ∀ a, write a ≠ .null) (a : Option α) :
    readOptional read ((a.map write).getD .null) = .ok a := by
  cases a with
  | none => rfl
  | some a =>
      have hr := h a
      have hw := hn a
      simp only [Option.map_some, Option.getD_some]
      generalize write a = v at hr hw
      unfold readOptional
      split
      · exact absurd rfl hw
      · rw [hr]
        rfl

/-- A reading in two steps gives a value exactly when both of its steps do. -/
theorem bind_eq_ok_iff {ε α β : Type} {x : Except ε α} {f : α → Except ε β} {b : β} :
    x >>= f = .ok b ↔ ∃ a, x = .ok a ∧ f a = .ok b := by
  cases x <;> simp [bind, Except.bind]

/-- A reading in two steps fails in the first of them or in the second. -/
theorem bind_eq_error_iff {ε α β : Type} {x : Except ε α} {f : α → Except ε β} {e : ε} :
    x >>= f = .error e ↔ x = .error e ∨ ∃ a, x = .ok a ∧ f a = .error e := by
  cases x <;> simp [bind, Except.bind]

theorem toOption_eq_some_iff {ε α : Type} {x : Except ε α} {a : α} :
    x.toOption = some a ↔ x = .ok a := by
  cases x <;> simp [Except.toOption]

/-- The value of a field that has to be given is read from the value that stands for it. -/
theorem Given.get_eq_ok_iff {α : Type} {given : Given} {name : String} {read : Reader α} {a : α} :
    given.get name read = .ok a ↔ ∃ v, given.lookup name = some v ∧ read v = .ok a := by
  unfold Given.get Given.get?
  cases given.lookup name with
  | none => simp [bind, Except.bind, throw, throwThe, MonadExceptOf.throw]
  | some v =>
      cases hr : read v <;>
        simp [hr, bind, Except.bind, Functor.map, Except.map, pure, Except.pure]

@[simp] theorem whole_ofInt (n : Int) : Whole (ofInt n) :=
  .num _ _

end Courier.Json
