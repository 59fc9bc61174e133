import Courier.Text.Decimal
import Mathlib.Data.List.Induction

/-!
# Numerals

A numeral of a natural number is its decimal digits, perhaps behind zeros and a plus. Main statement:
a port number or a count is read from its numerals, and from no other text.
-/

namespace Courier.Decimal

/-- Whether a text is a numeral of a natural number. -/
def IsNumeral (n : Nat) (s : String) : Prop :=
  ∃ zeros, s.toList = List.replicate zeros '0' ++ Nat.toDigits 10 n ∨
    s.toList = '+' :: (List.replicate zeros '0' ++ Nat.toDigits 10 n)

variable {cs : List Char} {s : String} {most n : Nat}

/-- The value of a row of digits, whether or not it is empty. -/
def valueOf (cs : List Char) : Nat :=
  cs.foldl (fun n c => n * 10 + (c.toNat - '0'.toNat)) 0

theorem valueOf_concat (cs : List Char) (c : Char) :
    valueOf (cs ++ [c]) = valueOf cs * 10 + (c.toNat - '0'.toNat) :=
  List.foldl_append

theorem valueOf_toDigits (n : Nat) : valueOf (Nat.toDigits 10 n) = n := by
  have h := @Nat.ofDigitChars_ten_toDigits n
  simpa only [valueOf, Nat.ofDigitChars, Nat.mul_comm 10] using h

theorem valueOf_zeros_append (zeros : Nat) (cs : List Char) :
    valueOf (List.replicate zeros '0' ++ cs) = valueOf cs := by
  induction zeros with
  | zero => rfl
  | succ zeros ih =>
      rw [List.replicate_succ, List.cons_append]
      exact ih

/-- A digit has a value below ten, of which it is the one digit. -/
theorem digitChar_of_isDigit {c : Char} (h : c.isDigit = true) :
    c.toNat - '0'.toNat < 10 ∧ Nat.digitChar (c.toNat - '0'.toNat) = c := by
  obtain ⟨hl, hu⟩ := Char.isDigit_iff_toNat.1 h
  have hd : c.toNat - '0'.toNat < 10 := by
    change c.toNat ≤ 57 at hu
    change c.toNat - 48 < 10
    omega
  refine ⟨hd, ?_⟩
  apply Char.toNat_inj.1
  rw [Nat.toNat_digitChar_of_lt_ten hd]
  exact Nat.add_sub_cancel' hl

/-- A row of digits is zeros before the digits of its value, where zero has none. -/
theorem exists_zeros (h : ∀ c ∈ cs, c.isDigit = true) :
    ∃ zeros, cs = List.replicate zeros '0' ++
      if valueOf cs = 0 then [] else Nat.toDigits 10 (valueOf cs) := by
  induction cs using List.reverseRecOn with
  | nil => exact ⟨0, rfl⟩
  | append_singleton cs c ih =>
      obtain ⟨zeros, hz⟩ := ih fun d hd => h d (List.mem_append_left _ hd)
      obtain ⟨hlt, hc⟩ := digitChar_of_isDigit (h c (by simp))
      rw [valueOf_concat]
      generalize c.toNat - '0'.toNat = d at hlt hc
      generalize valueOf cs = v at hz
      subst hc
      rcases Nat.eq_zero_or_pos v with rfl | hv
      · rw [if_pos rfl, List.append_nil] at hz
        rcases Nat.eq_zero_or_pos d with rfl | hd
        · refine ⟨zeros + 1, ?_⟩
          rw [hz, List.replicate_succ', if_pos rfl, List.append_nil]
          rfl
        · refine ⟨zeros, ?_⟩
          rw [hz, if_neg (by omega), Nat.zero_mul, Nat.zero_add, Nat.toDigits_of_lt_base hlt]
      · have hlast : Nat.toDigits 10 v ++ [Nat.digitChar d] = Nat.toDigits 10 (v * 10 + d) := by
          have hp := Nat.toDigits_append_toDigits (b := 10) (by decide) hv hlt
          rwa [Nat.toDigits_of_lt_base hlt, Nat.mul_comm] at hp
        refine ⟨zeros, ?_⟩
        rw [if_neg (by omega), hz, if_neg (by omega), List.append_assoc, hlast]

theorem digits?_eq_some_iff :
    digits? cs = some n ↔ ∃ zeros, cs = List.replicate zeros '0' ++ Nat.toDigits 10 n := by
  have row : digits? cs = some n ↔
      (cs ≠ [] ∧ ∀ c ∈ cs, c.isDigit = true) ∧ valueOf cs = n := by
    rw [digits?, Option.ite_none_left_eq_some, Option.some.injEq]
    simp [valueOf, not_or]
  rw [row]
  constructor
  · rintro ⟨⟨hne, hd⟩, rfl⟩
    obtain ⟨zeros, hz⟩ := exists_zeros hd
    split at hz
    · rename_i hv
      -- of the zeros the last one is the digit
      rw [List.append_nil] at hz
      cases zeros with
      | zero => exact absurd hz hne
      | succ zeros =>
          refine ⟨zeros, ?_⟩
          rw [hv, hz, List.replicate_succ']
          rfl
    · exact ⟨zeros, hz⟩
  · rintro ⟨zeros, rfl⟩
    refine ⟨⟨by simp [Nat.toDigits_ne_nil], fun c hc => ?_⟩, ?_⟩
    · rcases List.mem_append.1 hc with hc | hc
      · rw [List.eq_of_mem_replicate hc]
        rfl
      · exact Nat.isDigit_of_mem_toDigits (by decide) (by decide) hc
    · rw [valueOf_zeros_append, valueOf_toDigits]

theorem natural?_eq_some_iff : natural? most s = some n ↔ n ≤ most ∧ IsNumeral n s := by
  have plus : ∀ zeros rest, List.replicate zeros '0' ++ Nat.toDigits 10 n ≠ '+' :: rest := by
    intro zeros rest h
    have hd := (digits?_eq_some_iff (n := n)).2 ⟨zeros, h.symm⟩
    simp [digits?] at hd
  unfold natural? IsNumeral
  rw [Option.filter_eq_some_iff, and_comm, decide_eq_true_eq]
  refine and_congr_right fun _ => ?_
  split
  · rename_i rest h
    rw [digits?_eq_some_iff, h]
    refine exists_congr fun zeros => ?_
    simp [(plus zeros rest).symm]
  · rename_i cs h
    rw [digits?_eq_some_iff]
    refine exists_congr fun zeros => (or_iff_left ?_).symm
    exact h _

/-! ### Numbers of bounded size -/

/-- What is read as a number up to a bound is read as one of the type that goes up to it. -/
theorem map_eq_some_iff_of_le {α : Type} {x : Option Nat} {p : Nat → Prop}
    (hx : ∀ n, x = some n ↔ n ≤ most ∧ p n) {ofNat : Nat → α} {toNat : α → Nat}
    (left : ∀ n ≤ most, toNat (ofNat n) = n) (right : ∀ a, ofNat (toNat a) = a)
    (le : ∀ a, toNat a ≤ most) {a : α} : x.map ofNat = some a ↔ p (toNat a) := by
  rw [Option.map_eq_some_iff]
  constructor
  · rintro ⟨n, hn, rfl⟩
    obtain ⟨hle, h⟩ := (hx n).1 hn
    rwa [left n hle]
  · intro h
    exact ⟨toNat a, (hx _).2 ⟨le a, h⟩, right a⟩

/-- A port number is read from its numerals. -/
theorem port?_eq_some_iff {p : UInt16} : port? s = some p ↔ IsNumeral p.toNat s :=
  map_eq_some_iff_of_le (fun _ => natural?_eq_some_iff)
    (fun _ hn => UInt16.toNat_ofNat_of_lt' (Nat.lt_succ_of_le hn)) (fun _ => UInt16.ofNat_toNat)
    fun p => Nat.le_of_lt_succ p.toNat_lt

/-- A count is read from its numerals. -/
theorem word?_eq_some_iff {w : UInt64} : word? s = some w ↔ IsNumeral w.toNat s :=
  map_eq_some_iff_of_le (fun _ => natural?_eq_some_iff)
    (fun _ hn => UInt64.toNat_ofNat_of_lt' (Nat.lt_succ_of_le hn)) (fun _ => UInt64.ofNat_toNat)
    fun w => Nat.le_of_lt_succ w.toNat_lt

end Courier.Decimal
