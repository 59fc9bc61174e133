import Courier.Text.Utf8

/-!
# UTF-8 is read back

Decoding the bytes of characters yields these characters and no ill-formed part. The proof follows
the machine through the one to four bytes of a character; the bounds that a first byte puts on the
second one are met because a character is no surrogate and takes no more bytes than it needs.
-/

namespace Courier.Utf8

variable {b : UInt8} {low high owed : Nat}

/-- The last byte that is owed completes its character. -/
theorem decodeFrom_owing_one (hl : low ≤ b.toNat) (hh : b.toNat ≤ high)
    (read : List UInt8) (code : Nat) (rest : List UInt8) :
    decodeFrom (.owing read code 1 low high) (b :: rest) =
      .char (Char.ofNat (code * 64 + (b.toNat - 0x80))) :: decodeFrom .idle rest := by
  simp [decodeFrom, step, hl, hh]

/-- A byte that is not the last one owed adds six bits. -/
theorem decodeFrom_owing_more (hl : low ≤ b.toNat) (hh : b.toNat ≤ high) (ho : owed ≠ 0)
    (read : List UInt8) (code : Nat) (rest : List UInt8) :
    decodeFrom (.owing read code (owed + 1) low high) (b :: rest) =
      decodeFrom (.owing (b :: read) (code * 64 + (b.toNat - 0x80)) owed 0x80 0xBF) rest := by
  simp [decodeFrom, step, hl, hh, ho]

/-- A first byte that yields nothing leaves owed what it announces. -/
theorem decodeFrom_first {p : Pending} (h : first b = ([], p)) (rest : List UInt8) :
    decodeFrom .idle (b :: rest) = decodeFrom p rest := by
  simp [decodeFrom, step, h]

theorem first_one (v : Nat) (hb : b.toNat = v) (hv : v < 0x80) :
    first b = ([.char (Char.ofNat v)], .idle) := by
  simp [first, hb, hv]

theorem first_two (v : Nat) (hb : b.toNat = v / 64 + 0xC0) (hl : 0x80 ≤ v) (hh : v < 0x800) :
    first b = ([], .owing [b] (v / 64) 1 0x80 0xBF) := by
  have h₁ : ¬ v / 64 + 0xC0 < 0x80 := by omega
  have h₂ : ¬ v / 64 + 0xC0 < 0xC2 := by omega
  have h₃ : v / 64 + 0xC0 < 0xE0 := by omega
  simp [first, hb, h₁, h₂, h₃]

/-- The first of three bytes lets no shorter character and no surrogate follow. -/
theorem first_three (v : Nat) (hb : b.toNat = v / 4096 + 0xE0) (hl : 0x800 ≤ v)
    (hh : v < 0x10000) (hs : v < 0xD800 ∨ 0xDFFF < v) :
    ∃ low high, first b = ([], .owing [b] (v / 4096) 2 low high) ∧
      low ≤ v / 64 % 64 + 0x80 ∧ v / 64 % 64 + 0x80 ≤ high := by
  by_cases h₀ : v / 4096 = 0
  · exact ⟨0xA0, 0xBF, by simp [first, hb, h₀], by omega, by omega⟩
  by_cases hd : v / 4096 = 0xD
  · exact ⟨0x80, 0x9F, by simp [first, hb, hd], by omega, by omega⟩
  · have h₁ : ¬ v / 4096 + 0xE0 < 0x80 := by omega
    have h₂ : ¬ v / 4096 + 0xE0 < 0xC2 := by omega
    have h₃ : v / 4096 + 0xE0 ≠ 0xED := by omega
    have h₄ : v / 4096 + 0xE0 < 0xF0 := by omega
    exact ⟨0x80, 0xBF, by simp [first, hb, h₀, h₁, h₂, h₃, h₄], by omega, by omega⟩

/-- The first of four bytes lets no shorter character follow, and none beyond the last one. -/
theorem first_four (v : Nat) (hb : b.toNat = v / 262144 + 0xF0) (hl : 0x10000 ≤ v)
    (hh : v < 0x110000) :
    ∃ low high, first b = ([], .owing [b] (v / 262144) 3 low high) ∧
      low ≤ v / 4096 % 64 + 0x80 ∧ v / 4096 % 64 + 0x80 ≤ high := by
  by_cases h₀ : v / 262144 = 0
  · exact ⟨0x90, 0xBF, by simp [first, hb, h₀], by omega, by omega⟩
  by_cases h₄ : v / 262144 = 4
  · exact ⟨0x80, 0x8F, by simp [first, hb, h₄], by omega, by omega⟩
  · have h₁ : ¬ v / 262144 + 0xF0 < 0x80 := by omega
    have h₂ : ¬ v / 262144 + 0xF0 < 0xC2 := by omega
    have h₃ : v / 262144 + 0xF0 < 0xF4 := by omega
    have h₅ : v / 262144 + 0xF0 ≠ 0xED := by omega
    have h₆ : ¬ v / 262144 + 0xF0 < 0xE0 := by omega
    have h₇ : ¬ v / 262144 + 0xF0 < 0xF0 := by omega
    have h₈ : v / 262144 + 0xF0 ≠ 0xE0 := by omega
    exact ⟨0x80, 0xBF, by simp [first, hb, h₀, h₁, h₂, h₃, h₅, h₆, h₇, h₈], by omega, by omega⟩

/-- The byte made of a small number has that number. -/
theorem exists_byte {n : Nat} (h : n < 256) : ∃ b, UInt8.ofNat n = b ∧ b.toNat = n :=
  ⟨_, rfl, UInt8.toNat_ofNat_of_lt' h⟩

/-- The bytes of one character are read as that character. -/
theorem decodeFrom_encodeChar (c : Char) (rest : List UInt8) :
    decodeFrom .idle (String.utf8EncodeChar c ++ rest) = .char c :: decodeFrom .idle rest := by
  have hv : c.toNat < 0xD800 ∨ 0xDFFF < c.toNat ∧ c.toNat < 0x110000 := c.valid
  have hc : ∀ n, n = c.toNat → Char.ofNat n = c := by rintro n rfl; exact Char.ofNat_toNat c
  have he : c.val.toNat = c.toNat := rfl
  simp only [String.utf8EncodeChar, he]
  generalize c.toNat = v at hv hc
  obtain ⟨b₀, e₀, n₀⟩ := exists_byte (show v % 64 + 0x80 < 256 by omega)
  obtain ⟨b₁, e₁, n₁⟩ := exists_byte (show v / 64 % 64 + 0x80 < 256 by omega)
  obtain ⟨b₂, e₂, n₂⟩ := exists_byte (show v / 4096 % 64 + 0x80 < 256 by omega)
  rw [e₀, e₁, e₂]
  split
  case isTrue h =>
      obtain ⟨b, e, n⟩ := exists_byte (show v < 256 by omega)
      rw [e, List.cons_append, decodeFrom, step, first_one v n (by omega), hc v rfl]
      rfl
  split
  case isTrue h₁ h₂ =>
      obtain ⟨b, e, n⟩ := exists_byte (show v / 64 % 0x20 + 0xC0 < 256 by omega)
      rw [e, List.cons_append, decodeFrom_first (first_two v (n.trans (by omega)) (by omega)
        (by omega)), List.cons_append, decodeFrom_owing_one (by omega) (by omega),
        hc _ (by omega), List.nil_append]
  split
  case isTrue h₁ h₂ h₃ =>
      obtain ⟨b, e, n⟩ := exists_byte (show v / 4096 % 0x10 + 0xE0 < 256 by omega)
      obtain ⟨low, high, hf, hl, hh⟩ :=
        first_three v (n.trans (by omega)) (by omega) (by omega) (by omega)
      rw [e, List.cons_append, decodeFrom_first hf, List.cons_append,
        decodeFrom_owing_more (by omega) (by omega) (Nat.succ_ne_zero 0), List.cons_append,
        decodeFrom_owing_one (by omega) (by omega), hc _ (by omega), List.nil_append]
  case isFalse h₁ h₂ h₃ =>
      obtain ⟨b, e, n⟩ := exists_byte (show v / 262144 % 0x08 + 0xF0 < 256 by omega)
      obtain ⟨low, high, hf, hl, hh⟩ := first_four v (n.trans (by omega)) (by omega) (by omega)
      rw [e, List.cons_append, decodeFrom_first hf, List.cons_append,
        decodeFrom_owing_more (by omega) (by omega) (Nat.succ_ne_zero 1), List.cons_append,
        decodeFrom_owing_more (by omega) (by omega) (Nat.succ_ne_zero 0), List.cons_append,
        decodeFrom_owing_one (by omega) (by omega), hc _ (by omega), List.nil_append]

/-- The bytes of characters are read as these characters. -/
theorem decode_encode (cs : List Char) : decode (encode cs) = cs.map Piece.char := by
  unfold decode
  induction cs with
  | nil => rfl
  | cons c cs ih => rw [encode_cons, decodeFrom_encodeChar, ih, List.map_cons]

end Courier.Utf8
