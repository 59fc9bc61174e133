import Courier.Proofs.Text.Utf8
import Mathlib.Algebra.Group.Nat.Defs
import Mathlib.Data.List.Induction
import Mathlib.Data.Nat.Find

/-!
# Maximal ill-formed parts

Bytes are taken apart from left to right. Where a character is written, it is read. Where none is,
the longest run of bytes that begins a character is one ill-formed part, and if not even the first
byte begins one, that byte alone is. This says nothing of how bytes are read, only of how characters
are written. Main statement: bytes can be taken apart like that in one way, and that is the way of
the decoder.
-/

namespace Courier.Utf8

/-- Whether bytes are the first ones, or all, of those that write some character. -/
def Begins (bs : List UInt8) : Prop :=
  ∃ c, bs <+: String.utf8EncodeChar c

/-- Whether no character is written at the front of bytes. -/
def IsIllFormed (bs : List UInt8) : Prop :=
  ∀ c, ¬ String.utf8EncodeChar c <+: bs

/-- Whether a part in front of other bytes is all that is ill-formed there: it is as long as it can
be and still begin a character, or a single byte. -/
structure IsIllFormedPart (part rest : List UInt8) : Prop where
  illFormed : IsIllFormed (part ++ rest)
  ne_nil : part ≠ []
  begins : Begins part ∨ ∃ b, part = [b]
  longest : ∀ b more, b :: more <+: rest → ¬ Begins (part ++ b :: more)

/-- Whether bytes are taken apart into pieces, each a character as it is written or an ill-formed
part. -/
inductive Splits : List UInt8 → List Piece → Prop where
  | nil : Splits [] []
  | char (c : Char) {rest : List UInt8} {ps : List Piece} :
    Splits rest ps → Splits (String.utf8EncodeChar c ++ rest) (.char c :: ps)
  | illFormed {part rest : List UInt8} {ps : List Piece} :
    IsIllFormedPart part rest → Splits rest ps → Splits (part ++ rest) (.illFormed part :: ps)

variable {b : UInt8} {read part bs rest : List UInt8} {ps : List Piece}
  {code owed low high v : Nat}

theorem Begins.mono (h : Begins (part ++ rest)) : Begins part :=
  h.imp fun _ hc => (List.prefix_append part rest).trans hc

theorem IsIllFormed.mono (h : IsIllFormed (part ++ rest)) : IsIllFormed part :=
  fun c hc => h c (hc.trans (List.prefix_append part rest))

theorem begins_of_eq {c : Char} (h : String.utf8EncodeChar c = part) : Begins part := by
  subst h
  exact ⟨c, List.prefix_rfl⟩

theorem IsIllFormed.ne (h : IsIllFormed bs) (c : Char) : String.utf8EncodeChar c ≠ bs := by
  rintro rfl
  exact h c List.prefix_rfl

/-! ### Bytes of characters -/

/-- The bytes that write the last bits of a number, six in each. -/
def sixes : Nat → Nat → List UInt8
  | 0, _ => []
  | n + 1, v => UInt8.ofNat (v / 64 ^ n % 64 + 0x80) :: sixes n v

theorem toNat_val_ofNat (h : v.isValidChar) : (Char.ofNat v).val.toNat = v := by
  rw [Char.ofNat, dif_pos h]
  rfl

theorem encodeChar_one (h : v < 0x80) : String.utf8EncodeChar (Char.ofNat v) = [UInt8.ofNat v] := by
  have hv : (Char.ofNat v).val.toNat = v := toNat_val_ofNat (.inl (by omega))
  simp only [String.utf8EncodeChar, hv]
  rw [if_pos (by omega)]

theorem encodeChar_two (hl : 0x80 ≤ v) (hh : v < 0x800) :
    String.utf8EncodeChar (Char.ofNat v) = UInt8.ofNat (v / 64 + 0xC0) :: sixes 1 v := by
  have hv : (Char.ofNat v).val.toNat = v := toNat_val_ofNat (.inl (by omega))
  have hb : v / 64 % 32 = v / 64 := by omega
  simp only [String.utf8EncodeChar, hv]
  rw [if_neg (by omega), if_pos (by omega), hb]
  simp [sixes]

theorem encodeChar_three (hl : 0x800 ≤ v) (hh : v < 0x10000) (hs : v < 0xD800 ∨ 0xDFFF < v) :
    String.utf8EncodeChar (Char.ofNat v) = UInt8.ofNat (v / 4096 + 0xE0) :: sixes 2 v := by
  have hv : (Char.ofNat v).val.toNat = v := toNat_val_ofNat (hs.imp_right fun h => ⟨h, by omega⟩)
  have hb : v / 4096 % 16 = v / 4096 := by omega
  simp only [String.utf8EncodeChar, hv]
  rw [if_neg (by omega), if_neg (by omega), if_pos (by omega), hb]
  simp [sixes]

theorem encodeChar_four (hl : 0x10000 ≤ v) (hh : v < 0x110000) :
    String.utf8EncodeChar (Char.ofNat v) = UInt8.ofNat (v / 262144 + 0xF0) :: sixes 3 v := by
  have hv : (Char.ofNat v).val.toNat = v := toNat_val_ofNat (.inr ⟨by omega, by omega⟩)
  have hb : v / 262144 % 8 = v / 262144 := by omega
  simp only [String.utf8EncodeChar, hv]
  rw [if_neg (by omega), if_neg (by omega), if_neg (by omega), hb]
  simp [sixes]

/-! ### What is owed -/

/-- Whether what is owed is what a character takes: a number that starts with the bits read so far
is a character that is written with the bytes read so far in front, if its next byte is one that may
come next; and there is such a byte. -/
structure IsOwed (read : List UInt8) (code owed low high : Nat) : Prop where
  low_ge : 0x80 ≤ low
  high_le : high ≤ 0xBF
  low_le_high : low ≤ high
  encodeChar : ∀ v, v / 64 ^ (owed + 1) = code → low ≤ v / 64 ^ owed % 64 + 0x80 →
    v / 64 ^ owed % 64 + 0x80 ≤ high →
    String.utf8EncodeChar (Char.ofNat v) = read.reverse ++ sixes (owed + 1) v

namespace IsOwed

theorem two (hb : b.toNat = code + 0xC0) (hl : 2 ≤ code) (hh : code < 0x20) :
    IsOwed [b] code 0 0x80 0xBF where
  low_ge := by omega
  high_le := by omega
  low_le_high := by omega
  encodeChar v hc _ _ := by
    simp only [Nat.zero_add, Nat.pow_one] at hc
    have hv : v / 64 + 0xC0 = b.toNat := by omega
    rw [encodeChar_two (by omega) (by omega), hv, UInt8.ofNat_toNat]
    rfl

theorem three (hb : b.toNat = code + 0xE0) (hc : code < 0x10) (hl : 0x80 ≤ low) (hh : high ≤ 0xBF)
    (hn : low ≤ high) (h₀ : code = 0 → 0xA0 ≤ low) (hd : code = 0xD → high ≤ 0x9F) :
    IsOwed [b] code 1 low high where
  low_ge := hl
  high_le := hh
  low_le_high := hn
  encodeChar v hv hvl hvh := by
    simp only [Nat.reduceAdd, Nat.reducePow, Nat.pow_one] at hv hvl hvh
    have hb : v / 4096 + 0xE0 = b.toNat := by omega
    rw [encodeChar_three (by omega) (by omega) (by omega), hb, UInt8.ofNat_toNat]
    rfl

theorem four (hb : b.toNat = code + 0xF0) (hc : code ≤ 4) (hl : 0x80 ≤ low) (hh : high ≤ 0xBF)
    (hn : low ≤ high) (h₀ : code = 0 → 0x90 ≤ low) (h₄ : code = 4 → high ≤ 0x8F) :
    IsOwed [b] code 2 low high where
  low_ge := hl
  high_le := hh
  low_le_high := hn
  encodeChar v hv hvl hvh := by
    simp only [Nat.reduceAdd, Nat.reducePow] at hv hvl hvh
    have hb : v / 262144 + 0xF0 = b.toNat := by omega
    rw [encodeChar_four (by omega) (by omega), hb, UInt8.ofNat_toNat]
    rfl

/-- A byte that may come next leaves less owed. -/
theorem more (h : IsOwed read code (owed + 1) low high) (hl : low ≤ b.toNat) (hh : b.toNat ≤ high) :
    IsOwed (b :: read) (code * 64 + (b.toNat - 0x80)) owed 0x80 0xBF where
  low_ge := by omega
  high_le := by omega
  low_le_high := by omega
  encodeChar v hv _ _ := by
    have := h.low_ge
    have := h.high_le
    have hc : v / 64 ^ (owed + 1 + 1) = code := by
      rw [Nat.pow_succ 64 (owed + 1), ← Nat.div_div_eq_div_mul]
      omega
    have hb : v / 64 ^ (owed + 1) % 64 + 0x80 = b.toNat := by omega
    rw [h.encodeChar v hc (by omega) (by omega), sixes, hb, UInt8.ofNat_toNat]
    simp

/-- The last byte that is owed completes a character. -/
theorem last (h : IsOwed read code 0 low high) (hl : low ≤ b.toNat) (hh : b.toNat ≤ high) :
    String.utf8EncodeChar (Char.ofNat (code * 64 + (b.toNat - 0x80))) = read.reverse ++ [b] := by
  have := h.low_ge
  have := h.high_le
  have hb : (code * 64 + (b.toNat - 0x80)) % 64 + 0x80 = b.toNat := by omega
  rw [h.encodeChar _ (by omega) (by rwa [Nat.pow_zero, Nat.div_one, hb])
    (by rwa [Nat.pow_zero, Nat.div_one, hb]), sixes, Nat.pow_zero, Nat.div_one, hb,
    UInt8.ofNat_toNat]
  rfl

/-- With a byte that may come next, what was read still begins a character. -/
theorem begins_concat (h : IsOwed read code owed low high) (hl : low ≤ b.toNat)
    (hh : b.toNat ≤ high) : Begins (read.reverse ++ [b]) := by
  induction owed generalizing read code low high b with
  | zero => exact begins_of_eq (h.last hl hh)
  | succ owed ih =>
      have hb : (0x80 : UInt8).toNat = 0x80 := rfl
      have := ih (h.more hl hh) (b := 0x80) (by omega) (by omega)
      rw [List.reverse_cons] at this
      exact this.mono

theorem begins (h : IsOwed read code owed low high) : Begins read.reverse := by
  have := h.high_le
  obtain ⟨b, -, hb⟩ := exists_byte (show low < 256 by have := h.low_le_high; omega)
  exact (h.begins_concat (Nat.le_of_eq hb.symm) (hb ▸ h.low_le_high)).mono

end IsOwed

/-- What a first byte may yield: a character, an ill-formed part, or nothing yet, where the rest of
a character is owed. -/
inductive Yields (b : UInt8) : List Piece × Pending → Prop where
  | char : String.utf8EncodeChar (Char.ofNat b.toNat) = [b] →
    Yields b ([.char (Char.ofNat b.toNat)], .idle)
  | illFormed : Yields b ([.illFormed [b]], .idle)
  | owing {code owed low high : Nat} :
    IsOwed [b] code owed low high → Yields b ([], .owing [b] code (owed + 1) low high)

theorem yields_first (b : UInt8) : Yields b (first b) := by
  unfold first
  extract_lets n
  split
  case isTrue h =>
    refine .char ?_
    rw [encodeChar_one h, UInt8.ofNat_toNat]
  split
  case isTrue => exact .illFormed
  split
  case isTrue => exact .owing (.two (by omega) (by omega) (by omega))
  split
  case isTrue =>
    exact .owing (.three (by omega) (by omega) (by omega) (by omega) (by omega) (by omega)
      (by omega))
  split
  case isTrue =>
    exact .owing (.three (by omega) (by omega) (by omega) (by omega) (by omega) (by omega)
      (by omega))
  split
  case isTrue =>
    exact .owing (.three (by omega) (by omega) (by omega) (by omega) (by omega) (by omega)
      (by omega))
  split
  case isTrue =>
    exact .owing (.four (by omega) (by omega) (by omega) (by omega) (by omega) (by omega)
      (by omega))
  split
  case isTrue =>
    exact .owing (.four (by omega) (by omega) (by omega) (by omega) (by omega) (by omega)
      (by omega))
  split
  case isTrue =>
    exact .owing (.four (by omega) (by omega) (by omega) (by omega) (by omega) (by omega)
      (by omega))
  case isFalse => exact .illFormed

/-- A byte that may not come next ends what was read, and is read again. -/
theorem decodeFrom_owing_refused (h : ¬ (low ≤ b.toNat ∧ b.toNat ≤ high)) (read : List UInt8)
    (code owed : Nat) (rest : List UInt8) :
    decodeFrom (.owing read code owed low high) (b :: rest) =
      .illFormed read.reverse :: decodeFrom .idle (b :: rest) := by
  simp [decodeFrom, step, h]

/-- Bytes that begin a character and hold none are owed the rest of it. -/
theorem exists_isOwed (hb : Begins part) (hi : IsIllFormed part) (hn : part ≠ []) :
    ∃ code owed low high, IsOwed part.reverse code owed low high ∧ ∀ rest,
      decode (part ++ rest) = decodeFrom (.owing part.reverse code (owed + 1) low high) rest := by
  induction part using List.reverseRecOn with
  | nil => exact absurd rfl hn
  | append_singleton part b ih =>
      obtain ⟨c, t, ht⟩ := id hb
      -- the machine reads one character and so meets no ill-formed part on the way
      have hc : decode (part ++ b :: t) = [.char c] := by
        have := decode_encode [c]
        rwa [encode_cons, encode_nil, List.append_nil, ← ht, List.append_assoc] at this
      by_cases hp : part = []
      · subst hp
        have hy := yields_first b
        generalize hf : first b = out at hy
        cases hy with
        | char he => exact absurd he (hi.ne _)
        | illFormed => simp [decode, decodeFrom, step, hf] at hc
        | owing ho => exact ⟨_, _, _, _, ho, fun rest => decodeFrom_first hf rest⟩
      · obtain ⟨code, owed, low, high, ho, hd⟩ := ih hb.mono hi.mono hp
        have hr : (part ++ [b]).reverse = b :: part.reverse := by simp
        by_cases hin : low ≤ b.toNat ∧ b.toNat ≤ high
        · cases owed with
          | zero =>
              have he := ho.last hin.1 hin.2
              rw [List.reverse_reverse] at he
              exact absurd he (hi.ne _)
          | succ owed =>
              refine ⟨_, owed, 0x80, 0xBF, hr ▸ ho.more hin.1 hin.2, fun rest => ?_⟩
              rw [List.append_assoc, hd, hr, List.singleton_append,
                decodeFrom_owing_more hin.1 hin.2 (Nat.succ_ne_zero owed)]
        · rw [hd, decodeFrom_owing_refused hin] at hc
          cases hc

/-- What is ill-formed in front of other bytes is read as one part. -/
theorem IsIllFormedPart.decode_eq (h : IsIllFormedPart part rest) :
    decode (part ++ rest) = .illFormed part :: decode rest := by
  by_cases hb : Begins part
  · obtain ⟨code, owed, low, high, ho, hd⟩ := exists_isOwed hb h.illFormed.mono h.ne_nil
    rw [hd]
    cases rest with
    | nil => simp [decodeFrom]
    | cons b rest =>
        have hout : ¬ (low ≤ b.toNat ∧ b.toNat ≤ high) := by
          rintro ⟨hl, hh⟩
          have := ho.begins_concat hl hh
          rw [List.reverse_reverse] at this
          exact h.longest b [] (List.cons_prefix_cons.2 ⟨rfl, List.nil_prefix⟩) this
        rw [decodeFrom_owing_refused hout, List.reverse_reverse]
        rfl
  · obtain ⟨b, rfl⟩ := h.begins.resolve_left hb
    have hy := yields_first b
    generalize hf : first b = out at hy
    cases hy with
    | char he => exact absurd (begins_of_eq he) hb
    | illFormed => simp [decode, decodeFrom, step, hf]
    | owing ho => exact absurd ho.begins hb

/-- The decoder takes bytes apart as they are to be. -/
theorem Splits.decode_eq (h : Splits bs ps) : decode bs = ps := by
  induction h with
  | nil => rfl
  | char c _ ih => rw [decode, decodeFrom_encodeChar, ← ih, decode]
  | illFormed hp _ ih => rw [hp.decode_eq, ih]

/-- Where no character is written, some part is all that is ill-formed. -/
theorem exists_isIllFormedPart (h : IsIllFormed bs) (hn : bs ≠ []) :
    ∃ part rest, bs = part ++ rest ∧ IsIllFormedPart part rest := by
  classical
  let n := Nat.findGreatest (fun n => Begins (bs.take n)) bs.length
  have hlen : 0 < bs.length := List.length_pos_iff.2 hn
  have hle : n ≤ bs.length := Nat.findGreatest_le _
  have hbegins : Begins (bs.take n) := by
    refine Nat.findGreatest_spec (P := fun n => Begins (bs.take n)) (Nat.zero_le _) ?_
    exact ⟨'a', by simp⟩
  refine ⟨bs.take (max n 1), bs.drop (max n 1), (List.take_append_drop _ _).symm, ?_⟩
  constructor
  case illFormed => rwa [List.take_append_drop]
  case ne_nil =>
    rw [ne_eq, List.take_eq_nil_iff]
    rintro (hz | hz)
    · omega
    · exact hn hz
  case begins =>
    by_cases hz : n = 0
    · refine .inr (List.length_eq_one_iff.1 ?_)
      rw [List.length_take]
      omega
    · rw [Nat.max_eq_left (by omega)]
      exact .inl hbegins
  case longest =>
    intro b more hm hb
    have hp : bs.take (max n 1) ++ b :: more <+: bs := by
      conv => rhs; rw [← List.take_append_drop (max n 1) bs]
      exact (List.prefix_append_right_inj _).2 hm
    have hl := hp.length_le
    rw [List.prefix_iff_eq_take.1 hp] at hb
    have := Nat.le_findGreatest (P := fun n => Begins (bs.take n)) hl hb
    simp only [List.length_append, List.length_take, List.length_cons] at this
    omega

theorem exists_splits (bs : List UInt8) : ∃ ps, Splits bs ps := by
  induction hk : bs.length using Nat.strongRecOn generalizing bs with
  | ind k ih =>
      subst hk
      by_cases hn : bs = []
      · subst hn
        exact ⟨[], .nil⟩
      by_cases hi : IsIllFormed bs
      · obtain ⟨part, rest, rfl, hp⟩ := exists_isIllFormedPart hi hn
        have := List.length_pos_iff.2 hp.ne_nil
        obtain ⟨ps, hs⟩ := ih rest.length (by rw [List.length_append]; omega) rest rfl
        exact ⟨_, .illFormed hp hs⟩
      · obtain ⟨c, rest, rfl⟩ : ∃ c, String.utf8EncodeChar c <+: bs := by
          simpa [IsIllFormed] using hi
        have := List.length_pos_iff.2 (@String.utf8EncodeChar_ne_nil c)
        obtain ⟨ps, hs⟩ := ih rest.length (by rw [List.length_append]; omega) rest rfl
        exact ⟨_, .char c hs⟩

/-- Bytes are taken apart in one way, which is that of the decoder. -/
theorem splits_iff : Splits bs ps ↔ ps = decode bs := by
  constructor
  · intro h
    exact h.decode_eq.symm
  · rintro rfl
    obtain ⟨ps, h⟩ := exists_splits bs
    rwa [h.decode_eq]

example : decode [0xF0, 0x9F, 0x92, 0x61, 0xC0] =
    [.illFormed [0xF0, 0x9F, 0x92], .char 'a', .illFormed [0xC0]] := by decide

end Courier.Utf8
