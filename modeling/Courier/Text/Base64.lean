/-!
# Base64

Six bits a character over an alphabet of 64. The two alphabets in use differ in their last two
characters; the unpadded form stops after the last character that carries bits. Reading is strict:
no character outside the alphabet, no lone last character, and no bit set that no byte claims.
-/

namespace Courier.Base64

/-- The two characters that stand for 62 and 63. -/
structure Alphabet where
  sixtyTwo : Char
  sixtyThree : Char

/-- The alphabet of key files. -/
def standard : Alphabet := ⟨'+', '/'⟩

/-- The alphabet that needs no escape in a URL. -/
def urlSafe : Alphabet := ⟨'-', '_'⟩

/-- The character of a six-bit value. -/
def Alphabet.digit (a : Alphabet) (n : Nat) : Char :=
  if n < 26 then Char.ofNat ('A'.toNat + n)
  else if n < 52 then Char.ofNat ('a'.toNat + (n - 26))
  else if n < 62 then Char.ofNat ('0'.toNat + (n - 52))
  else if n = 62 then a.sixtyTwo
  else a.sixtyThree

/-- The six-bit value of a character, if it belongs to the alphabet. -/
def Alphabet.value? (a : Alphabet) (c : Char) : Option Nat :=
  if 'A' ≤ c ∧ c ≤ 'Z' then some (c.toNat - 'A'.toNat)
  else if 'a' ≤ c ∧ c ≤ 'z' then some (c.toNat - 'a'.toNat + 26)
  else if '0' ≤ c ∧ c ≤ '9' then some (c.toNat - '0'.toNat + 52)
  else if c = a.sixtyTwo then some 62
  else if c = a.sixtyThree then some 63
  else none

/-- The unpadded text of bytes: three bytes make four characters, a rest of one or two bytes makes
two or three. -/
def encode (a : Alphabet) : List UInt8 → List Char
  | [] => []
  | [x] => [a.digit (x.toNat / 4), a.digit (x.toNat % 4 * 16)]
  | [x, y] =>
    [a.digit (x.toNat / 4), a.digit (x.toNat % 4 * 16 + y.toNat / 16),
      a.digit (y.toNat % 16 * 4)]
  | x :: y :: z :: rest =>
    a.digit (x.toNat / 4) :: a.digit (x.toNat % 4 * 16 + y.toNat / 16) ::
      a.digit (y.toNat % 16 * 4 + z.toNat / 64) :: a.digit (z.toNat % 64) :: encode a rest

/-- The bytes of six-bit values, four values making three bytes. A rest of one value, or one whose
unclaimed low bits are not zero, is refused. -/
def join? : List Nat → Option (List UInt8)
  | [] => some []
  | [_] => none
  | [p, q] => if q % 16 = 0 then some [UInt8.ofNat (p * 4 + q / 16)] else none
  | [p, q, r] =>
    if r % 4 = 0 then some [UInt8.ofNat (p * 4 + q / 16), UInt8.ofNat (q % 16 * 16 + r / 4)]
    else none
  | p :: q :: r :: s :: rest =>
    (join? rest).map fun bytes =>
      UInt8.ofNat (p * 4 + q / 16) :: UInt8.ofNat (q % 16 * 16 + r / 4) ::
        UInt8.ofNat (r % 4 * 64 + s) :: bytes

/-- The bytes of an unpadded text. -/
def decode? (a : Alphabet) (cs : List Char) : Option (List UInt8) :=
  cs.mapM a.value? >>= join?

/-- The bytes of a text padded with `=` to a multiple of four characters. -/
def decodePadded? (a : Alphabet) (cs : List Char) : Option (List UInt8) :=
  let body := (cs.reverse.dropWhile (· = '=')).reverse
  let padding := cs.length - body.length
  if cs.length % 4 = 0 ∧ padding ≤ 2 then decode? a body else none

/-- Every value below 64 has a character of the alphabet that stands for it alone. -/
theorem urlSafe_value?_digit : ∀ n < 64, urlSafe.value? (urlSafe.digit n) = some n := by
  decide

/-- The text of bytes is read back. -/
theorem decode?_encode_urlSafe (bs : List UInt8) :
    decode? urlSafe (encode urlSafe bs) = some bs := by
  unfold decode?
  have hv := urlSafe_value?_digit
  have hb : ∀ b : UInt8, b.toNat < 256 := fun b => b.toNat_lt
  fun_induction encode urlSafe bs with
  | case1 => rfl
  | case2 x =>
    have hx := hb x
    have h1 : (x.toNat / 4 * 4 + x.toNat % 4 * 16 / 16) = x.toNat := by omega
    have h2 : x.toNat % 4 * 16 % 16 = 0 := by omega
    simp only [List.mapM_cons, List.mapM_nil, hv _ (show x.toNat / 4 < 64 by omega),
      hv _ (show x.toNat % 4 * 16 < 64 by omega), Option.pure_def, Option.bind_eq_bind,
      Option.bind_some, join?, h1, h2, if_true, UInt8.ofNat_toNat]
  | case3 x y =>
    have hx := hb x
    have hy := hb y
    have h1 : x.toNat / 4 * 4 + (x.toNat % 4 * 16 + y.toNat / 16) / 16 = x.toNat := by omega
    have h2 : (x.toNat % 4 * 16 + y.toNat / 16) % 16 * 16 + y.toNat % 16 * 4 / 4 = y.toNat := by
      omega
    have h3 : y.toNat % 16 * 4 % 4 = 0 := by omega
    simp only [List.mapM_cons, List.mapM_nil, hv _ (show x.toNat / 4 < 64 by omega),
      hv _ (show x.toNat % 4 * 16 + y.toNat / 16 < 64 by omega),
      hv _ (show y.toNat % 16 * 4 < 64 by omega), Option.pure_def, Option.bind_eq_bind,
      Option.bind_some, join?, h1, h2, h3, if_true, UInt8.ofNat_toNat]
  | case4 x y z rest ih =>
    have hx := hb x
    have hy := hb y
    have hz := hb z
    have h1 : x.toNat / 4 * 4 + (x.toNat % 4 * 16 + y.toNat / 16) / 16 = x.toNat := by omega
    have h2 : (x.toNat % 4 * 16 + y.toNat / 16) % 16 * 16 + (y.toNat % 16 * 4 + z.toNat / 64) / 4
        = y.toNat := by omega
    have h3 : (y.toNat % 16 * 4 + z.toNat / 64) % 4 * 64 + z.toNat % 64 = z.toNat := by omega
    obtain ⟨vs, hvs, hj⟩ := Option.bind_eq_some_iff.1 ih
    simp only [List.mapM_cons, hv _ (show x.toNat / 4 < 64 by omega),
      hv _ (show x.toNat % 4 * 16 + y.toNat / 16 < 64 by omega),
      hv _ (show y.toNat % 16 * 4 + z.toNat / 64 < 64 by omega),
      hv _ (show z.toNat % 64 < 64 by omega), hvs, Option.pure_def, Option.bind_eq_bind,
      Option.bind_some, join?, hj, Option.map_some, h1, h2, h3, UInt8.ofNat_toNat]

end Courier.Base64
