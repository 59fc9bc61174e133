/-!
# The curve P-256

Just enough arithmetic to find the public point of a private number.
-/

namespace Courier.P256

/-- The prime over which the curve is. -/
def prime : Nat := 0xffffffff00000001000000000000000000000000ffffffffffffffffffffffff

/-- The number of points. -/
def order : Nat := 0xffffffff00000000ffffffffffffffffbce6faada7179e84f3b9cac2fc632551

/-- A point of the curve; none is the point at infinity. -/
abbrev Point := Option (Nat × Nat)

/-- The point from which all others are counted. -/
def base : Point := some
  (0x6b17d1f2e12c4247f8bce6e563a440f277037d812deb33a0f4a13945d898c296,
   0x4fe342e2fe1a7f9b8ee7eb4a7c0f9e162bce33576b315ececbb6406837bf51f5)

/-- The bits of a number below `2 ^ 256`, the most significant first. -/
def bits (n : Nat) : List Bool :=
  (List.range 256).reverse.map n.testBit

/-- A power modulo the prime. -/
def power (x e : Nat) : Nat :=
  (bits e).foldl (fun r b => if b then r * r % prime * x % prime else r * r % prime) 1

/-- The inverse modulo the prime of a number that is not zero. -/
def inverse (x : Nat) : Nat :=
  power x (prime - 2)

/-- The difference modulo the prime. -/
def sub (x y : Nat) : Nat :=
  (x + (prime - y % prime)) % prime

/-- The third point on the line with a slope through two points, mirrored. -/
def chord (slope x₁ y₁ x₂ : Nat) : Point :=
  let x := sub (slope * slope) (x₁ + x₂)
  some (x, sub (slope * sub x₁ x) y₁)

/-- Twice a point. The curve has no point of height zero. -/
def double : Point → Point
  | none => none
  | some (x, y) => chord (sub (3 * x * x) 3 * inverse (2 * y % prime) % prime) x y x

/-- The sum of two points. -/
def add : Point → Point → Point
  | none, q => q
  | p, none => p
  | some (x₁, y₁), some (x₂, y₂) =>
    if x₁ = x₂ then if y₁ = y₂ then double (some (x₁, y₁)) else none
    else chord (sub y₂ y₁ * inverse (sub x₂ x₁) % prime) x₁ y₁ x₂

/-- A multiple of a point. -/
def times (n : Nat) (p : Point) : Point :=
  (bits n).foldl (fun q b => if b then add (double q) p else double q) none

/-- The 32 bytes of a number, the most significant first. -/
def bytes (n : Nat) : List UInt8 :=
  (List.range 32).reverse.map fun i => UInt8.ofNat (n / Nat.pow 256 i)

/-- The uncompressed form of a point. -/
def encode : Point → List UInt8
  | none => [0]
  | some (x, y) => 4 :: bytes x ++ bytes y

end Courier.P256
