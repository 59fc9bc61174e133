/-!
# Decimal integers

Writing is core's `toString`. Reading takes an optional sign and at least one ASCII digit, nothing
else, and a value inside the bounds of the wanted type: no blank, no separator, no sign before a
value of a type without negative numbers except `+`.
-/

namespace Courier.Decimal

/-- The value of a list of ASCII digits, if it is one and is not empty. -/
def digits? (cs : List Char) : Option Nat :=
  if cs.isEmpty ∨ ¬ cs.all Char.isDigit then none
  else some (cs.foldl (fun n c => n * 10 + (c.toNat - '0'.toNat)) 0)

/-- The value of a natural number up to `most`, with an optional `+`. -/
def natural? (most : Nat) (s : String) : Option Nat :=
  let cs := match s.toList with
    | '+' :: rest => rest
    | cs => cs
  (digits? cs).filter (· ≤ most)

/-- The value of an integer from `least` to `most`, with an optional sign. -/
def integer? (least most : Int) (s : String) : Option Int :=
  let n? := match s.toList with
    | '-' :: rest => (digits? rest).map fun n => -(n : Int)
    | '+' :: rest => (digits? rest).map Int.ofNat
    | cs => (digits? cs).map Int.ofNat
  n?.filter fun n => least ≤ n ∧ n ≤ most

/-- A port number. -/
def port? (s : String) : Option UInt16 :=
  (natural? 65535 s).map UInt16.ofNat

/-- A count or a span of time. -/
def word? (s : String) : Option UInt64 :=
  (natural? 18446744073709551615 s).map UInt64.ofNat

/-- A small code with a sign. -/
def code? (s : String) : Option Int32 :=
  (integer? (-2147483648) 2147483647 s).map Int32.ofInt

/-- A point in time or another word with a sign. -/
def time? (s : String) : Option Int64 :=
  (integer? (-9223372036854775808) 9223372036854775807 s).map Int64.ofInt

/-- The first magnitude that rounds to infinity in double precision. -/
def tooLarge : Nat := Nat.pow 2 1024 - Nat.pow 2 970

/-- Whether `m` times ten to the power `e` has a finite value in double precision. The count of
digits decides all cases but those of 309 digits. -/
def isFinite (m : Nat) (e : Int) : Bool :=
  let size := (Nat.toDigits 10 m).length + e
  if m = 0 ∨ size < 309 then true
  else if size > 309 then false
  else if 0 ≤ e then m * Nat.pow 10 e.toNat < tooLarge
  else m < tooLarge * Nat.pow 10 (-e).toNat

end Courier.Decimal
