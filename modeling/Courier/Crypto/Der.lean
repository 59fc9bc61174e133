import Courier.Text.Utf8

/-!
# Tagged binary values

Key files hold values that are written as a tag, a length and a body, nested in each other. Two
readers are needed: one that finds the identifiers of objects in any such value and takes every
spelling of a length, and one that takes a value apart whose layout is known and insists on the
shortest spelling.
-/

namespace Courier.Der

/-- A value in its written form. -/
structure Element where
  /-- The byte in front, which names the class, the shape and a small tag. -/
  lead : UInt8
  /-- The tag, small or not. -/
  tag : Nat
  /-- Whether tag and length are spelled as short as can be. -/
  isShort : Bool
  body : List UInt8
  deriving Repr

/-- The number of bytes with the low seven bits of each, up to a byte whose high bit is off. -/
def base128? (acc : Nat) : List UInt8 → Option (Nat × List UInt8)
  | [] => none
  | b :: rest =>
    let acc := acc * 128 + b.toNat % 128
    if b < 128 then some (acc, rest) else base128? acc rest

/-- The number that bytes stand for, the most significant first. -/
def natOf (bytes : List UInt8) : Nat :=
  bytes.foldl (fun n b => n * 256 + b.toNat) 0

/-- A length, and whether it is spelled as short as can be. -/
def length? : List UInt8 → Option (Nat × Bool × List UInt8)
  | [] => none
  | b :: rest =>
    let count := b.toNat - 128
    if b < 128 then some (b.toNat, true, rest)
    else if count ≤ 8 ∧ count ≤ rest.length then
      let n := natOf (rest.take count)
      some (n, 128 ≤ n && Nat.pow 256 (count - 1) ≤ n, rest.drop count)
    else none

/-- The first value of a row, and what follows it. -/
def front? : List UInt8 → Option (Element × List UInt8)
  | [] => none
  | lead :: rest => do
    let isLarge := lead % 32 = 31
    let (tag, rest) ← if isLarge then base128? 0 rest else some (lead.toNat % 32, rest)
    let (n, isShort, rest) ← length? rest
    if n ≤ rest.length then
      some (⟨lead, tag, isShort && !isLarge, rest.take n⟩, rest.drop n)
    else none

/-- The body of the first value of a row if it has a tag and is spelled as short as can be, and what
follows it. -/
def expect? (lead : UInt8) (bytes : List UInt8) : Option (List UInt8 × List UInt8) := do
  let (e, rest) ← front? bytes
  if e.lead = lead ∧ e.isShort then some (e.body, rest) else none

/-- The body of a value that stands alone. -/
def only? (lead : UInt8) (bytes : List UInt8) : Option (List UInt8) := do
  let (body, rest) ← expect? lead bytes
  if rest.isEmpty then some body else none

/-- What follows an optional first value with a tag. -/
def skip? (lead : UInt8) (bytes : List UInt8) : Option (List UInt8) :=
  if bytes.head? = some lead then (expect? lead bytes).map Prod.snd else some bytes

/-- The numbers of an object's identifier after the first two. -/
def arcs? : Nat → List UInt8 → Option (List Nat)
  | _, [] => some []
  | 0, _ => none
  | fuel + 1, bytes => do
    let (n, rest) ← base128? 0 bytes
    return n :: (← arcs? fuel rest)

/-- The numbers of an object's identifier. -/
def objectId? : List UInt8 → Option (List Nat)
  | [] => none
  | b :: rest => do
    let first := min (b.toNat / 40) 2
    return first :: (b.toNat - first * 40) :: (← arcs? rest.length rest)

/-- The identifiers of objects in a row of values, in order, those in sequences included. A row with
a value that cannot be read has none, and neither has an empty row. -/
def objectIds? : Nat → List UInt8 → Option (List (List Nat))
  | 0, _ => none
  | fuel + 1, bytes => do
    let (e, rest) ← front? bytes
    let here ←
      if 64 ≤ e.lead then some []
      else match e.tag with
        | 1 => if e.body.length = 1 then some [] else none
        | 6 => (objectId? e.body).map fun id => [id]
        | 12 | 20 => (Utf8.decode? e.body).map fun _ => []
        | 16 => objectIds? fuel e.body
        | 17 => (objectIds? fuel e.body).map fun _ => []
        | _ => some []
    if rest.isEmpty then return here
    return here ++ (← objectIds? fuel rest)

/-- The identifiers of objects in a value. -/
def identifiers? (bytes : List UInt8) : Option (List (List Nat)) :=
  objectIds? (bytes.length + 1) bytes

end Courier.Der
