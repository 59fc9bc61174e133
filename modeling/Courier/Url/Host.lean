import Courier.Text.Cut
import Courier.Text.Decimal
import Courier.Url.Percent

/-!
# Hosts

A host is a name, four numbers between points, or eight numbers between colons in brackets. Numbers
may be written in several ways and are brought into one; names are brought into lower case.
-/

namespace Courier.Url

/-- The value of digits in a base. -/
def digitsIn? (base : Nat) (cs : List Char) : Option Nat :=
  cs.foldlM (fun n c =>
    (Hex.value? c).bind fun d => if d < base then some (n * base + d) else none) 0

namespace IPv4

/-- A number between points: in base sixteen after `0x`, in base eight after `0`, else in base
ten. -/
def number? : List Char → Option Nat
  | [] => none
  | '0' :: x :: rest =>
    if x = 'x' ∨ x = 'X' then digitsIn? 16 rest else digitsIn? 8 (x :: rest)
  | cs => digitsIn? 10 cs

/-- The parts of a host between points. A point at its end does not count. -/
def parts (host : List Char) : List (List Char) :=
  match (Cut.parts '.' host).reverse with
  | [] :: p :: ps => (p :: ps).reverse
  | ps => ps.reverse

/-- Whether a host has to be four numbers, because its last part is a number. -/
def isNumeric (host : List Char) : Bool :=
  match (parts host).getLast? with
  | some last => (!last.isEmpty && last.all Char.isDigit) || (number? last).isSome
  | none => false

/-- The value of numbers between points. The last one fills all places that are left. -/
def value? (numbers : List Nat) : Option Nat :=
  match numbers.reverse with
  | [] => none
  | last :: before =>
    if numbers.length ≤ 4 ∧ before.all (· < 256) ∧ last < Nat.pow 256 (5 - numbers.length) then
      some (before.reverse.zipIdx.foldl (fun n p => n + p.1 * Nat.pow 256 (3 - p.2)) last)
    else none

/-- A host that is four numbers, in the one form. -/
def normal? (host : List Char) : Option (List Char) := do
  let n ← value? (← (parts host).mapM number?)
  let parts := [n / 16777216, n / 65536 % 256, n / 256 % 256, n % 256].map toString
  return (".".intercalate parts).toList

end IPv4

namespace IPv6

/-- A number between colons. -/
def piece? (cs : List Char) : Option Nat :=
  if 0 < cs.length ∧ cs.length ≤ 4 then digitsIn? 16 cs else none

/-- The two numbers that four numbers between points stand for at the end. -/
def tail? (cs : List Char) : Option (List Nat) := do
  let numbers ← (Cut.parts '.' cs).mapM fun p => Decimal.natural? 255 (String.ofList p)
  let plain := (Cut.parts '.' cs).all fun p => p.length = 1 || p.head? ≠ some '0'
  match numbers with
  | [a, b, c, d] => if plain ∧ !cs.contains '+' then some [a * 256 + b, c * 256 + d] else none
  | _ => none

/-- Numbers between colons, of which the last may be four between points. -/
def pieces? (isLast : Bool) (cs : List Char) : Option (List Nat) :=
  if cs.isEmpty then some []
  else
    let parts := Cut.parts ':' cs
    match parts.reverse with
    | [] => some []
    | last :: before =>
      if isLast ∧ last.contains '.' then do
        return (← before.reverse.mapM piece?) ++ (← tail? last)
      else parts.mapM piece?

/-- Cuts at the first two colons in a row. -/
def cutGap : List Char → Option (List Char × List Char)
  | ':' :: ':' :: rest => some ([], rest)
  | c :: rest => (cutGap rest).map fun p => (c :: p.1, p.2)
  | [] => none

/-- The eight numbers of a host. Two colons in a row stand for as many zeros as are missing. -/
def numbers? (cs : List Char) : Option (List Nat) :=
  match cutGap cs with
  | none => (pieces? true cs).filter fun ps => ps.length = 8
  | some (left, right) => do
    let before ← pieces? false left
    let after ← pieces? true right
    if before.length + after.length < 8 then
      some (before ++ List.replicate (8 - before.length - after.length) 0 ++ after)
    else none

/-- The length of a row of zeros at the front. -/
def zeros (ns : List Nat) : Nat :=
  (ns.takeWhile (· = 0)).length

/-- The place of the first longest row of at least two zeros, and its length. -/
def gap? (ns : List Nat) : Option (Nat × Nat) :=
  let rows := (List.range ns.length).map fun i => (i, zeros (ns.drop i))
  let longest := (rows.map Prod.snd).max?.getD 0
  if longest < 2 then none else rows.find? fun r => r.2 = longest

/-- A number in base sixteen. -/
def digits (n : Nat) : List Char :=
  Nat.toDigits 16 n

/-- Numbers between colons. -/
def row (ns : List Nat) : List Char :=
  (ns.map digits).intersperse [':'] |>.flatten

/-- The one form of eight numbers. -/
def write (ns : List Nat) : List Char :=
  match gap? ns with
  | none => row ns
  | some (start, length) => row (ns.take start) ++ [':', ':'] ++ row (ns.drop (start + length))

end IPv6

/-- Whether a character may not stand in a name. -/
def isForbidden (c : Char) : Bool :=
  c.toNat ≤ 32 || c.toNat = 127 || "#/:<>?@[\\]^|%".toList.contains c

/-- A host in its one form. Names are taken in ASCII alone. -/
def host? (cs : List Char) : Option (List Char) :=
  match cs with
  | '[' :: rest =>
    match rest.reverse with
    | ']' :: inner => do
      let ns ← IPv6.numbers? inner.reverse
      return '[' :: IPv6.write ns ++ [']']
    | _ => none
  | cs =>
    let name := (Utf8.decodeLossy (Percent.decode cs)).map Char.toLower
    if name.isEmpty ∨ name.any (fun c => isForbidden c || 127 < c.toNat) then none
    else if IPv4.isNumeric name then IPv4.normal? name
    else some name

end Courier.Url
