import Courier.Text.Hex
import Courier.Text.Utf8

/-!
# Percent-encoding

A character that may not stand in a part of an address is written as the bytes of its UTF-8 form,
each as a percent sign and two upper-case digits. What may stand depends on the part.
-/

namespace Courier.Url.Percent

/-- Whether a character has to be written in bytes in any part of an address. -/
def isControl (c : Char) : Bool :=
  c.toNat < 32 || 126 < c.toNat

/-- Whether a character has to be written in bytes after the number sign. -/
def inFragment (c : Char) : Bool :=
  isControl c || c ∈ [' ', '"', '<', '>', '\x60']

/-- Whether a character has to be written in bytes in a path. -/
def inPath (c : Char) : Bool :=
  inFragment c || c ∈ ['#', '?', '\x7b', '\x7d']

/-- Whether a character has to be written in bytes in a query. -/
def inQuery (c : Char) : Bool :=
  isControl c || c ∈ [' ', '"', '#', '<', '>', '\'']

/-- A byte in its written form. -/
def byte (b : UInt8) : List Char :=
  ['%', Hex.upper (b.toNat / 16), Hex.upper (b.toNat % 16)]

/-- Writes characters, those in bytes that a part does not take. -/
def encode (isEncoded : Char → Bool) (cs : List Char) : List Char :=
  cs.flatMap fun c => if isEncoded c then (Utf8.encode [c]).flatMap byte else [c]

/-- The bytes of characters some of which are written in bytes. -/
def decode : List Char → List UInt8
  | '%' :: a :: b :: rest =>
    match Hex.value? a, Hex.value? b with
    | some x, some y => UInt8.ofNat (x * 16 + y) :: decode rest
    | _, _ => Utf8.encode ['%'] ++ decode (a :: b :: rest)
  | c :: rest => Utf8.encode [c] ++ decode rest
  | [] => []

end Courier.Url.Percent
