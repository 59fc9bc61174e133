/-!
# UTF-8 text

Encoding is core's `String.utf8EncodeChar`, character by character. Decoding is one small machine
that reads byte after byte: every well-formed sequence yields its character, and every maximal
ill-formed part yields a piece of its own, so that nothing is lost. Strict reading asks that no
part is ill-formed; lossy reading puts U+FFFD in its place. Both are views of the same machine.
-/

namespace Courier.Utf8

/-- The bytes that write a list of characters. -/
def encode (cs : List Char) : List UInt8 :=
  cs.flatMap String.utf8EncodeChar

@[simp] theorem encode_nil : encode [] = [] := rfl

@[simp] theorem encode_cons (c : Char) (cs : List Char) :
    encode (c :: cs) = String.utf8EncodeChar c ++ encode cs := by
  simp [encode]

theorem encode_append (cs ds : List Char) : encode (cs ++ ds) = encode cs ++ encode ds := by
  simp [encode]

/-- What decoding yields: a character, or the bytes of a maximal ill-formed part. -/
inductive Piece where
  | char (c : Char)
  | illFormed (bytes : List UInt8)
  deriving DecidableEq, Repr, Inhabited

/-- The character of a piece, if it is well-formed. -/
def Piece.char? : Piece → Option Char
  | .char c => some c
  | .illFormed _ => none

/-- What is still owed of a started sequence. -/
inductive Pending where
  /-- Between characters. -/
  | idle
  /-- `owed` more bytes, the next of them from `low` to `high`; `code` holds the bits read so far
  and `read` the bytes, the last first. -/
  | owing (read : List UInt8) (code owed low high : Nat)
  deriving DecidableEq, Repr

/-- One byte between characters: what it yields, and what it leaves owed. -/
def first (b : UInt8) : List Piece × Pending :=
  let n := b.toNat
  if n < 0x80 then ([.char (Char.ofNat n)], .idle)
  else if n < 0xC2 then ([.illFormed [b]], .idle)
  else if n < 0xE0 then ([], .owing [b] (n - 0xC0) 1 0x80 0xBF)
  else if n = 0xE0 then ([], .owing [b] 0 2 0xA0 0xBF)
  else if n = 0xED then ([], .owing [b] 0xD 2 0x80 0x9F)
  else if n < 0xF0 then ([], .owing [b] (n - 0xE0) 2 0x80 0xBF)
  else if n = 0xF0 then ([], .owing [b] 0 3 0x90 0xBF)
  else if n < 0xF4 then ([], .owing [b] (n - 0xF0) 3 0x80 0xBF)
  else if n = 0xF4 then ([], .owing [b] 4 3 0x80 0x8F)
  else ([.illFormed [b]], .idle)

/-- One byte in any state. A byte that cannot continue a started sequence ends it as ill-formed and
is then read as a first byte. -/
def step : Pending → UInt8 → List Piece × Pending
  | .idle, b => first b
  | .owing read code owed low high, b =>
    if low ≤ b.toNat ∧ b.toNat ≤ high then
      let code := code * 64 + (b.toNat - 0x80)
      if owed = 1 then ([.char (Char.ofNat code)], .idle)
      else ([], .owing (b :: read) code (owed - 1) 0x80 0xBF)
    else (.illFormed read.reverse :: (first b).1, (first b).2)

/-- The pieces that bytes write after a started sequence. -/
def decodeFrom : Pending → List UInt8 → List Piece
  | .idle, [] => []
  | .owing read .., [] => [.illFormed read.reverse]
  | p, b :: bs => (step p b).1 ++ decodeFrom (step p b).2 bs

/-- The pieces that bytes write. -/
def decode (bs : List UInt8) : List Piece :=
  decodeFrom .idle bs

/-- The characters of pieces, if all are well-formed. -/
def chars? (ps : List Piece) : Option (List Char) :=
  ps.mapM Piece.char?

/-- The characters that bytes write, if they are well-formed throughout. -/
def decode? (bs : List UInt8) : Option (List Char) :=
  chars? (decode bs)

/-- The characters that bytes write, with U+FFFD for each maximal ill-formed part. -/
def decodeLossy (bs : List UInt8) : List Char :=
  (decode bs).map fun p => p.char?.getD '\uFFFD'

@[simp] theorem decode_nil : decode [] = [] := rfl

theorem length_decodeLossy (bs : List UInt8) : (decodeLossy bs).length = (decode bs).length := by
  simp [decodeLossy]

/-- Pieces are characters throughout exactly when they are the pieces of those characters. -/
theorem chars?_eq_some_iff {ps : List Piece} {cs : List Char} :
    chars? ps = some cs ↔ ps = cs.map Piece.char := by
  unfold chars?
  induction ps generalizing cs with
  | nil => cases cs <;> simp
  | cons p ps ih =>
    cases p with
    | illFormed bs => cases cs <;> simp [List.mapM_cons, Piece.char?]
    | char p =>
      cases cs with
      | nil => simp [List.mapM_cons, Option.bind_eq_some_iff, Piece.char?]
      | cons c cs =>
        simp only [List.mapM_cons, Piece.char?, Option.pure_def, Option.bind_eq_bind,
          Option.bind_some, Option.bind_eq_some_iff, ih, Option.some.injEq, List.cons.injEq,
          List.map_cons, Piece.char.injEq]
        grind

/-- Where strict reading succeeds, lossy reading gives the same characters. -/
theorem decodeLossy_of_decode? {bs : List UInt8} {cs : List Char} (h : decode? bs = some cs) :
    decodeLossy bs = cs := by
  simp [decodeLossy, chars?_eq_some_iff.1 h, Function.comp_def, Piece.char?]

end Courier.Utf8

namespace Courier

/-- The UTF-8 bytes of a text. -/
def utf8 (s : String) : List UInt8 :=
  Utf8.encode s.toList

/-- The text that bytes write, if they are well-formed UTF-8. -/
def ofUtf8? (bs : List UInt8) : Option String :=
  (Utf8.decode? bs).map String.ofList

/-- The text that bytes write, ill-formed parts replaced. -/
def ofUtf8Lossy (bs : List UInt8) : String :=
  String.ofList (Utf8.decodeLossy bs)

end Courier
