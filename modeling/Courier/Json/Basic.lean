import Courier.Text.Decimal

/-!
# JSON values

A value of this type is a JSON text read as far as it goes. A complete text has only containers that
end clean and quoted rows that are text; where a text breaks off, the containers that were open are
cut and the value that could not be read is `broken`. Readers of records work from left to right on
such a value and meet the break where a reader of the characters would.
-/

namespace Courier

namespace Json

/-- A number as it is written: a row of digits, or digits scaled by a power of ten because a point
or an exponent was written. -/
inductive Number where
  | whole (negative : Bool) (magnitude : Nat)
  | scaled (negative : Bool) (mantissa : Nat) (exponent : Int)
  deriving DecidableEq, Repr, Inhabited

/-- A quoted text. -/
inductive Quoted where
  | text (s : String)
  /-- The bytes of a quoted row that is no text: it has an ill-formed part, half of an escaped pair
  or, if it is not even `skippable`, a raw control character. -/
  | bytes (content : List UInt8) (skippable : Bool)
  deriving DecidableEq, Repr, Inhabited

/-- The key of an object's member: a quoted text, or a value of another kind where a key was
expected. -/
inductive Key where
  | quoted (q : Quoted)
  | other
  deriving DecidableEq, Repr, Inhabited

/-- How a container ends. -/
inductive Ending where
  /-- With its bracket, and all that it holds may be skipped unread. -/
  | clean
  /-- With its bracket, but it holds a row with a raw control character. -/
  | closed
  /-- The text breaks off before the bracket. -/
  | cut
  deriving DecidableEq, Repr, Inhabited

end Json

/-- A JSON text, read as far as it goes. -/
inductive Json where
  | null
  | bool (b : Bool)
  | num (n : Json.Number)
  | str (q : Json.Quoted)
  | arr (items : List Json) (ending : Json.Ending)
  | obj (members : List (Json.Key × Json)) (ending : Json.Ending)
  /-- Where the text stops being JSON. -/
  | broken
  deriving Repr, Inhabited

namespace Json

/-- The integer that a row of digits writes. A negative zero is no integer. -/
def Number.int? : Number → Option Int
  | .whole true 0 => none
  | .whole true n => some (-n)
  | .whole false n => some n
  | .scaled .. => none

/-- Whether a number has a finite value in double precision. -/
def Number.isFinite : Number → Bool
  | .whole _ n => Decimal.isFinite n 0
  | .scaled _ m e => Decimal.isFinite m e

/-- A complete text. -/
abbrev text (s : String) : Json := .str (.text s)

/-- An integer, written without a sign unless it is negative. -/
def ofInt (n : Int) : Json := .num (.whole (n < 0) n.natAbs)

/-- A natural number. -/
abbrev ofNat (n : Nat) : Json := .num (.whole false n)

/-- A complete array. -/
abbrev array (items : List Json) : Json := .arr items .clean

/-- A complete object, its members in the order given. -/
abbrev object (members : List (String × Json)) : Json :=
  .obj (members.map fun m => (.quoted (.text m.1), m.2)) .clean

/-- A text, or null. -/
def optional (s : Option String) : Json :=
  (s.map text).getD .null

/-- Whether a quoted row may be skipped unread. -/
def Quoted.isSkippable : Quoted → Bool
  | .text _ => true
  | .bytes _ skippable => skippable

/-- Whether a value may be skipped unread: its text does not break off, and no row in it has a raw
control character. -/
def isSkippable : Json → Bool
  | .str q => q.isSkippable
  | .arr _ ending => ending = .clean
  | .obj _ ending => ending = .clean
  | .broken => false
  | _ => true

@[simp] theorem int?_ofInt (n : Int) : (Number.whole (n < 0) n.natAbs).int? = some n := by
  by_cases h : n < 0
  · obtain ⟨m, hm⟩ : ∃ m, n.natAbs = m + 1 := ⟨n.natAbs - 1, by omega⟩
    have hn : n = -((m + 1 : Nat) : Int) := by omega
    rw [decide_eq_true h, hm]
    exact congrArg some hn.symm
  · rw [decide_eq_false h]
    exact congrArg some (by omega)

end Json

end Courier
