/-!
# TOML values

What a configuration file says, once its tables are put together. Numbers with a point and points
in time are kept as they are written, since no setting is one.
-/

namespace Courier

/-- A TOML value. -/
inductive Toml where
  | text (s : String)
  | integer (n : Int)
  | float (written : String)
  | bool (b : Bool)
  | moment (written : String)
  | array (items : List Toml)
  | table (members : List (String × Toml))
  deriving Repr, Inhabited

namespace Toml

/-- Reads a value, if it has the wanted shape. -/
abbrev Reader (α : Type) := Toml → Option α

/-- Reads a text. -/
def readText : Reader String
  | .text s => some s
  | _ => none

/-- Reads a truth value. -/
def readBool : Reader Bool
  | .bool b => some b
  | _ => none

/-- Reads a natural number up to `most`. -/
def readNat (most : Nat) : Reader Nat
  | .integer n => if 0 ≤ n ∧ n ≤ most then some n.toNat else none
  | _ => none

/-- Reads a port number. -/
def readPort : Reader UInt16 := fun v => UInt16.ofNat <$> readNat 65535 v

/-- Reads a small count. -/
def readSmall : Reader UInt32 := fun v => UInt32.ofNat <$> readNat 4294967295 v

/-- Reads a count or a span of time. -/
def readWord : Reader UInt64 := fun v => UInt64.ofNat <$> readNat 18446744073709551615 v

/-- Reads the items of an array. -/
def readList {α : Type} (read : Reader α) : Reader (List α)
  | .array items => items.mapM read
  | _ => none

/-- The values given for the fields of a record: by name in a table, by place in an array. A point
in time gives none. -/
def fields? (names : List String) : Toml → Option (List (String × Toml))
  | .table members => some members
  | .array items => some (names.zip items)
  | .moment _ => some []
  | _ => none

/-- The value of a field, or its default. -/
def fieldD {α : Type} (given : List (String × Toml)) (name : String) (read : Reader α)
    (default : α) : Option α :=
  match given.lookup name with
  | none => some default
  | some v => read v

/-- The value of a field that has to be given. -/
def field {α : Type} (given : List (String × Toml)) (name : String) (read : Reader α) : Option α :=
  given.lookup name >>= read

/-- The value of a field that may be left out. -/
def field? {α : Type} (given : List (String × Toml)) (name : String) (read : Reader α) :
    Option (Option α) :=
  fieldD given name (fun v => some <$> read v) none

end Toml

end Courier
