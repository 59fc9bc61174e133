import Courier.Json.Parse

/-!
# Reading records from JSON

A reader takes a value to what it stands for, or says why it cannot: the text is malformed at the
first place the reader looks at, or it is well formed and has the wrong shape. Readers of records
go from left to right and stop at the first error; what no field of the record needs is skipped.
A record may also be written as the array of its fields.
-/

namespace Courier.Json

/-- Why a value cannot be read. -/
inductive DecodeError where
  /-- The text is no JSON at the place that was read. -/
  | malformed
  /-- The text is JSON of another shape. -/
  | shape
  /-- The object ends without a field that the record needs. -/
  | missing (field : String)
  /-- A field is given twice. -/
  | repeated (field : String)
  /-- The value has the right shape, and its type refuses it. -/
  | rejected (reason : String)
  deriving DecidableEq, Repr, Inhabited

/-- The sentence about an error that goes beyond its kind. -/
def DecodeError.message? : DecodeError → Option String
  | .missing field => some ("missing field `" ++ field ++ "`")
  | .repeated field => some ("duplicate field `" ++ field ++ "`")
  | .rejected reason => some reason
  | .malformed | .shape => none

/-- Reads a value. -/
abbrev Reader (α : Type) := Json → Except DecodeError α

/-- The error of a reader that wants a value of another kind. Only a value without parts is looked
at further: it must be readable itself. -/
def mismatch : Json → DecodeError
  | .broken => .malformed
  | .str (.bytes ..) => .malformed
  | .num n => if n.isFinite then .shape else .malformed
  | _ => .shape

/-- Passes over a value that is not needed. -/
def skip : Reader Unit := fun v =>
  if v.isSkippable then .ok () else .error .malformed

/-- Reads a text. -/
def readText : Reader String
  | .str (.text s) => .ok s
  | v => .error (mismatch v)

/-- Reads a truth value. -/
def readBool : Reader Bool
  | .bool b => .ok b
  | v => .error (mismatch v)

/-- Reads the empty value. -/
def readNull : Reader Unit
  | .null => .ok ()
  | v => .error (mismatch v)

/-- Reads an integer from `least` to `most`. -/
def readInt (least most : Int) : Reader Int
  | .num n =>
    if n.isFinite then
      match n.int? with
      | some i => if least ≤ i ∧ i ≤ most then .ok i else .error .shape
      | none => .error .shape
    else .error .malformed
  | v => .error (mismatch v)

/-- Reads a small code with a sign. -/
def readCode : Reader Int32 := fun v =>
  Int32.ofInt <$> readInt (-2147483648) 2147483647 v

/-- Reads a point in time. -/
def readTime : Reader Int64 := fun v =>
  Int64.ofInt <$> readInt (-9223372036854775808) 9223372036854775807 v

/-- Reads a byte. -/
def readByte : Reader UInt8 := fun v =>
  (fun n => UInt8.ofNat n.toNat) <$> readInt 0 255 v

/-- Reads a value or null. -/
def readOptional {α : Type} (read : Reader α) : Reader (Option α)
  | .null => .ok none
  | v => some <$> read v

/-- Reads the items of an array. -/
def readList {α : Type} (read : Reader α) : Reader (List α)
  | .arr items ending => do
    let xs ← items.mapM read
    if ending = .cut then throw .malformed
    return xs
  | v => .error (mismatch v)

/-- Reads bytes: an array of them, or a quoted row, which stands for its UTF-8 bytes. -/
def readBytes : Reader (List UInt8)
  | .str (.text s) => .ok (utf8 s)
  | .str (.bytes content _) => .ok content
  | v => readList readByte v

/-- What is taken for a field that is not given. -/
inductive Presence where
  /-- It has to be given. -/
  | required
  /-- It counts as null where an object leaves it out; an array cannot. -/
  | nullable
  /-- It may be left out anywhere. -/
  | defaulted
  deriving DecidableEq, Repr

/-- A field of a record: its name, whether it must be given, and what its value must pass. -/
structure Field where
  name : String
  presence : Presence
  check : Reader Unit

/-- A field whose value is read by `read`. -/
def Field.of {α : Type} (name : String) (presence : Presence) (read : Reader α) : Field :=
  ⟨name, presence, fun v => (fun _ => ()) <$> read v⟩

/-- The values given for the fields of a record. -/
abbrev Given := List (String × Json)

/-- The fields of an object, member by member. -/
def readMembers (fields : List Field) (given : Given) :
    List (Key × Json) → Except DecodeError Given
  | [] => .ok given
  | (.quoted (.text name), v) :: rest =>
    match fields.find? (·.name = name) with
    | none => do
      skip v
      readMembers fields given rest
    | some f => do
      if (given.lookup name).isSome then throw (.repeated name)
      f.check v
      readMembers fields (given ++ [(name, v)]) rest
  | _ :: _ => .error .malformed

/-- The fields of an array, in their order. -/
def readPositions (ending : Ending) : List Field → List Json → Except DecodeError Given
  | [], [] => if ending = .cut then .error .malformed else .ok []
  | [], _ :: _ => .error .malformed
  | f :: fs, [] =>
    if ending = .cut then .error .malformed
    else if f.presence = .defaulted then readPositions ending fs []
    else .error .shape
  | f :: fs, v :: vs => do
    f.check v
    let given ← readPositions ending fs vs
    return (f.name, v) :: given

/-- Reads the fields of a record from an object or an array. A field that is missing from an object
is reported at its end, in the order of the fields. -/
def readFields (fields : List Field) : Reader Given
  | .obj members ending => do
    let given ← readMembers fields [] members
    if ending = .cut then throw .malformed
    match fields.find? fun f => f.presence = .required ∧ (given.lookup f.name).isNone with
    | some f => throw (.missing f.name)
    | none => return given
  | .arr items ending => readPositions ending fields items
  | v => .error (mismatch v)

/-- The value of a field, if it is given. -/
def Given.get? {α : Type} (given : Given) (name : String) (read : Reader α) :
    Except DecodeError (Option α) :=
  match given.lookup name with
  | none => .ok none
  | some v => some <$> read v

/-- The value of a field that has to be given. -/
def Given.get {α : Type} (given : Given) (name : String) (read : Reader α) :
    Except DecodeError α := do
  match ← given.get? name read with
  | none => throw (.missing name)
  | some a => return a

/-- The value of a field, or its default. -/
def Given.getD {α : Type} (given : Given) (name : String) (read : Reader α) (default : α) :
    Except DecodeError α := do
  return (← given.get? name read).getD default

/-- Reads a choice between named variants, each with or without a value: a text alone names a
variant without a value, an object with one member names either. -/
def readVariant {α : Type} (bare : String → Option α) (carrying : String → Option (Reader α)) :
    Reader α
  | .str (.text name) =>
    match bare name with
    | some a => .ok a
    | none => .error .shape
  | .obj ((.quoted (.text name), v) :: rest) ending => do
    let a ← match bare name, carrying name with
      | some a, _ => (fun _ => a) <$> readNull v
      | none, some read => read v
      | none, none => throw .shape
    if rest.isEmpty ∧ ending ≠ .cut then return a else throw .malformed
  | .obj ((.other, _) :: _) _ => .error .shape
  | _ => .error .malformed

/-- Whether a value could be read whole: no row in it is ill-formed, no number is out of range, and
it nests no deeper than `depth` containers. -/
def isReadable (depth : Nat) : Json → Bool
  | .str (.bytes ..) => false
  | .num n => n.isFinite
  | .broken => false
  | .arr items ending =>
    match depth with
    | 0 => false
    | depth + 1 => ending ≠ .cut && items.all (isReadable depth)
  | .obj members ending =>
    match depth with
    | 0 => false
    | depth + 1 =>
      ending ≠ .cut && members.all fun m =>
        (m.1 matches .quoted (.text _)) && isReadable depth m.2
  | _ => true

/-- Reads the whole of a document: its value first, then nothing but blanks. -/
def Document.read {α : Type} (d : Document) (read : Reader α) : Except DecodeError α := do
  let a ← read d.root
  if d.ends then return a else throw .malformed

end Courier.Json
