import Courier.Proofs.Text.Decimal
import Courier.Toml.Basic
import Mathlib.Data.List.Basic

/-!
# Shapes of TOML values

What a reader takes, told without the reader: texts, truth values, counts up to a bound, and records
whose fields have shapes of their own. Main statements: a field is read exactly if it fits, and then
gives its value or its default; a single value is read as what is written for it.
-/

namespace Courier.Toml

/-! ### Shapes -/

/-- Whether a value is a text. -/
def IsText (v : Toml) : Prop := ∃ s, v = .text s

/-- Whether a value is a truth value. -/
def IsBool (v : Toml) : Prop := ∃ b, v = .bool b

/-- Whether a value is a whole number from zero to a bound. -/
def IsCount (most : Nat) (v : Toml) : Prop := ∃ n : Nat, n ≤ most ∧ v = .integer n

/-- Whether a value is an array of texts. -/
def IsTexts (v : Toml) : Prop := ∃ texts : List String, v = .array (texts.map .text)

/-- A field of a record: its name, the values that it may have, and whether it has to be given. -/
structure Field where
  name : String
  shape : Toml → Prop
  required : Bool := false

/-- Whether a field is as it should be, if it is given and if it is left out. -/
def Field.Fits (f : Field) : Option Toml → Prop
  | none => f.required = false
  | some v => f.shape v

/-- The value that a record of these fields gives for the one of a name: a table by name, an array
by place. A point in time gives none. -/
def member? (fields : List Field) (name : String) : Toml → Option Toml
  | .table members => members.lookup name
  | .array items => ((fields.map (·.name)).zip items).lookup name
  | _ => none

/-- Whether a value is a record of these fields. What else stands in it does not matter. -/
def IsRecord (fields : List Field) (v : Toml) : Prop :=
  ((∃ members, v = .table members) ∨ (∃ items, v = .array items) ∨ ∃ written, v = .moment written) ∧
    ∀ f ∈ fields, f.Fits (v.member? fields f.name)

/-- The values of a record that stands in a field: none if the field is left out. -/
def valuesIn (value : String → Option Toml) (name : String) (fields : List Field) :
    String → Option Toml :=
  fun key => (value name).bind (member? fields key)

/-- Whether a reader reads what is written for the things that it gives, and nothing else. -/
def Reads {α : Type} (read : Reader α) (write : α → Toml) : Prop :=
  ∀ v a, read v = some a ↔ v = write a

/-- Whether a reader takes the values of a shape and no others. -/
def Takes {α : Type} (read : Reader α) (shape : Toml → Prop) : Prop :=
  ∀ v, (∃ a, read v = some a) ↔ shape v

variable {α β : Type} {read : Reader α} {shape : Toml → Prop} {v : Toml}

/-! ### Single values -/

theorem reads_text : Reads readText .text := by
  intro v s
  cases v <;> simp [readText]

theorem reads_bool : Reads readBool .bool := by
  intro v b
  cases v <;> simp [readBool]

theorem readNat_eq_some_iff {most n : Nat} :
    readNat most v = some n ↔ n ≤ most ∧ v = .integer n := by
  unfold readNat
  split
  · rename_i i
    rw [Option.ite_none_right_eq_some, Option.some.injEq, Toml.integer.injEq]
    omega
  · rename_i other
    simpa using fun _ => other n

theorem reads_port : Reads readPort fun n => .integer n.toNat := fun _ _ =>
  Decimal.map_eq_some_iff_of_le (fun _ => readNat_eq_some_iff)
    (fun _ hn => UInt16.toNat_ofNat_of_lt' (Nat.lt_succ_of_le hn)) (fun _ => UInt16.ofNat_toNat)
    fun n => Nat.le_of_lt_succ n.toNat_lt

theorem reads_small : Reads readSmall fun n => .integer n.toNat := fun _ _ =>
  Decimal.map_eq_some_iff_of_le (fun _ => readNat_eq_some_iff)
    (fun _ hn => UInt32.toNat_ofNat_of_lt' (Nat.lt_succ_of_le hn)) (fun _ => UInt32.ofNat_toNat)
    fun n => Nat.le_of_lt_succ n.toNat_lt

theorem reads_word : Reads readWord fun n => .integer n.toNat := fun _ _ =>
  Decimal.map_eq_some_iff_of_le (fun _ => readNat_eq_some_iff)
    (fun _ hn => UInt64.toNat_ofNat_of_lt' (Nat.lt_succ_of_le hn)) (fun _ => UInt64.ofNat_toNat)
    fun n => Nat.le_of_lt_succ n.toNat_lt

theorem mapM_readText_eq_some_iff {items : List Toml} {texts : List String} :
    items.mapM readText = some texts ↔ items = texts.map .text := by
  induction items generalizing texts with
  | nil => cases texts <;> simp
  | cons v items ih =>
      cases texts <;> simp [Option.bind_eq_some_iff, reads_text v, ih]

theorem reads_texts : Reads (readList readText) fun texts => .array (texts.map .text) := by
  intro v texts
  cases v <;> simp [readList, mapM_readText_eq_some_iff]

theorem Reads.takes {write : α → Toml} (h : Reads read write) :
    Takes read fun v => ∃ a, v = write a :=
  fun v => exists_congr (h v)

theorem takes_text : Takes readText IsText :=
  reads_text.takes

theorem takes_bool : Takes readBool IsBool :=
  reads_bool.takes

theorem takes_texts : Takes (readList readText) IsTexts :=
  reads_texts.takes

theorem takes_nat (most : Nat) : Takes (readNat most) (IsCount most) :=
  fun _ => exists_congr fun _ => readNat_eq_some_iff

theorem Takes.map (h : Takes read shape) (f : α → β) :
    Takes (fun v => f <$> read v) shape := by
  intro v
  simp [← h v]

theorem takes_port : Takes readPort (IsCount 65535) :=
  (takes_nat 65535).map UInt16.ofNat

theorem takes_small : Takes readSmall (IsCount 4294967295) :=
  (takes_nat 4294967295).map UInt32.ofNat

theorem takes_word : Takes readWord (IsCount 18446744073709551615) :=
  (takes_nat 18446744073709551615).map UInt64.ofNat

/-! ### Fields -/

variable {given : List (String × Toml)} {name : String} {a d : α}

theorem fieldD_eq_some_iff (h : Takes read shape) :
    fieldD given name read d = some a ↔
      Field.Fits ⟨name, shape, false⟩ (given.lookup name) ∧
        ((given.lookup name).bind read).getD d = a := by
  unfold fieldD
  cases given.lookup name with
  | none => simp [Field.Fits]
  | some v =>
      have hs : shape v ↔ ∃ a, read v = some a := (h v).symm
      cases hr : read v <;> simp [Field.Fits, hs, hr]

theorem field?_eq_some_iff (h : Takes read shape) {o : Option α} :
    field? given name read = some o ↔
      Field.Fits ⟨name, shape, false⟩ (given.lookup name) ∧
        (given.lookup name).bind read = o := by
  rw [field?, fieldD_eq_some_iff (h.map some)]
  refine and_congr_right fun _ => ?_
  cases given.lookup name with
  | none => rfl
  | some v => cases hr : read v <;> simp [hr]

theorem field_eq_some_iff (h : Takes read shape) :
    field given name read = some a ↔
      Field.Fits ⟨name, shape, true⟩ (given.lookup name) ∧
        (given.lookup name).bind read = some a := by
  unfold field
  cases given.lookup name with
  | none => simp [Field.Fits]
  | some v =>
      have hs : shape v ↔ ∃ a, read v = some a := (h v).symm
      cases hr : read v <;> simp [Field.Fits, hs, hr]

/-! ### Records -/

/-- Whether a reader takes the records of these fields, and makes of one what its values say. -/
def ReadsRecord {α : Type} (read : Reader α) (fields : List Field)
    (make : (String → Option Toml) → Option α) : Prop :=
  ∀ v a, read v = some a ↔ IsRecord fields v ∧ make (v.member? fields ·) = some a

/-- The fields that are read from a record are those that it gives. -/
theorem exists_fields?_iff {fields : List Field} {p : List (String × Toml) → Prop}
    {q : (String → Option Toml) → Prop} (h : ∀ given, p given ↔ q (given.lookup ·)) :
    (∃ given, fields? (fields.map (·.name)) v = some given ∧ p given) ↔
      ((∃ members, v = .table members) ∨ (∃ items, v = .array items) ∨
        ∃ written, v = .moment written) ∧ q (v.member? fields ·) := by
  cases v <;> simp [fields?, member?, h]

/-- What is made of fields that fit depends on their values alone. -/
theorem readsRecord_of_fields {body : List (String × Toml) → Option α} (fields : List Field)
    (make : (String → Option Toml) → Option α)
    (h : ∀ given a, body given = some a ↔
      (∀ f ∈ fields, f.Fits (given.lookup f.name)) ∧ make (given.lookup ·) = some a) :
    ReadsRecord (fun v => fields? (fields.map (·.name)) v >>= body) fields make := by
  intro v a
  rw [Option.bind_eq_bind, Option.bind_eq_some_iff,
    exists_fields?_iff (q := fun value => (∀ f ∈ fields, f.Fits (value f.name)) ∧
      make value = some a) fun given => h given a]
  exact and_assoc.symm

/-- A field that a record has to give is read. -/
theorem IsRecord.exists_value {fields : List Field} (hv : IsRecord fields v) (name : String)
    (h : Takes read shape) (hf : ⟨name, shape, true⟩ ∈ fields) :
    ∃ a, (v.member? fields name).bind read = some a := by
  have hn := hv.2 _ hf
  cases hl : v.member? fields name with
  | none => simp [Field.Fits, hl] at hn
  | some w =>
      rw [hl] at hn
      exact (h w).2 hn

/-- A reader of records takes a record if something is made of it. -/
theorem ReadsRecord.takes {fields : List Field} {make : (String → Option Toml) → Option α}
    (h : ReadsRecord read fields make)
    (made : ∀ v, IsRecord fields v → ∃ a, make (v.member? fields ·) = some a) :
    Takes read (IsRecord fields) := by
  intro v
  constructor
  · rintro ⟨a, ha⟩
    exact ((h v a).1 ha).1
  · intro hv
    obtain ⟨a, ha⟩ := made v hv
    exact ⟨a, (h v a).2 ⟨hv, ha⟩⟩

/-- A record in a field that may be left out is what its values make. -/
theorem ReadsRecord.field?_eq_some_iff {fields : List Field}
    {make : (String → Option Toml) → Option α} (h : ReadsRecord read fields make)
    (taken : Takes read (IsRecord fields)) (left : make (fun _ => none) = none) {o : Option α} :
    field? given name read = some o ↔
      Field.Fits ⟨name, IsRecord fields, false⟩ (given.lookup name) ∧
        make (valuesIn (given.lookup ·) name fields) = o := by
  change _ ↔ _ ∧ make (fun key => (given.lookup name).bind (member? fields key)) = o
  rw [Toml.field?_eq_some_iff taken]
  refine and_congr_right fun fits => ?_
  cases hl : given.lookup name with
  | none => simp [left]
  | some v =>
      rw [hl] at fits
      obtain ⟨a, ha⟩ := (taken v).2 fits
      simp [ha, ((h v a).1 ha).2]

/-- A record in a field that has a default is what its values make. -/
theorem ReadsRecord.fieldD_eq_some_iff {fields : List Field} {make : (String → Option Toml) → α}
    (h : ReadsRecord read fields fun value => some (make value)) (left : make (fun _ => none) = d) :
    fieldD given name read d = some a ↔
      Field.Fits ⟨name, IsRecord fields, false⟩ (given.lookup name) ∧
        make (valuesIn (given.lookup ·) name fields) = a := by
  change _ ↔ _ ∧ make (fun key => (given.lookup name).bind (member? fields key)) = a
  unfold fieldD
  cases given.lookup name with
  | none => simp [Field.Fits, left]
  | some v => simp [Field.Fits, h v a]

end Courier.Toml
