import Courier.Message.Event
import Courier.Proofs.Json.Record
import Courier.Proofs.Message.Selector

/-!
# Events travel unchanged

An event that names whom it is for is written as a value that is read back as the same event. What
is read as an event need not have been written as one: fields may be left out or added, a record may
be an array, and bytes may be a text. Still the event that is read names whom it is for. Main
statement: reading undoes writing on the events that are ever read.
-/

namespace Courier.Event

variable {e : Event}

theorem readOptions_toJson (sync : Bool) : readOptions (optionsToJson sync) = .ok sync := by
  cases sync <;> rfl

theorem read_toJson (h : e.selector.id ≠ "") : read e.toJson = .ok e := by
  have ht : ∀ s, Json.readText (.text s) = .ok s := fun s => rfl
  have hp : Json.readOptional Json.readCode
      ((e.senderPlatform.map fun n => Json.ofInt n.toInt).getD .null) = .ok e.senderPlatform :=
    Json.readOptional_getD Json.readCode_ofInt (by simp [Json.ofInt]) _
  have hs : Selector.read (.text e.selector.render) = .ok e.selector :=
    Selector.read_eq_ok_iff.2 ⟨ht _, h⟩
  have hb : Json.readBytes (.array (e.payload.map fun b => .ofNat b.toNat)) = .ok e.payload :=
    Json.readList_array Json.readByte_ofNat _
  have ho := readOptions_toJson e.senderSync
  have hn := Json.readTime_ofInt e.sendTime
  simp [read, toJson, Json.readFields, Json.readMembers, fields, Json.Field.of, ht, hp, hs, hb, ho,
    hn, List.find?, List.lookup_cons, Json.Given.get, Json.Given.getD, Json.Given.get?, bind,
    Except.bind, Functor.map, Except.map, pure, Except.pure]

theorem whole_toJson (e : Event) : Json.Whole e.toJson := by
  have hp : Json.Whole ((e.senderPlatform.map fun n => Json.ofInt n.toInt).getD .null) := by
    cases e.senderPlatform with
    | none => exact .null
    | some n => exact Json.whole_ofInt _
  have hb : Json.Whole (.array (e.payload.map fun b => .ofNat b.toNat)) := by
    apply Json.Whole.array
    simp only [List.mem_map]
    rintro _ ⟨b, -, rfl⟩
    exact .num _ _
  have ho : Json.Whole (optionsToJson e.senderSync) := by
    apply Json.Whole.object
    simp [Json.Whole.bool]
  apply Json.Whole.object
  simp [Json.Whole.text, hp, hb, ho]

/-- An event that names whom it is for is what its bytes are read as. -/
theorem decode_encode (h : e.selector.id ≠ "") : decode e.encode = .ok e := by
  rw [decode, encode, Json.ofBytes_bytes (whole_toJson e), Json.Document.read, read_toJson h]
  rfl

/-- No event without whom it is for is read. -/
theorem id_ne_empty_of_read {v : Json} (h : read v = .ok e) : e.selector.id ≠ "" := by
  unfold read at h
  simp only [Json.bind_eq_ok_iff] at h
  obtain ⟨given, -, _, -, _, -, _, -, s, hs, _, -, _, -, _, -, he⟩ := h
  obtain ⟨w, -, hw⟩ := Json.Given.get_eq_ok_iff.1 hs
  cases he
  exact (Selector.read_eq_ok_iff.1 hw).2

theorem id_ne_empty_of_decode {bytes : List UInt8} (h : decode bytes = .ok e) :
    e.selector.id ≠ "" := by
  obtain ⟨a, ha, hd⟩ := Json.bind_eq_ok_iff.1 h
  split at hd
  · cases hd
    exact id_ne_empty_of_read ha
  · cases hd

/-- Written and read, an event that names whom it is for stays what it is. What is read from any
bytes is such an event, and so it is read again once it is written. -/
theorem read_again (e : Event) :
    (e.selector.id ≠ "" → decode e.encode = .ok e) ∧
      ∀ bytes, decode bytes = .ok e → e.selector.id ≠ "" ∧ decode e.encode = .ok e :=
  ⟨decode_encode, fun _ h => ⟨id_ne_empty_of_decode h, decode_encode (id_ne_empty_of_decode h)⟩⟩

/-- An event of the least numbers and a selector with marks in it is read again, and so is one that
came as an array, with a text for its bytes, options that are not known and no time. -/
theorem read_again_of_forms :
    let e : Event :=
      ⟨"é\n", "a:b", some (-2147483648), .group "x:\"y", [0, 255], true, -9223372036854775808⟩
    let e' : Event := { e with payload := utf8 "\\", senderSync := false, sendTime := 0 }
    let bytes := utf8 ("[\"\\u00e9\\n\",\"a:b\",-2147483648,\"group:x:\\\"y\",\"\\\\\"," ++
      "\x7b\"more\":[]\x7d]")
    (e.selector.id ≠ "" ∧ decode e.encode = .ok e) ∧
      decode bytes = .ok e' ∧ e'.selector.id ≠ "" ∧ decode e'.encode = .ok e' := by
  intro e e' bytes
  have named : e.selector.id ≠ "" := by decide
  have read : decode bytes = .ok e' := Json.toOption_eq_some_iff.1 (by decide +kernel)
  exact ⟨⟨named, (read_again e).1 named⟩, read, (read_again e').2 bytes read⟩

end Courier.Event
