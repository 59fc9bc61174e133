import Courier.Http.Route
import Courier.Proofs.Message.Outcome
import Courier.Proofs.Service.Talk

/-!
# Reports at both ends

A push is answered with the bytes of a report, and whoever has asked for it reads a report from
them. Main statement: it is the report that the push has brought; and a report that was read from
any bytes, whatever the form of its outcomes there, is the same after it was written and read again.
-/

namespace Courier

namespace Report

theorem readLine_lineToJson (line : String × Outcome) : readLine (lineToJson line) = .ok line := by
  have ht : Json.readText (.text line.1) = .ok line.1 := rfl
  have ho : Outcome.read line.2.toJson = .ok line.2 :=
    Outcome.read_eq_ok_iff.2 (Outcome.isWritten_toJson line.2)
  simp [readLine, lineToJson, Json.readFields, Json.readMembers, Json.Field.of, ht, ho,
    List.find?, List.lookup_cons, Json.Given.get, Json.Given.get?, bind, Except.bind, Functor.map,
    Except.map, pure, Except.pure]

theorem read_toJson (r : Report) : read r.toJson = .ok r := by
  have hl : Json.readList readLine (.array (r.outcomes.map lineToJson)) = .ok r.outcomes :=
    Json.readList_array readLine_lineToJson r.outcomes
  simp [read, toJson, Json.readFields, Json.readMembers, Json.Field.of, hl, List.find?,
    Json.Given.get, Json.Given.get?, bind, Except.bind, Functor.map, Except.map, pure, Except.pure]

theorem whole_toJson (r : Report) : Json.Whole r.toJson := by
  have hl : Json.Whole (.array (r.outcomes.map lineToJson)) := by
    apply Json.Whole.array
    simp only [List.mem_map]
    rintro _ ⟨line, -, rfl⟩
    apply Json.Whole.object
    simp [Json.Whole.text, Outcome.whole_toJson]
  apply Json.Whole.object
  simp [hl]

/-- A report is what its bytes are read as. -/
theorem decode_encode (r : Report) : decode r.encode = .ok r := by
  rw [decode, encode, Json.ofBytes_bytes (whole_toJson r), Json.Document.read, read_toJson]
  rfl

open Dialogue in
/-- What is answered to a push is the report that the push has brought. -/
theorem leads_pushMessage_iff {e : Event} {talk : List (Exchange Answer)} {v : Json} :
    Leads (Http.Work.pushMessage e).run talk (.done (.ok v)) ↔
      ∃ r, Leads (Push.pushMessage e).run talk (.done (.ok r)) ∧ v = toJson r := by
  have hw : Http.Work.pushMessage e = Push.pushMessage e >>= fun r => pure (toJson r) := rfl
  rw [hw, Service.leads_bind_ok_iff]
  constructor
  · rintro ⟨r, before, after, rfl, hb, ha⟩
    obtain ⟨rfl, hv⟩ := leads_done_done_iff.1 ha
    cases hv
    exact ⟨r, by rwa [List.append_nil], rfl⟩
  · rintro ⟨r, h, rfl⟩
    exact ⟨r, talk, [], (List.append_nil talk).symm, h, .nil _⟩

open Dialogue in
/-- Written and read, a report stays what it is, and so does one that was read from any bytes. An
outcome is read from all that is written for it, whatever the order and the form, and from nothing
else. So whoever reads the answer to a push has the report that the push has brought, and all that
it tells. -/
theorem same_at_both_ends :
    (∀ r : Report, decode r.encode = .ok r) ∧
      (∀ bytes r, decode bytes = .ok r → decode r.encode = decode bytes) ∧
      (∀ v o, Outcome.read v = .ok o ↔ o.IsWritten v) ∧
      ∀ e talk v, Leads (Http.Work.pushMessage e).run talk (.done (.ok v)) →
        ∃ r, Leads (Push.pushMessage e).run talk (.done (.ok r)) ∧ decode v.bytes = .ok r := by
  refine ⟨decode_encode, fun bytes r h => (decode_encode r).trans h.symm,
    fun v o => Outcome.read_eq_ok_iff, fun e talk v h => ?_⟩
  obtain ⟨r, hr, rfl⟩ := leads_pushMessage_iff.1 h
  exact ⟨r, hr, decode_encode r⟩

open Dialogue in
/-- A report is read again that came with a reason before its status, with an outcome as an array
and with a status as an object. A push to a group is answered with a report of its members, which is
read from the answer. -/
theorem same_at_both_ends_of_forms :
    let r : Report := ⟨[("a", .failed "\n"), ("b", .noOfflineProvider), ("c", .deliveredOnline)]⟩
    let bytes := utf8 ("\x7b\"outcomes\":[" ++
      "\x7b\"user_id\":\"a\",\"outcome\":\x7b\"reason\":\"\\n\",\"status\":\"failed\"\x7d\x7d," ++
      "\x7b\"outcome\":[\"no_offline_provider\",null],\"user_id\":\"b\"\x7d," ++
      "[\"c\",\x7b\"status\":\x7b\"delivered_online\":null\x7d,\"more\":[]\x7d]]\x7d")
    let e : Event := { (default : Event) with sender := "a", selector := .group "g" }
    let brought : Report := ⟨[("b", .deliveredOnline), ("c", .noOfflineProvider)]⟩
    let talk : List (Exchange Answer) :=
      [⟨.members "g", .ok ["b", "a", "c"]⟩, ⟨.deliver ["b", "c"] e, brought⟩]
    decode bytes = .ok r ∧ decode r.encode = decode bytes ∧
      Leads (Http.Work.pushMessage e).run talk (.done (.ok brought.toJson)) ∧
      decode brought.toJson.bytes = .ok brought := by
  intro r bytes e brought talk
  have read : decode bytes = .ok r := Json.toOption_eq_some_iff.1 (by decide +kernel)
  have pushed : Leads (Push.pushMessage e).run talk (.done (.ok brought)) := by
    exact @Leads.cons _ Answer _ (.members "g") _ (.ok ["b", "a", "c"]) _ _
      (@Leads.cons _ Answer _ (.deliver ["b", "c"] e) _ brought [] _ (.nil _))
  have answered : Leads (Http.Work.pushMessage e).run talk (.done (.ok brought.toJson)) :=
    leads_pushMessage_iff.2 ⟨brought, pushed, rfl⟩
  obtain ⟨same, hs, told⟩ := same_at_both_ends.2.2.2 e talk _ answered
  obtain ⟨-, hsame⟩ := pushed.eq_of_prefix hs (List.prefix_refl talk) (List.prefix_refl talk)
  cases hsame
  exact ⟨read, same_at_both_ends.2.1 bytes r read, answered, told⟩

end Report
end Courier
