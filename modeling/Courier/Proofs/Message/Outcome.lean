import Courier.Message.Report
import Courier.Proofs.Json.Fields

/-!
# Outcomes as JSON

The status and the reason of an outcome are the first two parts among the members of an object; all
other members are passed over, and neither part may come twice. Main statement: an outcome is read
from an object whose parts are its own, in either order, and from an array of both, where the status
is a name; a reason that there is none of may be null or, in an object, left out. An outcome is read
from nothing else, and what it is written as is among that.
-/

namespace Courier

namespace Outcome

variable {o : Outcome} {s : Status} {v w : Json} {members rest : List (Json.Key × Json)}
  {ending : Json.Ending} {part : Part}

/-! ### Status and reason -/

theorem Status.ofName?_eq_some_iff {name : String} :
    Status.ofName? name = some s ↔ name = s.name := by
  constructor
  · intro h
    unfold Status.ofName? at h
    split at h <;> cases h <;> rfl
  · rintro rfl
    exact Status.ofName?_name s

theorem Status.read_eq_ok_iff : Status.read v = .ok s ↔ Json.Names s.name v := by
  rw [Status.read, Json.readVariant_eq_ok_iff]
  simp only [Status.ofName?_eq_some_iff, exists_eq_left]

theorem Status.readName_eq_ok_iff : Status.readName v = .ok s ↔ v = .text s.name := by
  rw [Status.readName, Json.bind_eq_ok_iff]
  constructor
  · rintro ⟨name, hn, h⟩
    split at h
    · rename_i t ht
      cases h
      rw [Json.readText_eq_ok_iff.1 hn, ofName?_eq_some_iff.1 ht]
    · cases h
  · rintro rfl
    refine ⟨s.name, rfl, ?_⟩
    simp [pure, Except.pure]

/-- A reason is a text for a failure, and null for all else. -/
theorem readReason_eq_ok_iff :
    readReason s v = .ok o ↔ o.status = s ∧ v = Json.optional o.reason? := by
  cases s <;> cases o <;>
    simp [readReason, Json.map_eq_ok_iff, Json.readNull_eq_ok_iff, Json.readText_eq_ok_iff, status,
      reason?, Json.optional]

theorem withoutReason_eq_ok_iff :
    withoutReason s = .ok o ↔ o.status = s ∧ o.reason? = none := by
  cases s <;> cases o <;> simp [withoutReason, status, reason?]

/-- A reason may be put aside until its status is known. -/
theorem isReadable_reason : (Json.optional o.reason?).isReadable reasonDepth = true := by
  cases o <;> rfl

/-! ### Members -/

/-- The key of a field. -/
def Part.key (part : Part) : Json.Key :=
  .quoted (.text part.name)

/-- Whether a member is the status or the reason. -/
def isPart (m : Json.Key × Json) : Bool :=
  m.1 = Part.status.key ∨ m.1 = Part.reason.key

/-- Whether each member has a text for its key and, unless it is the status or the reason, may be
passed over. -/
def IsPassable (members : List (Json.Key × Json)) : Prop :=
  ∀ m ∈ members, (∃ name, m.1 = .quoted (.text name)) ∧ (isPart m = false → m.2.isSkippable = true)

theorem isPart_key (part : Part) (v : Json) : isPart (part.key, v) = true := by
  cases part <;> simp [isPart]

theorem isPart_of_ne {name : String} (hs : name ≠ "status") (hr : name ≠ "reason") (v : Json) :
    isPart (.quoted (.text name), v) = false := by
  simp [isPart, Part.key, Part.name, hs, hr]

theorem isPassable_cons {m : Json.Key × Json} :
    IsPassable (m :: rest) ↔
      ((∃ name, m.1 = .quoted (.text name)) ∧ (isPart m = false → m.2.isSkippable = true)) ∧
        IsPassable rest :=
  List.forall_mem_cons

theorem isPassable_cons_key (part : Part) {v : Json} :
    IsPassable ((part.key, v) :: rest) ↔ IsPassable rest := by
  rw [isPassable_cons, isPart_key]
  simp [Part.key]

/-- What comes next among members is the first of the parts, if there is one. -/
theorem nextPart?_of_isPassable (h : IsPassable members) (he : ending ≠ .cut) :
    (members.filter isPart = [] ∧ nextPart? ending members = .ok none) ∨
      ∃ part v rest, IsPassable rest ∧ members.filter isPart = (part.key, v) :: rest.filter isPart ∧
        nextPart? ending members = .ok (some (part, v, rest)) := by
  fun_induction nextPart? ending members with
  | case1 => contradiction
  | case2 => exact .inl ⟨rfl, rfl⟩
  | case3 v rest =>
      exact .inr ⟨.status, v, rest, (isPassable_cons.1 h).2, List.filter_cons_of_pos rfl, rfl⟩
  | case4 v rest =>
      exact .inr ⟨.reason, v, rest, (isPassable_cons.1 h).2, List.filter_cons_of_pos rfl, rfl⟩
  | case5 name v rest hs hr ih =>
      obtain ⟨⟨-, hm⟩, hrest⟩ := isPassable_cons.1 h
      have hp := isPart_of_ne hs hr v
      rw [Json.skip_eq_ok_iff.2 (hm hp), List.filter_cons_of_neg (by simp [hp])]
      exact ih hrest
  | case6 m rest hn =>
      obtain ⟨key, v⟩ := m
      obtain ⟨⟨⟨name, rfl⟩, -⟩, -⟩ := isPassable_cons.1 h
      exact (hn name v rfl).elim

theorem Part.key_injective {p q : Part} (h : p.key = q.key) : p = q := by
  cases p <;> cases q <;> first | rfl | simp [Part.key, Part.name] at h

/-- The first of the parts among members comes next. -/
theorem exists_nextPart? (part : Part) (h : IsPassable members) (he : ending ≠ .cut) {tail}
    (hf : members.filter isPart = (part.key, v) :: tail) :
    ∃ rest, IsPassable rest ∧ rest.filter isPart = tail ∧
      nextPart? ending members = .ok (some (part, v, rest)) := by
  rcases nextPart?_of_isPassable h he with ⟨hn, -⟩ | ⟨part', v', rest, hp, hs, hn⟩
  · rw [hf] at hn
    cases hn
  · rw [hf, List.cons.injEq, Prod.mk.injEq] at hs
    obtain ⟨⟨hk, rfl⟩, rfl⟩ := hs
    obtain rfl := Part.key_injective hk
    exact ⟨rest, hp, rfl, hn⟩

/-- Where a part is found, those before it were passed over. -/
theorem filter_of_nextPart?_eq_some (h : nextPart? ending members = .ok (some (part, v, rest))) :
    members.filter isPart = (part.key, v) :: rest.filter isPart ∧
      (IsPassable rest → IsPassable members) := by
  fun_induction nextPart? ending members with
  | case1 => cases h
  | case2 => cases h
  | case3 w rest =>
      cases h
      exact ⟨List.filter_cons_of_pos rfl, (isPassable_cons_key .status).2⟩
  | case4 w rest =>
      cases h
      exact ⟨List.filter_cons_of_pos rfl, (isPassable_cons_key .reason).2⟩
  | case5 name w rest hs hr ih =>
      obtain ⟨⟨⟩, hw, h⟩ := Json.bind_eq_ok_iff.1 h
      obtain ⟨hf, hp⟩ := ih h
      have hn := isPart_of_ne hs hr w
      rw [List.filter_cons_of_neg (by simp [hn]), hf]
      exact ⟨rfl, fun hrest => isPassable_cons.2
        ⟨⟨⟨name, rfl⟩, fun _ => Json.skip_eq_ok_iff.1 hw⟩, hp hrest⟩⟩
  | case6 => cases h

/-- No part is found where there is none and all members may be passed over. -/
theorem nextPart?_eq_none_iff :
    nextPart? ending members = .ok none ↔
      ending ≠ .cut ∧ members.filter isPart = [] ∧ IsPassable members := by
  constructor
  · intro h
    fun_induction nextPart? ending members with
    | case1 => cases h
    | case2 he => exact ⟨he, rfl, nofun⟩
    | case3 => cases h
    | case4 => cases h
    | case5 name w rest hs hr ih =>
        obtain ⟨⟨⟩, hw, h⟩ := Json.bind_eq_ok_iff.1 h
        obtain ⟨he, hf, hp⟩ := ih h
        have hn := isPart_of_ne hs hr w
        rw [List.filter_cons_of_neg (by simp [hn]), hf]
        exact ⟨he, rfl, isPassable_cons.2 ⟨⟨⟨name, rfl⟩, fun _ => Json.skip_eq_ok_iff.1 hw⟩, hp⟩⟩
    | case6 => cases h
  · rintro ⟨he, hf, hp⟩
    rcases nextPart?_of_isPassable hp he with ⟨-, hn⟩ | ⟨part, v, rest, -, hs, -⟩
    · exact hn
    · rw [hf] at hs
      cases hs

theorem noMore_eq_ok_iff :
    noMore ending members = .ok () ↔
      ending ≠ .cut ∧ members.filter isPart = [] ∧ IsPassable members := by
  rw [← nextPart?_eq_none_iff, noMore, Json.bind_eq_ok_iff]
  constructor
  · rintro ⟨- | next, hn, h⟩
    · exact hn
    · cases h
  · exact fun h => ⟨none, h, rfl⟩

/-- Where both parts were found, the reason belongs to the status and neither comes once more. -/
theorem readLast_eq_ok_iff :
    (do
      let o ← readReason s v
      noMore ending rest
      return o) = .ok o ↔
      (o.status = s ∧ v = Json.optional o.reason?) ∧
        ending ≠ .cut ∧ rest.filter isPart = [] ∧ IsPassable rest := by
  rw [← readReason_eq_ok_iff, ← noMore_eq_ok_iff, Json.bind_eq_ok_iff]
  constructor
  · rintro ⟨p, hr, h⟩
    obtain ⟨⟨⟩, hm, h⟩ := Json.bind_eq_ok_iff.1 h
    cases h
    exact ⟨hr, hm⟩
  · rintro ⟨hr, hm⟩
    exact ⟨o, hr, Json.bind_eq_ok_iff.2 ⟨(), hm, rfl⟩⟩

/-! ### What is written for an outcome -/

/-- Whether members are the status and the reason of an outcome, in either order. Where there is no
reason it may be null or left out. -/
inductive AreParts (o : Outcome) (status : Json) : List (Json.Key × Json) → Prop where
  | alone : o.reason? = none → AreParts o status [(Part.status.key, status)]
  | statusFirst :
    AreParts o status [(Part.status.key, status), (Part.reason.key, Json.optional o.reason?)]
  | reasonFirst :
    AreParts o status [(Part.reason.key, Json.optional o.reason?), (Part.status.key, status)]

/-- Whether a value is written for an outcome: an object with its status and its reason among other
members, or an array of the name of its status and its reason. -/
inductive IsWritten (o : Outcome) : Json → Prop where
  | members {members : List (Json.Key × Json)} {ending : Json.Ending} {status : Json} :
    ending ≠ .cut → IsPassable members → Json.Names o.status.name status →
    AreParts o status (members.filter isPart) → IsWritten o (.obj members ending)
  | items {ending : Json.Ending} : ending ≠ .cut →
    IsWritten o (.arr [.text o.status.name, Json.optional o.reason?] ending)

theorem isWritten_of_readMembers (h : readMembers members ending = .ok o) :
    o.IsWritten (.obj members ending) := by
  -- the cases are what comes first among the parts, nothing, the status or the reason, and within
  -- each what comes second
  obtain ⟨next, hn, h⟩ := Json.bind_eq_ok_iff.1 h
  rcases next with - | ⟨_ | _, v, rest⟩
  · cases h
  · obtain ⟨hf, hp⟩ := filter_of_nextPart?_eq_some hn
    obtain ⟨s, hs, h⟩ := Json.bind_eq_ok_iff.1 h
    obtain ⟨next, hn, h⟩ := Json.bind_eq_ok_iff.1 h
    rcases next with - | ⟨_ | _, w, rest'⟩
    · obtain ⟨rfl, hr⟩ := withoutReason_eq_ok_iff.1 h
      obtain ⟨he, hf', hp'⟩ := nextPart?_eq_none_iff.1 hn
      refine .members he (hp hp') (Status.read_eq_ok_iff.1 hs) ?_
      rw [hf, hf']
      exact .alone hr
    · cases h
    · obtain ⟨hf', hp'⟩ := filter_of_nextPart?_eq_some hn
      obtain ⟨⟨rfl, rfl⟩, he, hf'', hp''⟩ := readLast_eq_ok_iff.1 h
      refine .members he (hp (hp' hp'')) (Status.read_eq_ok_iff.1 hs) ?_
      rw [hf, hf', hf'']
      exact .statusFirst
  · obtain ⟨hf, hp⟩ := filter_of_nextPart?_eq_some hn
    dsimp only at h
    split at h
    · cases h
    obtain ⟨next, hn, h⟩ := Json.bind_eq_ok_iff.1 h
    rcases next with - | ⟨_ | _, w, rest'⟩
    · cases h
    · obtain ⟨hf', hp'⟩ := filter_of_nextPart?_eq_some hn
      obtain ⟨s, hs, h⟩ := Json.bind_eq_ok_iff.1 h
      obtain ⟨⟨rfl, rfl⟩, he, hf'', hp''⟩ := readLast_eq_ok_iff.1 h
      refine .members he (hp (hp' hp'')) (Status.read_eq_ok_iff.1 hs) ?_
      rw [hf, hf', hf'']
      exact .reasonFirst
    · cases h

theorem readMembers_of_areParts (he : ending ≠ .cut) (hp : IsPassable members)
    (hs : Json.Names o.status.name v) (hf : AreParts o v (members.filter isPart)) :
    readMembers members ending = .ok o := by
  have status := Status.read_eq_ok_iff.2 hs
  have reason : readReason o.status (Json.optional o.reason?) = .ok o :=
    readReason_eq_ok_iff.2 ⟨rfl, rfl⟩
  generalize hl : members.filter isPart = l at hf
  cases hf with
  | alone hr =>
      obtain ⟨rest, hp, hf, hn⟩ := exists_nextPart? .status hp he hl
      have bare : withoutReason o.status = .ok o := withoutReason_eq_ok_iff.2 ⟨rfl, hr⟩
      have none : nextPart? ending rest = .ok none := nextPart?_eq_none_iff.2 ⟨he, hf, hp⟩
      simp only [readMembers, hn, status, none, bare, bind, Except.bind]
  | statusFirst =>
      obtain ⟨rest, hp, hf, hn⟩ := exists_nextPart? .status hp he hl
      obtain ⟨rest', hp', hf', hn'⟩ := exists_nextPart? .reason hp he hf
      have none : noMore ending rest' = .ok () := noMore_eq_ok_iff.2 ⟨he, hf', hp'⟩
      simp only [readMembers, hn, status, hn', reason, none, bind, Except.bind, pure, Except.pure]
  | reasonFirst =>
      obtain ⟨rest, hp, hf, hn⟩ := exists_nextPart? .reason hp he hl
      obtain ⟨rest', hp', hf', hn'⟩ := exists_nextPart? .status hp he hf
      have none : noMore ending rest' = .ok () := noMore_eq_ok_iff.2 ⟨he, hf', hp'⟩
      simp [readMembers, hn, isReadable_reason, status, hn', reason, none, bind, Except.bind, pure,
        Except.pure]

/-- An outcome is read from what is written for it, and from nothing else. -/
theorem read_eq_ok_iff : read v = .ok o ↔ o.IsWritten v := by
  constructor
  · intro h
    unfold read at h
    split at h
    · exact isWritten_of_readMembers h
    · cases h
    · obtain ⟨_, -, h⟩ := Json.bind_eq_ok_iff.1 h
      cases h
    · rename_i v w rest ending
      obtain ⟨s, hs, h⟩ := Json.bind_eq_ok_iff.1 h
      obtain ⟨p, hr, h⟩ := Json.bind_eq_ok_iff.1 h
      split at h
      · rename_i ends
        cases h
        obtain ⟨rfl, rfl⟩ := readReason_eq_ok_iff.1 hr
        rw [List.isEmpty_iff.1 ends.1, Status.readName_eq_ok_iff.1 hs]
        exact .items ends.2
      · cases h
    · cases h
  · rintro (⟨he, hp, hs, hf⟩ | he)
    · exact readMembers_of_areParts he hp hs hf
    · have status : Status.readName (.text o.status.name) = .ok o.status :=
        Status.readName_eq_ok_iff.2 rfl
      have reason : readReason o.status (Json.optional o.reason?) = .ok o :=
        readReason_eq_ok_iff.2 ⟨rfl, rfl⟩
      simp [read, status, reason, he, bind, Except.bind, pure, Except.pure]

theorem isPassable_object {members : List (String × Json)}
    (h : ∀ m ∈ members, m.2.isSkippable = true) :
    IsPassable (members.map fun m => (.quoted (.text m.1), m.2)) := by
  intro m hm
  obtain ⟨n, hn, rfl⟩ := List.mem_map.1 hm
  exact ⟨⟨n.1, rfl⟩, fun _ => h n hn⟩

theorem isWritten_toJson (o : Outcome) : o.IsWritten o.toJson := by
  have names : Json.Names o.status.name (.text o.status.name) := .inl rfl
  have passable : IsPassable ((("status", Json.text o.status.name) ::
      (o.reason?.map fun reason => ("reason", Json.text reason)).toList).map
        fun m => (.quoted (.text m.1), m.2)) := by
    apply isPassable_object
    cases o <;> simp [reason?, Json.isSkippable, Json.Quoted.isSkippable]
  refine .members (by decide) passable names ?_
  cases o with
  | failed reason => exact .statusFirst
  | _ => exact .alone rfl

theorem whole_toJson (o : Outcome) : Json.Whole o.toJson := by
  apply Json.Whole.object
  cases o <;> simp [reason?, Json.Whole.text]

end Outcome

end Courier
