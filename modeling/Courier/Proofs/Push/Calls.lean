import Courier.Proofs.Dialogue
import Courier.Proofs.Push.OneByOne

/-!
# Calls of deliveries

The deliveries of one event go on beside each other, each asking in its own order, and every
question is answered in time. Main statements: the calls made for a recipient are a talk of its own
delivery, whatever the others do, and a delivery finds the sessions of its recipient as they were at
first.
-/

namespace Courier.Push

open Dialogue DeliveryQuestion

/-- A question of a delivery with its answer, and the recipient for whom it is asked. -/
abbrev Call := String × Exchange DeliveryAnswer

/-- How questions are answered in time: the registry hands on the event, the store tells what it
holds unless it fails, and a vendor may answer anything. -/
inductive Replies (store : RegistrationStore) :
    Registry → Exchange DeliveryAnswer → Registry → Prop where
  | online (r : Registry) (user : String) (e : Event) :
    Replies store r ⟨.online user e, some (r.pushOnline user e).1⟩ (r.pushOnline user e).2
  | found (r : Registry) (user : String) :
    Replies store r ⟨.registrations user, some (.ok (store.ofUser user))⟩ r
  | fault (r : Registry) (user : String) (fault : ServiceError) :
    Replies store r ⟨.registrations user, some (.error fault)⟩ r
  | notify (r : Registry) (vendor : Vendor) (target : Target) (n : Notification)
      (answer : Except ServiceError Unit) :
    Replies store r ⟨.notify vendor target n, some answer⟩ r

/-- What comes of deliveries that go on beside each other, in any order, up to their ends. -/
inductive Ends (store : RegistrationStore) :
    Registry → List (String × Talk) → List Call → List (String × Outcome) → Registry → Prop where
  | ended (r : Registry) (outcomes : List (String × Outcome)) :
    Ends store r (outcomes.map fun x => (x.1, .done x.2)) [] outcomes r
  | call {r r' t : Registry} {before after : List (String × Talk)} {user : String}
      {q : DeliveryQuestion} {next : DeliveryAnswer q → Talk} {answer : DeliveryAnswer q}
      {calls : List Call} {outcomes : List (String × Outcome)} :
    Replies store r ⟨q, answer⟩ r' →
    Ends store r' (before ++ (user, next answer) :: after) calls outcomes t →
    Ends store r (before ++ (user, .ask q next) :: after) ((user, ⟨q, answer⟩) :: calls) outcomes t

/-- The calls made for a user. -/
def callsFor (user : String) (calls : List Call) : List (Exchange DeliveryAnswer) :=
  (calls.filter fun c => c.1 = user).map Prod.snd

variable {store : RegistrationStore} {r t : Registry} {talks : List (String × Talk)}
  {calls : List Call} {outcomes : List (String × Outcome)} {user : String}

@[simp] theorem callsFor_cons_self (x : Exchange DeliveryAnswer) :
    callsFor user ((user, x) :: calls) = x :: callsFor user calls := by
  simp [callsFor]

theorem callsFor_cons_of_ne {other : String} (h : other ≠ user) (x : Exchange DeliveryAnswer) :
    callsFor user ((other, x) :: calls) = callsFor user calls := by
  simp [callsFor, h]

theorem mem_callsFor {x : Exchange DeliveryAnswer} :
    x ∈ callsFor user calls ↔ (user, x) ∈ calls := by
  simp [callsFor]

theorem Ends.exists_replies (h : Ends store r talks calls outcomes t) {c : Call} (hc : c ∈ calls) :
    ∃ q q', Replies store q c.2 q' := by
  induction h with
  | ended r outcomes => cases hc
  | call hr _ ih =>
      rcases List.mem_cons.1 hc with rfl | hc
      · exact ⟨_, _, hr⟩
      · exact ih hc

/-- There is an outcome for each recipient. -/
theorem Ends.map_fst (h : Ends store r talks calls outcomes t) :
    outcomes.map Prod.fst = talks.map Prod.fst := by
  induction h with
  | ended r outcomes => simp [Function.comp_def]
  | call _ _ ih => simpa using ih

/-- The entries of a row in which a user stands once. -/
theorem ne_of_nodup {before after : List (String × Talk)} {d : Talk}
    (hn : ((before ++ (user, d) :: after).map Prod.fst).Nodup) {x : String × Talk}
    (hx : x ∈ before ∨ x ∈ after) : x.1 ≠ user := by
  rw [List.map_append, List.map_cons, List.nodup_append, List.nodup_cons] at hn
  rintro rfl
  cases hx with
  | inl hx => exact hn.2.2 x.1 (List.mem_map_of_mem hx) x.1 List.mem_cons_self rfl
  | inr hx => exact hn.2.1.1 (List.mem_map.2 ⟨x, hx, rfl⟩)

theorem mem_middle_iff {before after : List (String × Talk)} {x y : String × Talk} :
    y ∈ before ++ x :: after ↔ y = x ∨ y ∈ before ∨ y ∈ after := by
  simp only [List.mem_append, List.mem_cons, or_left_comm]

/-- The calls made for a recipient are a talk that finishes its delivery. -/
theorem Ends.exists_leads (h : Ends store r talks calls outcomes t)
    (hn : (talks.map Prod.fst).Nodup) {outcome : Outcome} (ho : (user, outcome) ∈ outcomes) :
    ∃ d, (user, d) ∈ talks ∧ Leads d (callsFor user calls) (.done outcome) := by
  induction h with
  | ended r outcomes =>
      exact ⟨.done outcome, List.mem_map.2 ⟨(user, outcome), ho, rfl⟩, .nil _⟩
  | @call r r' t before after other q next answer calls outcomes _ _ ih =>
      have hn' : ((before ++ (other, next answer) :: after).map Prod.fst).Nodup := by
        simpa using hn
      obtain ⟨d, hd, hl⟩ := ih hn' ho
      by_cases hu : other = user
      · subst hu
        refine ⟨.ask q next, mem_middle_iff.2 (.inl rfl), ?_⟩
        rcases mem_middle_iff.1 hd with hd | hd
        · cases hd
          rw [callsFor_cons_self]
          exact .cons answer hl
        · exact absurd rfl (ne_of_nodup hn' hd)
      · refine ⟨d, mem_middle_iff.2 (.inr ?_), ?_⟩
        · exact (mem_middle_iff.1 hd).resolve_left fun he => hu (congrArg Prod.fst he).symm
        · rwa [callsFor_cons_of_ne hu]

/-! ### What the sessions get -/

/-- Whether a question is none to the sessions. -/
def DeliveryQuestion.IsOffline : DeliveryQuestion → Prop
  | .online .. => False
  | .registrations _ | .notify .. => True

/-- What comes of an event in the inboxes when the deliveries that are still to begin do so: each
finds the sessions of its recipient as they are, and puts the event in the inboxes of those that
take it. -/
structure IsLedger (vendors : List Vendor) (e : Event) (r : Registry)
    (talks : List (String × Talk)) (calls : List Call) (t : Registry) : Prop where
  answered : ∀ user v f answer, (user, ⟨.online v f, answer⟩) ∈ calls →
    (∃ x ∈ talks, x.1 = user ∧ x.2 = deliver vendors x.1 e) ∧ answer = some (r.resultOf user e)
  taken : ∀ x ∈ talks, x.2 = deliver vendors x.1 e → ∀ n ∈ r.takers x.1 e,
    t.inbox? n = (r.inbox? n).map fun box => { box with waiting := box.waiting ++ [e] }
  kept : ∀ n, (∀ x ∈ talks, x.2 = deliver vendors x.1 e → n ∉ r.takers x.1 e) →
    t.inbox? n = r.inbox? n

theorem not_asks_deliver (vendors : List Vendor) (user : String) (e : Event) :
    ¬ (deliver vendors user e).Asks IsOffline :=
  fun h => h.1

theorem asks_deliverOffline (vendors : List Vendor) (user : String) (e : Event) :
    (deliverOffline vendors user e).Asks IsOffline := by
  rw [deliverOffline]
  split
  · trivial
  · refine ⟨trivial, fun answer => ?_⟩
    rcases answer with _ | fault | registrations
    · trivial
    · trivial
    · exact (asks_attempts (fun _ _ _ => trivial) vendors _ registrations).map

/-- After it has begun, a delivery is none to the sessions. -/
theorem asks_of_deliver_eq {vendors : List Vendor} {e : Event} {q : DeliveryQuestion}
    {next : DeliveryAnswer q → Talk} (h : deliver vendors user e = .ask q next)
    (answer : DeliveryAnswer q) : (next answer).Asks IsOffline := by
  cases h
  rcases answer with _ | fault | ⟨sessions⟩ | _
  · trivial
  · trivial
  · trivial
  · dsimp only
    split
    · trivial
    · exact asks_deliverOffline vendors user e

/-- An answer that is none to the sessions leaves them as they are. -/
theorem Replies.eq_of_isOffline {r' : Registry} {q : DeliveryQuestion} {answer : DeliveryAnswer q}
    (h : Replies store r ⟨q, answer⟩ r') (hq : q.IsOffline) : r' = r := by
  cases h with
  | online => exact hq.elim
  | found => rfl
  | fault => rfl
  | notify => rfl

section Ledger

variable {vendors : List Vendor} {e : Event} {before after : List (String × Talk)} {d : Talk}

/-- A delivery that has begun is none of those that are still to begin. -/
theorem mem_of_fresh (hd : d.Asks IsOffline) {x : String × Talk}
    (hx : x ∈ before ++ (user, d) :: after) (hf : x.2 = deliver vendors x.1 e) :
    x ∈ before ∨ x ∈ after := by
  refine (mem_middle_iff.1 hx).resolve_left ?_
  rintro rfl
  have hf : d = deliver vendors user e := hf
  exact not_asks_deliver vendors user e (hf ▸ hd)

/-- The delivery to a user begins. -/
theorem IsLedger.begin (hr : r.IsOwned)
    (hn : ((before ++ (user, d) :: after).map Prod.fst).Nodup) (hd : d.Asks IsOffline)
    (h : IsLedger vendors e (r.pushOnline user e).2 (before ++ (user, d) :: after) calls t) :
    IsLedger vendors e r (before ++ (user, deliver vendors user e) :: after)
      ((user, ⟨.online user e, some (r.resultOf user e)⟩) :: calls) t := by
  have other : ∀ x ∈ before ++ (user, d) :: after, x.2 = deliver vendors x.1 e →
      user ≠ x.1 ∧ x ∈ before ++ (user, deliver vendors user e) :: after := fun x hx hf =>
    have hm := mem_of_fresh hd hx hf
    ⟨(ne_of_nodup hn hm).symm, mem_middle_iff.2 (.inr hm)⟩
  have untouched : ∀ n, n ∉ r.takers user e → (r.pushOnline user e).2.inbox? n = r.inbox? n := by
    intro n hu
    rw [Registry.inbox?_pushOnline]
    simp [show n ∉ (r.offers user e .taken).map Session.number from hu]
  constructor
  · intro v u f answer hc
    rcases List.mem_cons.1 hc with hc | hc
    · cases hc
      exact ⟨⟨_, mem_middle_iff.2 (.inl rfl), rfl, rfl⟩, rfl⟩
    · obtain ⟨⟨x, hx, rfl, hf⟩, ha⟩ := h.answered v u f answer hc
      obtain ⟨hu, hm⟩ := other x hx hf
      exact ⟨⟨x, hm, rfl, hf⟩, ha.trans (congrArg some (Registry.resultOf_pushOnline e e hr hu))⟩
  · intro x hx hf n hm
    by_cases hu : user = x.1
    · subst hu
      rw [h.kept n, Registry.inbox?_pushOnline]
      · simp [show n ∈ (r.offers x.1 e .taken).map Session.number from hm]
      · intro y hy hfy hmy
        have hne := (other y hy hfy).1
        rw [Registry.takers_pushOnline e e hr hne] at hmy
        exact Registry.disjoint_takers e e hr hne n hm hmy
    · have hx' : x ∈ before ++ (user, d) :: after := mem_middle_iff.2
        (.inr ((mem_middle_iff.1 hx).resolve_left fun he => hu (congrArg Prod.fst he).symm))
      rw [h.taken x hx' hf n (by rwa [Registry.takers_pushOnline e e hr hu]), untouched]
      exact fun hmu => Registry.disjoint_takers e e hr hu n hmu hm
  · intro n hm
    have hmu : n ∉ r.takers user e := hm (user, deliver vendors user e)
      (mem_middle_iff.2 (.inl rfl)) rfl
    rw [h.kept n, untouched n hmu]
    intro x hx hf
    obtain ⟨hu, hx'⟩ := other x hx hf
    rw [Registry.takers_pushOnline e e hr hu]
    exact hm x hx' hf

/-- A delivery that has begun goes on. -/
theorem IsLedger.goOn {d' : Talk} {q : DeliveryQuestion} (answer : DeliveryAnswer q)
    (hq : q.IsOffline) (hd : d.Asks IsOffline) (hd' : d'.Asks IsOffline)
    (h : IsLedger vendors e r (before ++ (user, d) :: after) calls t) :
    IsLedger vendors e r (before ++ (user, d') :: after) ((user, ⟨q, answer⟩) :: calls) t := by
  have same : ∀ {d d' : Talk} {x : String × Talk}, d.Asks IsOffline →
      x ∈ before ++ (user, d) :: after → x.2 = deliver vendors x.1 e →
      x ∈ before ++ (user, d') :: after :=
    fun hd hx hf => mem_middle_iff.2 (.inr (mem_of_fresh hd hx hf))
  constructor
  · intro v u f a hc
    rcases List.mem_cons.1 hc with hc | hc
    · cases hc
      exact hq.elim
    · obtain ⟨⟨x, hx, hu, hf⟩, ha⟩ := h.answered v u f a hc
      exact ⟨⟨x, same hd hx hf, hu, hf⟩, ha⟩
  · exact fun x hx hf => h.taken x (same hd' hx hf) hf
  · exact fun n hm => h.kept n fun x hx hf => hm x (same hd hx hf) hf

end Ledger

theorem Ends.isLedger (h : Ends store r talks calls outcomes t) {vendors : List Vendor} {e : Event}
    (hr : r.IsOwned) (hn : (talks.map Prod.fst).Nodup)
    (ht : ∀ x ∈ talks, x.2 = deliver vendors x.1 e ∨ x.2.Asks IsOffline) :
    IsLedger vendors e r talks calls t := by
  induction h with
  | ended r outcomes =>
      refine ⟨?_, fun x hx hd => ?_, fun _ _ => rfl⟩
      · intro _ _ _ _ hc
        cases hc
      · obtain ⟨y, -, rfl⟩ := List.mem_map.1 hx
        cases hd
  | @call r r' t before after user q next answer calls outcomes hreply _ ih =>
      have hn' : ((before ++ (user, next answer) :: after).map Prod.fst).Nodup := by
        simpa using hn
      have hrest : (next answer).Asks IsOffline → ∀ x ∈ before ++ (user, next answer) :: after,
          x.2 = deliver vendors x.1 e ∨ x.2.Asks IsOffline := by
        intro ha x hx
        rcases mem_middle_iff.1 hx with rfl | hx
        · exact .inr ha
        · exact ht x (mem_middle_iff.2 (.inr hx))
      rcases ht _ (mem_middle_iff.2 (.inl rfl)) with hd | ⟨hq, hd⟩
      · have hd : .ask q next = deliver vendors user e := hd
        have ha : (next answer).Asks IsOffline := asks_of_deliver_eq hd.symm answer
        cases hd
        cases hreply
        exact (ih (hr.pushOnline user e) hn' (hrest ha)).begin hr hn' ha
      · obtain rfl := hreply.eq_of_isOffline hq
        exact (ih hr hn' (hrest (hd answer))).goOn answer hq (hd answer) ⟨hq, hd⟩

end Courier.Push
