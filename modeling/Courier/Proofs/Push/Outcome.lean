import Courier.Proofs.Push.Calls

/-!
# What a delivery concludes

The outcome of a delivery to another user than the sender is what its answers tell. Main statements:
it is online exactly if a session took the event, and offline exactly if a vendor showed the
notification; only where no session is open, the registrations of the user are gone through, each
once.
-/

namespace Courier

namespace Registry

variable {r t : Registry} {user : String} {e : Event}

/-- Whether a session has room or not, its receiver still listens. -/
def IsOpen (r : Registry) (s : Session) : Prop :=
  ∃ waiting, r.inbox? s.number = some ⟨waiting, true⟩

/-- Whether an open inbox has an event once more, last, in a later registry. -/
def Receives (r t : Registry) (e : Event) (number : Nat) : Prop :=
  ∃ waiting, r.inbox? number = some ⟨waiting, true⟩ ∧
    t.inbox? number = some ⟨waiting ++ [e], true⟩

theorem mem_takers_iff {number : Nat} :
    number ∈ r.takers user e ↔
      ∃ s ∈ r.sessions user, r.offer user e s = .taken ∧ s.number = number := by
  simp [takers, offers, and_assoc]

/-- To an open session of another user than its sender, an event comes or has no room. -/
theorem offer_of_isOpen (h : user ≠ e.sender) {s : Session} (ho : r.IsOpen s) :
    r.offer user e s = .taken ∨ r.offer user e s = .full := by
  obtain ⟨waiting, hw⟩ := ho
  rw [offer, passedOver, if_neg h, if_neg (by simp), hw]
  dsimp only
  split
  · exact .inl rfl
  · exact .inr rfl

theorem isOpen_of_taken {s : Session} (h : r.offer user e s = .taken) : r.IsOpen s := by
  rw [offer] at h
  split at h
  · cases h
  · split at h
    · rename_i waiting hb
      exact ⟨waiting, hb⟩
    · cases h

theorem exists_delivered_iff :
    (∃ n, r.resultOf user e = .ok (.delivered n)) ↔ r.takers user e ≠ [] := by
  rw [resultOf, takers, ← List.length_pos_iff, List.length_map]
  by_cases h : 0 < (r.offers user e .taken).length
  · simp [h]
  · simp only [h, if_false, iff_false]
    split <;> simp

/-- Where a session is open, an event of another sender is not said to have found none. -/
theorem resultOf_ne_noLiveSession (h : user ≠ e.sender) {s : Session} (hs : s ∈ r.sessions user)
    (ho : r.IsOpen s) : r.resultOf user e ≠ .ok .noLiveSession := by
  have mem : ∀ {o : Offer}, r.offer user e s = o → 0 < (r.offers user e o).length := fun ho =>
    List.length_pos_of_mem (List.mem_filter.2 ⟨hs, decide_eq_true ho⟩)
  rw [resultOf]
  rcases offer_of_isOpen h ho with ho | ho
  · simp [mem ho]
  · rw [if_pos (mem ho)]
    split <;> simp

end Registry

namespace Push

open Dialogue DeliveryQuestion

/-- The target of a question to a vendor. -/
def DeliveryQuestion.target? : DeliveryQuestion → Option Target
  | .notify _ target _ => some target
  | .online .. | .registrations _ => none

/-- The targets of the notifications in a talk, in order. -/
def targets (talk : List (Exchange DeliveryAnswer)) : List Target :=
  talk.filterMap fun x => x.1.target?

/-- Whether a notification of a talk went through. -/
def IsShown (talk : List (Exchange DeliveryAnswer)) : Prop :=
  ∃ vendor target n, ⟨.notify vendor target n, some (.ok ())⟩ ∈ talk

variable {vendors : List Vendor} {user : String} {e : Event} {outcome : Outcome}
  {talk : List (Exchange DeliveryAnswer)} {store : RegistrationStore}

theorem IsShown.targets_ne_nil (h : IsShown talk) : targets talk ≠ [] := by
  obtain ⟨vendor, target, n, hm⟩ := h
  exact List.ne_nil_of_mem (List.mem_filterMap.2 ⟨_, hm, rfl⟩)

theorem isShown_cons {x : Exchange DeliveryAnswer} :
    IsShown (x :: talk) ↔
      (∃ vendor target n, x = ⟨.notify vendor target n, some (.ok ())⟩) ∨ IsShown talk := by
  simp only [IsShown, List.mem_cons, exists_or, eq_comm]

theorem not_isShown_nil : ¬ IsShown [] := by
  rintro ⟨vendor, target, n, hm⟩
  cases hm

/-- What is asked of no vendor shows nothing. -/
theorem isShown_cons_of_target?_eq_none {x : Exchange DeliveryAnswer} (h : x.1.target? = none) :
    IsShown (x :: talk) ↔ IsShown talk := by
  rw [isShown_cons, or_iff_right]
  rintro ⟨vendor, target, n, rfl⟩
  cases h

theorem isOk_attempted_iff {vendor : Vendor} {target : Target} {n : Notification}
    {answer : DeliveryAnswer (.notify vendor target n)} :
    (attempted vendor answer).isOk = true ↔
      ∃ v u m, (⟨.notify vendor target n, answer⟩ : Exchange DeliveryAnswer) =
        ⟨.notify v u m, some (.ok ())⟩ := by
  constructor
  · intro h
    rcases answer with _ | fault | ⟨⟩
    · cases h
    · cases h
    · exact ⟨vendor, target, n, rfl⟩
  · rintro ⟨v, u, m, h⟩
    cases h
    rfl

/-- Of the registrations, each with a channel is notified once, in their order. -/
theorem leads_attempts {n : Notification} {rs : List Registration}
    {results : List (Except String Unit)}
    (h : Leads (attempts vendors n rs) talk (.done results)) :
    (targets talk).Sublist (rs.map .ofRegistration) ∧
      (results.any (·.isOk) = true ↔ IsShown talk) := by
  induction rs generalizing talk results with
  | nil =>
      obtain ⟨rfl, rfl⟩ := leads_done_done_iff.1 h
      simp [targets, IsShown]
  | cons r rs ih =>
      cases hc : channel vendors r.platform with
      | error fault =>
          simp only [attempts, hc] at h
          exact ⟨(ih h).1.cons _, (ih h).2⟩
      | ok vendor =>
          simp only [attempts, hc] at h
          obtain ⟨answer, tail, rfl, hn⟩ := leads_ask_done_iff.1 h
          obtain ⟨rest, hrest, rfl⟩ := leads_bind_pure_iff.1 hn
          refine ⟨(ih hrest).1.cons_cons _, ?_⟩
          rw [isShown_cons, ← (ih hrest).2, List.any_cons, Bool.or_eq_true, isOk_attempted_iff]

/-- What a conclusion says of the results. -/
theorem conclude_eq_deliveredOffline_iff {results : List (Except String Unit)} :
    conclude results = .deliveredOffline ↔ results.any (·.isOk) = true := by
  rw [conclude]
  split
  · rename_i h
    simp [h]
  · rename_i h
    split <;> simp [h]

theorem conclude_ne_deliveredOnline (results : List (Except String Unit)) :
    conclude results ≠ .deliveredOnline := by
  rw [conclude]
  split
  · simp
  · split <;> simp

/-- Whether all answers of a talk come in time. -/
def IsTimely (store : RegistrationStore) (talk : List (Exchange DeliveryAnswer)) : Prop :=
  ∀ x ∈ talk, ∃ r t, Replies store r x t

theorem IsTimely.of_cons {x : Exchange DeliveryAnswer} (h : IsTimely store (x :: talk)) :
    IsTimely store talk :=
  fun y hy => h y (List.mem_cons_of_mem x hy)

theorem leads_deliverOffline (h : Leads (deliverOffline vendors user e) talk (.done outcome))
    (ht : IsTimely store talk) :
    outcome ≠ .deliveredOnline ∧ (outcome = .deliveredOffline ↔ IsShown talk) ∧
      (targets talk).Sublist ((store.ofUser user).map .ofRegistration) := by
  rw [deliverOffline] at h
  split at h
  · obtain ⟨rfl, rfl⟩ := leads_done_done_iff.1 h
    simp [targets, not_isShown_nil]
  · obtain ⟨answer, tail, rfl, hn⟩ := leads_ask_done_iff.1 h
    rw [isShown_cons_of_target?_eq_none rfl]
    obtain ⟨r, t, hr⟩ := ht _ List.mem_cons_self
    cases hr with
    | found =>
        obtain ⟨results, hresults, rfl⟩ := leads_bind_pure_iff.1 hn
        obtain ⟨hs, hi⟩ := leads_attempts hresults
        exact ⟨conclude_ne_deliveredOnline results, conclude_eq_deliveredOffline_iff.trans hi, hs⟩
    | fault =>
        obtain ⟨rfl, rfl⟩ := leads_done_done_iff.1 hn
        simp [targets, not_isShown_nil, DeliveryQuestion.target?]

/-- What a delivery to another user than the sender concludes from its answers. -/
theorem leads_deliver (h : Leads (deliver vendors user e) talk (.done outcome))
    (hu : user ≠ e.sender) (ht : IsTimely store talk) :
    ∃ result tail, talk = ⟨.online user e, some result⟩ :: tail ∧
      (outcome = .deliveredOnline ↔ ∃ n, result = .ok (.delivered n)) ∧
      (outcome = .deliveredOffline ↔ IsShown talk) ∧
      (targets talk).Sublist ((store.ofUser user).map .ofRegistration) ∧
      (result ≠ .ok .noLiveSession → targets talk = []) := by
  obtain ⟨answer, tail, rfl, hn⟩ := leads_ask_done_iff.1 h
  rw [isShown_cons_of_target?_eq_none rfl]
  obtain ⟨r, t, hr⟩ := ht _ List.mem_cons_self
  cases hr
  refine ⟨_, tail, rfl, ?_⟩
  generalize (r.pushOnline user e).1 = result at hn
  rcases result with fault | ⟨n⟩ | _
  · obtain ⟨rfl, rfl⟩ := leads_done_done_iff.1 hn
    simp [targets, not_isShown_nil, DeliveryQuestion.target?]
  · obtain ⟨rfl, rfl⟩ := leads_done_done_iff.1 hn
    simp [targets, not_isShown_nil, DeliveryQuestion.target?]
  · dsimp only at hn
    rw [if_neg hu] at hn
    obtain ⟨ho, hi, hs⟩ := leads_deliverOffline hn ht.of_cons
    exact ⟨by simpa using ho, hi, hs, fun hne => absurd rfl hne⟩

end Push
end Courier
