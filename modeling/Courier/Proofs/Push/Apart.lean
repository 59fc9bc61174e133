import Courier.Proofs.Push.Circumstances
import Courier.Proofs.Push.Outcome
import Courier.Proofs.Registration.Filed
import Courier.Proofs.Session.InTurn
import Mathlib.Data.List.Nodup

/-!
# Each recipient by itself

The deliveries of a dispatch share the sessions, the registrations and the vendors, and yet none
notices the others: what it asks is answered as the sessions of its recipient stand at first. Main
statement: in any two circumstances that agree on a user, and in both of which an event goes to the
user, the user has the same outcome, gets the same in its inboxes and has the same asked of the
vendors, whoever else gets the event, whatever becomes of it there and in whichever order the
deliveries go on.
-/

namespace Courier

/-- Answers that agree on all that is asked lead to the same. -/
theorem Dialogue.result_congr {Q : Type} {A : Q → Type} {α : Type} {d : Dialogue A α}
    {f g : (q : Q) → A q} (h : ∀ q ∈ d.asked f, g q = f q) :
    d.result g = d.result f ∧ d.asked g = d.asked f := by
  induction d with
  | done a => exact ⟨rfl, rfl⟩
  | ask q next ih =>
      have hq : g q = f q := h q List.mem_cons_self
      obtain ⟨hr, ha⟩ := ih (f q) fun p hp => h p (List.mem_cons_of_mem q hp)
      simp only [result, asked, hq]
      exact ⟨hr, congrArg (q :: ·) ha⟩

/-! ### How the sessions of a user stand -/

namespace Registry

/-- How many messages an inbox holds, and the platforms and inboxes of a user's sessions. -/
def standing (r : Registry) (user : String) : Nat × List (Int32 × Option Inbox) :=
  (r.capacity, (r.sessions user).map fun s => (s.platform, r.inbox? s.number))

/-- What becomes of a message that passes over a platform, at a session on a platform with an
inbox. -/
def fare (capacity : Nat) (skipped : Option Int32) : Int32 × Option Inbox → Offer
  | (platform, box) =>
    if skipped = some platform then .skipped
    else
      match box with
      | some ⟨waiting, true⟩ => if waiting.length < capacity then .taken else .full
      | _ => .gone

/-- Whether an inbox belongs to a session of another user. -/
def IsOthers (r : Registry) (user : String) (number : Nat) : Prop :=
  ∃ other, other ≠ user ∧ ∃ s ∈ r.sessions other, s.number = number

/-- Whether a later registry has the sessions of a user and their inboxes as they were. -/
structure Spares (user : String) (r t : Registry) : Prop where
  capacity : t.capacity = r.capacity
  sessions : t.sessions user = r.sessions user
  fewer : ∀ other, t.sessions other ⊆ r.sessions other
  inbox : ∀ n, ¬ r.IsOthers user n → t.inbox? n = r.inbox? n

variable {r t q : Registry} {user other : String} {e : Event} {n : Nat}

theorem offer_eq_fare (s : Session) :
    r.offer user e s = fare r.capacity (passedOver user e) (s.platform, r.inbox? s.number) :=
  rfl

theorem length_offers (o : Offer) :
    (r.offers user e o).length = ((r.standing user).2.filter fun x =>
      fare (r.standing user).1 (passedOver user e) x = o).length := by
  rw [standing, List.filter_map, List.length_map]
  rfl

/-- What is said of a message depends on how the sessions stand. -/
theorem resultOf_eq_of_standing (h : q.standing user = r.standing user) :
    q.resultOf user e = r.resultOf user e := by
  simp only [resultOf, length_offers, h]

theorem mem_takers_of_isDistinct (h : r.IsDistinct) {s : Session} (hs : s ∈ r.sessions user) :
    s.number ∈ r.takers user e ↔ r.offer user e s = .taken := by
  rw [mem_takers_iff]
  constructor
  · rintro ⟨x, hx, ho, hn⟩
    rwa [← List.inj_on_of_nodup_map (h user) hx hs hn]
  · exact fun ho => ⟨s, hs, ho, rfl⟩

/-- What the inboxes of a user hold after a message depends on how the sessions stand. -/
theorem inboxes_pushOnline (h : r.IsDistinct) :
    (r.sessions user).map (fun s => (r.pushOnline user e).2.inbox? s.number) =
      (r.standing user).2.map fun x => x.2.map fun box =>
        if fare (r.standing user).1 (passedOver user e) x = .taken then
          { box with waiting := box.waiting ++ [e] }
        else box := by
  rw [standing, List.map_map]
  refine List.map_congr_left fun s hs => ?_
  rw [inbox?_pushOnline, ← takers]
  simp only [mem_takers_of_isDistinct h hs, offer_eq_fare, Function.comp_apply]

theorem sessions_pushOnline_subset (r : Registry) (user other : String) (e : Event) :
    (r.pushOnline user e).2.sessions other ⊆ r.sessions other := by
  have h : (r.pushOnline user e).2.sessions other = (r.deliver user e).sessions other :=
    sessions_tidy _ user other
  rw [h]
  exact (sessions_deliver_sublist r user other e).subset

theorem IsOwned.not_isOthers (h : r.IsOwned) {s : Session} (hs : s ∈ r.sessions user) :
    ¬ r.IsOthers user s.number := by
  rintro ⟨other, ho, x, hx, hn⟩
  exact ho (h.owner other user x hx s hs hn)

namespace Spares

theorem refl (user : String) (r : Registry) : Spares user r r :=
  ⟨rfl, rfl, fun _ => List.Subset.refl _, fun _ _ => rfl⟩

theorem isOthers (h : Spares user r t) (hn : ¬ r.IsOthers user n) : ¬ t.IsOthers user n := by
  rintro ⟨other, ho, s, hs, rfl⟩
  exact hn ⟨other, ho, s, h.fewer other hs, rfl⟩

theorem trans (h : Spares user r t) (g : Spares user t q) : Spares user r q where
  capacity := g.capacity.trans h.capacity
  sessions := g.sessions.trans h.sessions
  fewer other _ hs := h.fewer other (g.fewer other hs)
  inbox n hn := (g.inbox n (h.isOthers hn)).trans (h.inbox n hn)

/-- A message for one user spares all others. -/
theorem pushOnline (r : Registry) (e : Event) (h : other ≠ user) :
    Spares user r (r.pushOnline other e).2 where
  capacity := rfl
  sessions := by rw [sessions_pushOnline, if_neg (Ne.symm h)]
  fewer u := sessions_pushOnline_subset r other u e
  inbox n hn := by
    have ht : n ∉ r.takers other e := by
      intro hm
      obtain ⟨s, hs, -, hs'⟩ := mem_takers_iff.1 hm
      exact hn ⟨other, h, s, hs, hs'⟩
    rw [inbox?_pushOnline, ← takers]
    simp [ht]

theorem standing_eq (h : Spares user r t) (hr : r.IsOwned) :
    t.standing user = r.standing user := by
  rw [standing, standing, h.capacity, h.sessions]
  refine congrArg (Prod.mk _) (List.map_congr_left fun s hs => ?_)
  rw [h.inbox s.number (hr.not_isOthers hs)]

/-- A message finds the sessions of a user as they were, and leaves them as it would have. -/
theorem inbox?_pushOnline (h : Spares user r t) (hr : r.IsOwned) (hn : ¬ r.IsOthers user n) :
    (t.pushOnline user e).2.inbox? n = (r.pushOnline user e).2.inbox? n := by
  have same : t.takers user e = r.takers user e := by
    rw [takers, takers, offers, offers, h.sessions]
    refine congrArg (List.map Session.number) (List.filter_congr fun s hs => ?_)
    rw [offer_eq_fare, offer_eq_fare, h.capacity, h.inbox s.number (hr.not_isOthers hs)]
  rw [Registry.inbox?_pushOnline, Registry.inbox?_pushOnline, ← takers, ← takers, same,
    h.inbox n hn]

end Spares

end Registry

namespace Push

open Dialogue DeliveryQuestion Registry

/-! ### One run -/

namespace Circumstances

/-- What a question of a delivery is answered by if it is asked at first. -/
def told (w : Circumstances) (r : Registry) (q : DeliveryQuestion) : DeliveryAnswer q :=
  (w.answer q r).1

variable {w : Circumstances} {r t : Registry} {user other : String} {e : Event} {n : Nat}
  {q : DeliveryQuestion}

/-- A question leaves the sessions as they are, or hands an event to those of its user. -/
theorem answer_cases (w : Circumstances) (r : Registry) (q : DeliveryQuestion) :
    (w.answer q r).2 = r ∨
      ∃ u e, q = .online u e ∧ (w.answer q r).2 = (r.pushOnline u e).2 := by
  cases q with
  | online u e =>
      rw [answer]
      split
      · exact .inr ⟨u, e, rfl, rfl⟩
      · exact .inl rfl
  | registrations u => exact .inl rfl
  | notify vendor target n => exact .inl rfl

theorem isOwned_answer (w : Circumstances) (h : r.IsOwned) (q : DeliveryQuestion) :
    (w.answer q r).2.IsOwned := by
  rcases w.answer_cases r q with hs | ⟨u, e, -, hs⟩
  · rwa [hs]
  · exact hs ▸ h.pushOnline u e

theorem sessions_answer_subset (w : Circumstances) (r : Registry) (q : DeliveryQuestion)
    (user : String) : (w.answer q r).2.sessions user ⊆ r.sessions user := by
  rcases w.answer_cases r q with hs | ⟨u, e, -, hs⟩
  · rw [hs]
    exact List.Subset.refl _
  · exact hs ▸ sessions_pushOnline_subset r u user e

/-- A question for one user spares all others. -/
theorem spares_answer (w : Circumstances) (r : Registry) (hq : q.IsFor other) (h : other ≠ user) :
    Spares user r (w.answer q r).2 := by
  rcases w.answer_cases r q with hs | ⟨u, e, rfl, hs⟩
  · exact hs.symm ▸ .refl user r
  · cases hq
    exact hs ▸ .pushOnline r e h

theorem told_of_spares (hr : r.IsOwned) (h : Spares user r t) (hq : q.IsFor user) :
    w.told t q = w.told r q := by
  cases q with
  | online u e =>
      cases hq
      have same : t.resultOf user e = r.resultOf user e :=
        resultOf_eq_of_standing (h.standing_eq hr)
      simp only [told, answer, pushOnline, same]
      split <;> rfl
  | registrations u => rfl
  | notify vendor target n => rfl

theorem inbox?_answer_of_spares (hr : r.IsOwned) (h : Spares user r t) (hq : q.IsFor user)
    (hn : ¬ r.IsOthers user n) : (w.answer q t).2.inbox? n = (w.answer q r).2.inbox? n := by
  cases q with
  | online u e =>
      cases hq
      rw [answer]
      split
      · exact h.inbox?_pushOnline hr hn
      · exact h.inbox n hn
  | registrations u => exact h.inbox n hn
  | notify vendor target m => exact h.inbox n hn

theorem answer_of_isOffline (hq : q.IsOffline) (r : Registry) : (w.answer q r).2 = r := by
  cases q with
  | online u e => exact hq.elim
  | registrations u => rfl
  | notify vendor target n => rfl

theorem told_of_isOffline (hq : q.IsOffline) (r t : Registry) : w.told t q = w.told r q := by
  cases q with
  | online u e => exact hq.elim
  | registrations u => rfl
  | notify vendor target n => rfl

/-- The registry after the next question of a delivery. -/
def after (w : Circumstances) (r : Registry) : Talk → Registry
  | .done _ => r
  | .ask q _ => (w.answer q r).2

theorem after_of_isOffline {d : Talk} (h : d.Asks IsOffline) : w.after r d = r := by
  cases d with
  | done outcome => rfl
  | ask q next => exact answer_of_isOffline h.1 r

end Circumstances

/-- Deliveries that ask for their own recipients do so when one of them has gone on. -/
theorem asks_goOn {before after : List (String × Talk)} {user : String} {q : DeliveryQuestion}
    {next : DeliveryAnswer q → Talk}
    (h : ∀ x ∈ before ++ (user, .ask q next) :: after, x.2.Asks (IsFor x.1))
    (answer : DeliveryAnswer q) :
    ∀ x ∈ before ++ (user, next answer) :: after, x.2.Asks (IsFor x.1) := by
  intro x hx
  rcases mem_middle_iff.1 hx with rfl | hx
  · exact (h _ (mem_middle_iff.2 (.inl rfl))).2 answer
  · exact h x (mem_middle_iff.2 (.inr hx))

/-- Deliveries spare all who are no recipients. -/
theorem Proceeds.spares {w : Circumstances} {r t : Registry} {user : String}
    {talks : List (String × Talk)} {calls : List Call} {outcomes : List (String × Outcome)}
    (h : Proceeds w r talks calls outcomes t)
    (ht : ∀ x ∈ talks, x.2.Asks (IsFor x.1)) (hu : user ∉ talks.map Prod.fst) :
    Spares user r t := by
  induction h with
  | ended r outcomes => exact .refl user r
  | @call r t before after other q next calls outcomes _ ih =>
      have hne : other ≠ user := by
        rintro rfl
        exact hu (by simp)
      have hs := w.spares_answer r (ht _ (mem_middle_iff.2 (.inl rfl))).1 hne
      exact hs.trans (ih (asks_goOn ht _) (by simpa using hu))

/-- Whether answers are those to a delivery of which the next question alone may be one to the
sessions, as they stand in a registry. -/
structure IsTold (w : Circumstances) (r : Registry) (d : Talk)
    (f : (q : DeliveryQuestion) → DeliveryAnswer q) : Prop where
  first : ∀ q next, d = .ask q next → f q = w.told r q ∧ ∀ a, (next a).Asks IsOffline
  later : ∀ q, q.IsOffline → f q = w.told r q

/-- What comes of what is left of the delivery to a user: all that it asks is answered alike, and
its next question alone can reach the inboxes of the user. -/
structure IsAlone (w : Circumstances) (f : (q : DeliveryQuestion) → DeliveryAnswer q)
    (r t : Registry) (user : String) (d : Talk) (calls : List Call)
    (outcomes : List (String × Outcome)) : Prop where
  outcome : (user, d.result f) ∈ outcomes
  calls : callsFor user calls = (d.asked f).map fun q => ⟨q, f q⟩
  inbox : ∀ n, ¬ r.IsOthers user n → t.inbox? n = (w.after r d).inbox? n

section Alone

variable {w : Circumstances} {r t : Registry} {user other : String} {d : Talk}
  {f : (q : DeliveryQuestion) → DeliveryAnswer q} {q : DeliveryQuestion}
  {next : DeliveryAnswer q → Talk} {talks : List (String × Talk)} {calls : List Call}
  {outcomes : List (String × Outcome)}

theorem IsTold.goOn (h : IsTold w r (.ask q next) f) :
    IsTold w (w.answer q r).2 (next (w.told r q)) f := by
  have later : ∀ p, p.IsOffline → f p = w.told (w.answer q r).2 p := fun p hp =>
    (h.later p hp).trans (Circumstances.told_of_isOffline hp _ _)
  refine ⟨fun p next' hp => ?_, later⟩
  have hask : (Dialogue.ask p next').Asks IsOffline := hp ▸ (h.first q next rfl).2 _
  exact ⟨later p hask.1, hask.2⟩

theorem IsTold.aside (h : IsTold w r d f) (hr : r.IsOwned) (hs : Spares user r t)
    (hd : d.Asks (IsFor user)) : IsTold w t d f where
  first p next' hp := by
    subst hp
    obtain ⟨hf, hoff⟩ := h.first p next' rfl
    exact ⟨hf.trans (Circumstances.told_of_spares hr hs hd.1).symm, hoff⟩
  later p hp := (h.later p hp).trans (Circumstances.told_of_isOffline hp _ _)

/-- The delivery to the user goes on. -/
theorem IsAlone.goOn (h : IsTold w r (.ask q next) f)
    (ha : IsAlone w f (w.answer q r).2 t user (next (w.told r q)) calls outcomes) :
    IsAlone w f r t user (.ask q next) ((user, ⟨q, w.told r q⟩) :: calls) outcomes := by
  obtain ⟨hf, hoff⟩ := h.first q next rfl
  constructor
  · rw [result, hf]
    exact ha.outcome
  · rw [callsFor_cons_self, ha.calls, asked, List.map_cons, hf]
  · intro n hn
    have fewer : ¬ (w.answer q r).2.IsOthers user n := by
      rintro ⟨v, hv, s, hs, hnum⟩
      exact hn ⟨v, hv, s, w.sessions_answer_subset r q v hs, hnum⟩
    rw [ha.inbox n fewer, Circumstances.after_of_isOffline (hoff _)]
    rfl

/-- The delivery to another user goes on. -/
theorem IsAlone.aside (hr : r.IsOwned) (hs : Spares user r t) (hd : d.Asks (IsFor user))
    (hu : other ≠ user) {u : Registry} (x : Exchange DeliveryAnswer)
    (ha : IsAlone w f t u user d calls outcomes) :
    IsAlone w f r u user d ((other, x) :: calls) outcomes where
  outcome := ha.outcome
  calls := (callsFor_cons_of_ne hu x).trans ha.calls
  inbox n hn := by
    rw [ha.inbox n (hs.isOthers hn)]
    cases d with
    | done outcome => exact hs.inbox n hn
    | ask p next' => exact Circumstances.inbox?_answer_of_spares hr hs hd.1 hn

/-- A delivery that goes on beside others to different users comes to what it comes to alone. -/
theorem Proceeds.isAlone (h : Proceeds w r talks calls outcomes t) (hr : r.IsOwned)
    (hn : (talks.map Prod.fst).Nodup) (ht : ∀ x ∈ talks, x.2.Asks (IsFor x.1))
    (hd : (user, d) ∈ talks) (hf : IsTold w r d f) : IsAlone w f r t user d calls outcomes := by
  induction h generalizing d with
  | ended r outcomes =>
      obtain ⟨⟨u, outcome⟩, hx, he⟩ := List.mem_map.1 hd
      cases he
      exact ⟨hx, rfl, fun _ _ => rfl⟩
  | @call r t before after other q next calls outcomes _ ih =>
      have hq := (ht _ (mem_middle_iff.2 (.inl rfl))).1
      have hn' : ((before ++ (other, next (w.answer q r).1) :: after).map Prod.fst).Nodup := by
        simpa using hn
      have ht' := asks_goOn ht (w.answer q r).1
      have hr' := w.isOwned_answer hr q
      by_cases hu : other = user
      · subst hu
        have hask : d = .ask q next := by
          rcases mem_middle_iff.1 hd with hd | hd
          · exact congrArg Prod.snd hd
          · exact absurd rfl (ne_of_nodup hn hd)
        subst hask
        exact .goOn hf (ih hr' hn' ht' (mem_middle_iff.2 (.inl rfl)) hf.goOn)
      · have hd' : (user, d) ∈ before ++ (other, next (w.answer q r).1) :: after := by
          refine mem_middle_iff.2 (.inr ((mem_middle_iff.1 hd).resolve_left fun he => ?_))
          exact hu (congrArg Prod.fst he).symm
        have hs := w.spares_answer r hq hu
        exact .aside hr hs (ht _ hd) hu _ (ih hr' hn' ht' hd' (hf.aside hr hs (ht _ hd)))

end Alone

/-! ### What a delivery asks -/

/-- Whether a question is about a user. -/
def DeliveryQuestion.IsAbout (user : String) : DeliveryQuestion → Prop
  | .online u _ => u = user
  | .registrations u => u = user
  | .notify _ target _ => target.client.user = user

section Asked

variable {vendors : List Vendor} {user : String} {e : Event} {q : DeliveryQuestion}
  {f : (q : DeliveryQuestion) → DeliveryAnswer q}

theorem of_asked_attempts {n : Notification} {rs : List Registration}
    (h : q ∈ (attempts vendors n rs).asked f) :
    ∃ r ∈ rs, ∃ vendor, q = .notify vendor (.ofRegistration r) n := by
  induction rs with
  | nil => cases h
  | cons r rs ih =>
      cases hc : channel vendors r.platform with
      | error fault =>
          simp only [attempts, hc] at h
          obtain ⟨x, hx, he⟩ := ih h
          exact ⟨x, List.mem_cons_of_mem r hx, he⟩
      | ok vendor =>
          simp only [attempts, hc, asked, asked_bind, pure_eq, List.append_nil,
            List.mem_cons] at h
          rcases h with rfl | h
          · exact ⟨r, List.mem_cons_self, vendor, rfl⟩
          · obtain ⟨x, hx, he⟩ := ih h
            exact ⟨x, List.mem_cons_of_mem r hx, he⟩

theorem of_asked_deliverOffline (h : q ∈ (deliverOffline vendors user e).asked f) :
    q = .registrations user ∨ ∃ rs, f (.registrations user) = some (.ok rs) ∧ ∃ r ∈ rs, ∃ vendor,
      q = .notify vendor (.ofRegistration r) (.ofEvent e) := by
  rw [deliverOffline] at h
  split at h
  · cases h
  · rcases List.mem_cons.1 h with rfl | h
    · exact .inl rfl
    · right
      rcases hf : f (.registrations user) with _ | fault | rs
      · rw [hf] at h
        cases h
      · rw [hf] at h
        cases h
      · rw [hf] at h
        have h : q ∈ (attempts vendors (.ofEvent e) rs >>= fun results =>
          pure (conclude results)).asked f := h
        rw [asked_bind, pure_eq, asked, List.append_nil] at h
        exact ⟨rs, rfl, of_asked_attempts h⟩

/-- A delivery first asks for the sessions, and the sender's asks no more. -/
theorem of_asked_deliver (h : q ∈ (deliver vendors user e).asked f) :
    q = .online user e ∨ user ≠ e.sender ∧ (q = .registrations user ∨
      ∃ rs, f (.registrations user) = some (.ok rs) ∧ ∃ r ∈ rs, ∃ vendor,
        q = .notify vendor (.ofRegistration r) (.ofEvent e)) := by
  rcases List.mem_cons.1 h with rfl | h
  · exact .inl rfl
  · right
    rcases hf : f (.online user e) with _ | fault | ⟨sessions⟩ | _
    · rw [hf] at h
      cases h
    · rw [hf] at h
      cases h
    · rw [hf] at h
      cases h
    · rw [hf] at h
      dsimp only at h
      split at h
      · cases h
      · rename_i hu
        exact ⟨hu, of_asked_deliverOffline h⟩

end Asked

/-! ### Recipients of a dispatch -/

section Dispatch

variable {w : Circumstances} {r t : Registry} {user : String} {e : Event} {calls : List Call}
  {result : Except ServiceError Report}

theorem lookup_eq_some {outcomes : List (String × Outcome)} {outcome : Outcome}
    (hn : (outcomes.map Prod.fst).Nodup) (h : (user, outcome) ∈ outcomes) :
    outcomes.lookup user = some outcome := by
  induction outcomes with
  | nil => cases h
  | cons x outcomes ih =>
      rw [List.map_cons, List.nodup_cons] at hn
      rcases List.mem_cons.1 h with rfl | h
      · simp
      · have hx : user ≠ x.1 := by
          rintro rfl
          exact hn.1 (List.mem_map.2 ⟨_, h, rfl⟩)
        rw [List.lookup_cons, beq_false_of_ne hx]
        exact ih hn.2 h

/-- What a delivery asks is about its recipient, and the sender's asks nothing of a vendor. -/
theorem isAbout_of_asked {q : DeliveryQuestion} (hw : w.store.IsFiled)
    (h : q ∈ (deliver w.vendors user e).asked (w.told r)) :
    q.IsAbout user ∧ (user = e.sender → q.target? = none) := by
  rcases of_asked_deliver h with rfl | ⟨hu, rfl | ⟨rs, hrs, x, hx, vendor, rfl⟩⟩
  · exact ⟨rfl, fun _ => rfl⟩
  · exact ⟨rfl, fun _ => rfl⟩
  · refine ⟨?_, fun he => absurd he hu⟩
    have found : (w.lookUp user).map (fun found => found.map fun _ => w.store.ofUser user) =
      some (.ok rs) := hrs
    rcases hl : w.lookUp user with _ | fault | _
    · rw [hl] at found
      cases found
    · rw [hl] at found
      cases found
    · rw [hl] at found
      cases found
      exact hw user x hx

theorem map_fst_round (vendors : List Vendor) (users : List String) (e : Event) :
    (users.map fun user => (user, deliver vendors user e)).map Prod.fst = users := by
  rw [List.map_map]
  exact List.map_id _

theorem asks_round (vendors : List Vendor) (users : List String) (e : Event) :
    ∀ x ∈ users.map fun user => (user, deliver vendors user e), x.2.Asks (IsFor x.1) := by
  intro x hx
  obtain ⟨user, -, rfl⟩ := List.mem_map.1 hx
  exact asks_deliver vendors user e

/-- What an event brings a user to whom it goes. -/
theorem Unfolds.alone (h : Unfolds w r (dispatch e).run result calls t) (hr : r.IsOwned)
    (ha : w.Addresses e user) :
    (∃ report, result = .ok report ∧
      report.outcomeOf? user = some ((deliver w.vendors user e).result (w.told r))) ∧
      callsFor user calls =
        ((deliver w.vendors user e).asked (w.told r)).map (fun q => ⟨q, w.told r q⟩) ∧
      ∀ s ∈ r.sessions user,
        t.inbox? s.number = (w.answer (.online user e) r).2.inbox? s.number := by
  obtain ⟨users, hu, hm⟩ := Circumstances.addresses_iff.1 ha
  rw [unfolds_dispatch_iff, hu] at h
  obtain ⟨outcomes, rfl, hp⟩ := h
  have hfst := map_fst_round w.vendors users e
  have hn := Circumstances.nodup_recipients hu
  have told : IsTold w r (deliver w.vendors user e) (w.told r) :=
    ⟨fun q next he => ⟨rfl, asks_of_deliver_eq he⟩, fun _ _ => rfl⟩
  obtain ⟨ho, hc, hi⟩ := hp.isAlone hr (hfst.symm ▸ hn) (asks_round w.vendors users e)
    (List.mem_map.2 ⟨user, hm, rfl⟩) told
  refine ⟨⟨_, rfl, lookup_eq_some ?_ ho⟩, hc, fun s hs => hi _ (hr.not_isOthers hs)⟩
  rwa [hp.map_fst, hfst]

/-- An event leaves alone those to whom it does not go. -/
theorem Unfolds.spares (h : Unfolds w r (dispatch e).run result calls t)
    (ha : ¬ w.Addresses e user) : Spares user r t := by
  rw [unfolds_dispatch_iff] at h
  cases hu : w.recipients e with
  | error fault =>
      rw [hu] at h
      obtain ⟨-, -, rfl⟩ := h
      exact .refl user t
  | ok users =>
      rw [hu] at h
      obtain ⟨outcomes, -, hp⟩ := h
      refine hp.spares (asks_round w.vendors users e) fun hm => ha ?_
      rw [map_fst_round] at hm
      exact Circumstances.addresses_iff.2 ⟨users, hu, hm⟩

/-- Every call is made for a user to whom the event goes. -/
theorem Unfolds.addresses (h : Unfolds w r (dispatch e).run result calls t) {c : Call}
    (hc : c ∈ calls) : w.Addresses e c.1 := by
  have hp := unfolds_dispatch_iff.1 h
  cases hu : w.recipients e with
  | error fault =>
      rw [hu] at hp
      obtain ⟨-, rfl, -⟩ := hp
      cases hc
  | ok users =>
      rw [hu] at hp
      obtain ⟨outcomes, -, hp⟩ := hp
      have hm := hp.mem_of_call hc
      rw [map_fst_round] at hm
      exact Circumstances.addresses_iff.2 ⟨users, hu, hm⟩

/-- Every call is about the user for whom it is made. -/
theorem Unfolds.isAbout (h : Unfolds w r (dispatch e).run result calls t) (hr : r.IsOwned)
    (hw : w.store.IsFiled) {c : Call} (hc : c ∈ calls) :
    c.2.1.IsAbout c.1 ∧ (c.1 = e.sender → c.2.1.target? = none) := by
  have ha := h.addresses hc
  have hm : c.2 ∈ callsFor c.1 calls := mem_callsFor.2 hc
  rw [(h.alone hr ha).2.1] at hm
  obtain ⟨q, hq, he⟩ := List.mem_map.1 hm
  rw [← he]
  exact isAbout_of_asked hw hq

end Dispatch

/-! ### Two runs -/

/-- Whether circumstances and sessions agree on the vendors that are set up and on a user. -/
structure Agree (user : String) (w : Circumstances) (r : Registry) (v : Circumstances)
    (q : Registry) : Prop where
  vendors : v.vendors = w.vendors
  standing : q.standing user = r.standing user
  registrations : v.store.ofUser user = w.store.ofUser user
  gateway : v.gateway user = w.gateway user
  lookUp : v.lookUp user = w.lookUp user
  notify : ∀ vendor target n, target.client.user = user →
    v.notify vendor target n = w.notify vendor target n

theorem DeliveryQuestion.IsAbout.unique {user other : String} {p : DeliveryQuestion}
    (h : p.IsAbout user) (ho : p.IsAbout other) : user = other := by
  cases p <;> exact h.symm.trans ho

namespace Agree

variable {w v : Circumstances} {r q t u : Registry} {user : String} {e : Event}

theorem told_eq (h : Agree user w r v q) {p : DeliveryQuestion} (hp : p.IsAbout user) :
    v.told q p = w.told r p := by
  cases p with
  | online u e =>
      cases hp
      have same : q.resultOf user e = r.resultOf user e := resultOf_eq_of_standing h.standing
      simp only [Circumstances.told, Circumstances.answer, h.gateway, pushOnline, same]
      split <;> rfl
  | registrations u =>
      cases hp
      simp only [Circumstances.told, Circumstances.answer, h.lookUp, h.registrations]
      rfl
  | notify vendor target n => exact h.notify vendor target n hp

/-- The inboxes of the user hold the same after an event. -/
theorem inboxes_eq (h : Agree user w r v q) (hr : r.IsDistinct) (hq : q.IsDistinct) :
    (q.sessions user).map (fun s => (v.answer (.online user e) q).2.inbox? s.number) =
      (r.sessions user).map fun s => (w.answer (.online user e) r).2.inbox? s.number := by
  simp only [Circumstances.answer, h.gateway]
  cases w.gateway user with
  | none => exact (inboxes_pushOnline hq).trans (h.standing ▸ (inboxes_pushOnline hr).symm)
  | some answer =>
      have same := congrArg (fun x : Nat × List (Int32 × Option Inbox) => x.2.map Prod.snd)
        h.standing
      simpa [Registry.standing, Function.comp_def] using same

end Agree

/-- Whatever was done with the sessions and the registrations before: where an event goes to a user
in two circumstances that agree on that user, the user has the same outcome in both reports, the
calls made for the user, which are all that are about it, are the same, and so is what its inboxes
hold. There is no other demand on who else gets the event and in which order deliveries go on.
Every dispatch can be finished, and with the deliveries in a window of any width it is one of those
that are spoken of. -/
theorem recipients_apart (user : String) (e : Event) (capacity capacity' : Nat)
    (operations operations' : List Registry.Operation)
    (registering registering' : List RegistrationStore.Operation)
    (around around' : Circumstances) (server : Server) :
    let r := (Registry.new capacity).operateAll operations
    let q := (Registry.new capacity').operateAll operations'
    let w := { around with store := (∅ : RegistrationStore).operateAll registering }
    let v := { around' with store := (∅ : RegistrationStore).operateAll registering' }
    (Agree user w r v q → w.Addresses e user → v.Addresses e user →
      ∀ result calls t result' calls' u, Unfolds w r (dispatch e).run result calls t →
        Unfolds v q (dispatch e).run result' calls' u →
        ∃ report report' outcome, result = .ok report ∧ result' = .ok report' ∧
          report.outcomeOf? user = some outcome ∧ report'.outcomeOf? user = some outcome ∧
          callsFor user calls' = callsFor user calls ∧
          (∀ c ∈ calls ++ calls', c.2.1.IsAbout user → c.1 = user) ∧
          (q.sessions user).map (fun s => u.inbox? s.number) =
            (r.sessions user).map fun s => t.inbox? s.number) ∧
      (∃ result calls t, Unfolds w r (dispatch e).run result calls t) ∧
      ∀ outside width result t,
        let s := { server with sessions := r, registrations := w.store }
        Runs outside width s (dispatch e).run result t →
        ∃ calls, Unfolds (.ofService outside w.store fun group =>
          (Server.lookUp outside group s).1) r (dispatch e).run result calls t.sessions := by
  intro r q w v
  have hr : r.IsOwned := (IsOwned.new capacity).operateAll operations
  have hq : q.IsOwned := (IsOwned.new capacity').operateAll operations'
  have hw : w.store.IsFiled := RegistrationStore.IsFiled.empty.operateAll registering
  have hv : v.store.IsFiled := RegistrationStore.IsFiled.empty.operateAll registering'
  refine ⟨fun agree ha hb result calls t result' calls' u h g => ?_, exists_unfolds w r e,
    fun outside width result t hruns => ?_⟩
  · obtain ⟨⟨report, rfl, ho⟩, hc, hi⟩ := h.alone hr ha
    obtain ⟨⟨report', rfl, ho'⟩, hc', hi'⟩ := g.alone hq hb
    -- what is asked for the user is about it, so that it is told the same
    have told : ∀ p ∈ (deliver w.vendors user e).asked (w.told r), v.told q p = w.told r p :=
      fun p hp => agree.told_eq (isAbout_of_asked hw hp).1
    obtain ⟨same, asked⟩ := result_congr told
    rw [agree.vendors] at ho' hc'
    refine ⟨report, report', _, rfl, rfl, ho, ho'.trans (congrArg some same), ?_, ?_, ?_⟩
    · rw [hc, hc', asked]
      exact List.map_congr_left fun p hp => by rw [told p hp]
    · intro c hm habout
      rcases List.mem_append.1 hm with hm | hm
      · exact (h.isAbout hr hw hm).1.unique habout
      · exact (g.isAbout hq hv hm).1.unique habout
    · rw [List.map_congr_left hi, List.map_congr_left hi']
      exact agree.inboxes_eq ((IsDistinct.new capacity).operateAll (.new capacity) operations)
        ((IsDistinct.new capacity').operateAll (.new capacity') operations')
  · have hs : IsOwned { server with sessions := r, registrations := w.store } := hr
    exact Runs.exists_unfolds hs hruns

/-- A member of a group gets a message that finds it alone, and therefore also among others who are
out of reach, whose registrations are not found and whose vendor does not answer. -/
theorem recipients_apart_in_crowd :
    let e : Event := { (default : Event) with sender := "a", selector := .group "g" }
    let w : Circumstances := {
      vendors := [.apns]
      store := (∅ : RegistrationStore).operateAll [.register ⟨"e", 1, "device", 0⟩]
      members := fun _ => .ok ["a", "c", "d", "b", "e", "b"]
      gateway := fun user => if user = "c" then some (some (.error (.network "down"))) else none
      lookUp := fun user => if user = "d" then some (.error (.network "down")) else some (.ok ())
      notify := fun _ _ _ => none }
    let v : Circumstances := {
      vendors := [.apns]
      store := (∅ : RegistrationStore).operateAll []
      members := fun _ => .ok ["b"]
      gateway := fun _ => none
      lookUp := fun _ => some (.ok ())
      notify := fun _ _ _ => none }
    let r := (Registry.new 0).operateAll [.connect "x" 2, .connect "b" 1, .connect "b" 2, .hangUp 3]
    let q := (Registry.new 1).operateAll [.connect "b" 1, .connect "b" 2, .hangUp 2]
    Agree "b" w r v q ∧ w.Addresses e "b" ∧ v.Addresses e "b" ∧
      ∃ report calls t, Unfolds w r (dispatch e).run (.ok report) calls t ∧
        report.outcomeOf? "b" = some .deliveredOnline := by
  intro e w v r q
  have agree : Agree "b" w r v q := ⟨rfl, rfl, rfl, rfl, rfl, fun _ _ _ _ => rfl⟩
  have crowded : w.Addresses e "b" := ⟨by decide, _, rfl, by decide, .inr (by decide)⟩
  have lonely : v.Addresses e "b" := ⟨by decide, _, rfl, by decide, .inr (by decide)⟩
  let talks := [("b", deliver v.vendors "b" e)]
  have told : (v.inTurn talks q).1 = [("b", .deliveredOnline)] := by rfl
  obtain ⟨calls', hp⟩ := Proceeds.exists_inTurn v q talks
  rw [told] at hp
  have g : Unfolds v q (dispatch e).run (.ok ⟨[("b", .deliveredOnline)]⟩) calls'
      (v.inTurn talks q).2 := by
    have hu : v.recipients e = .ok ["b"] := by rfl
    rw [unfolds_dispatch_iff, hu]
    exact ⟨_, rfl, hp⟩
  obtain ⟨apart, ⟨result, calls, t, h⟩, -⟩ := recipients_apart "b" e 0 1 _ _ _ _ w v (Server.new {})
  obtain ⟨report, report', outcome, rfl, hr, ho, ho', -⟩ :=
    apart agree crowded lonely result calls t _ calls' _ h g
  cases hr
  refine ⟨agree, crowded, lonely, report, calls, t, h, ho.trans (ho'.symm.trans rfl)⟩

end Push

end Courier
