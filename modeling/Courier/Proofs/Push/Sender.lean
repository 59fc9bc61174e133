import Courier.Proofs.Push.Apart

/-!
# Senders and their own messages

A sender may be a recipient of its own message: with the members of a group, for its other sessions,
or as the one whom the message is for. Main statement: no vendor is ever asked to notify it, the
sessions on the platform that it sent from get nothing, all its sessions get nothing if it is no
recipient, and for a recipient without another open session the message counts as delivered.
-/

namespace Courier

namespace Registry

variable {r : Registry} {user : String} {e : Event} {s : Session}

/-- A message comes to an open session that it does not pass over, or to none. -/
theorem isOpen_of_offer (h : r.offer user e s = .taken ∨ r.offer user e s = .full) :
    passedOver user e ≠ some s.platform ∧ r.IsOpen s := by
  rw [offer] at h
  split at h
  · simp at h
  · rename_i hp
    split at h
    · rename_i waiting hb
      exact ⟨hp, waiting, hb⟩
    · simp at h

/-- A message finds no live session where all that it does not pass over are closed. -/
theorem resultOf_of_closed
    (h : ∀ s ∈ r.sessions user, passedOver user e ≠ some s.platform → ¬ r.IsOpen s) :
    r.resultOf user e = .ok .noLiveSession := by
  have none : ∀ o : Offer, o = .taken ∨ o = .full → r.offers user e o = [] := by
    intro o ho
    refine List.filter_eq_nil_iff.2 fun s hs hoffer => ?_
    have hoffer : r.offer user e s = o := of_decide_eq_true hoffer
    obtain ⟨hp, hopen⟩ := isOpen_of_offer (hoffer ▸ ho)
    exact h s hs hp hopen
  simp [resultOf, none .taken (.inl rfl), none .full (.inr rfl)]

/-- A session that a message passes over keeps what it has. -/
theorem inbox?_pushOnline_of_passedOver (h : r.IsDistinct) (hs : s ∈ r.sessions user)
    (hp : passedOver user e = some s.platform) :
    (r.pushOnline user e).2.inbox? s.number = r.inbox? s.number := by
  have ht : s.number ∉ r.takers user e := by
    rw [mem_takers_of_isDistinct h hs, offer, if_pos hp]
    simp
  rw [inbox?_pushOnline, ← takers]
  simp [ht]

end Registry

namespace Push

open Dialogue DeliveryQuestion Registry

section Sender

variable {w : Circumstances} {r t : Registry} {e : Event} {calls : List Call}
  {result : Except ServiceError Report}

/-- No vendor is asked to notify the sender. -/
theorem Unfolds.target_ne_sender (h : Unfolds w r (dispatch e).run result calls t)
    (hr : r.IsOwned) (hw : w.store.IsFiled) {c : Call} (hc : c ∈ calls) {target : Target}
    (ht : c.2.1.target? = some target) : target.client.user ≠ e.sender := by
  obtain ⟨habout, hsender⟩ := h.isAbout hr hw hc
  obtain ⟨user, q, answer⟩ := c
  cases q with
  | online u f => cases ht
  | registrations u => cases ht
  | notify vendor target' n =>
      cases ht
      intro he
      have hnone : (DeliveryQuestion.notify vendor target n).target? = none :=
        hsender (habout.symm.trans he)
      cases hnone

/-- The sessions on the platform of the sender get nothing. -/
theorem Unfolds.inbox?_of_platform (h : Unfolds w r (dispatch e).run result calls t)
    (hr : r.IsOwned) (hd : r.IsDistinct) {s : Session} (hs : s ∈ r.sessions e.sender)
    (hp : e.senderPlatform = some s.platform) : t.inbox? s.number = r.inbox? s.number := by
  have skips : passedOver e.sender e = some s.platform := (if_pos rfl).trans hp
  by_cases ha : w.Addresses e e.sender
  · rw [(h.alone hr ha).2.2 s hs, Circumstances.answer]
    split
    · exact inbox?_pushOnline_of_passedOver hd hs skips
    · rfl
  · exact (h.spares ha).inbox _ (hr.not_isOthers hs)

/-- A message counts as delivered to a sender who gets it and has no other open session. -/
theorem Unfolds.outcomeOf?_sender (h : Unfolds w r (dispatch e).run result calls t)
    (hr : r.IsOwned) (ha : w.Addresses e e.sender) (hg : w.gateway e.sender = none)
    (hs : ∀ s ∈ r.sessions e.sender, e.senderPlatform ≠ some s.platform → ¬ r.IsOpen s) :
    ∃ report, result = .ok report ∧ report.outcomeOf? e.sender = some .deliveredOnline := by
  obtain ⟨⟨report, rfl, ho⟩, -⟩ := h.alone hr ha
  have skips : passedOver e.sender e = e.senderPlatform := if_pos rfl
  have offline : w.told r (.online e.sender e) = some (.ok .noLiveSession) := by
    rw [Circumstances.told, Circumstances.answer, hg]
    exact congrArg some (resultOf_of_closed (skips ▸ hs))
  have found : (deliver w.vendors e.sender e).result (w.told r) = .deliveredOnline := by
    rw [deliver, Dialogue.result, offline]
    simp [Dialogue.result]
  exact ⟨report, rfl, ho.trans (congrArg some found)⟩

end Sender

/-- A sender gets no message of its own but one that is for it or that its other sessions are to
get. -/
theorem not_addresses_sender (w : Circumstances) {e : Event} (hsync : e.senderSync = false)
    (hself : e.selector ≠ .direct e.sender) : ¬ w.Addresses e e.sender := by
  rintro ⟨-, ha⟩
  cases hs : e.selector with
  | direct other =>
      simp only [hs, hsync] at ha
      rcases ha with rfl | ⟨ht, -⟩
      · exact hself hs
      · cases ht
  | group group =>
      simp only [hs, hsync] at ha
      obtain ⟨members, -, -, ht | hne⟩ := ha
      · cases ht
      · exact hne rfl

/-- Whatever was done with the sessions and the registrations before, and in whichever order the
deliveries of an event go on: no vendor is asked to notify its sender; what the sessions of the
sender hold stays as it is where they are on the platform that the event was sent from, and
everywhere unless the event is for the sender or its other sessions are to get it; and if the event
goes to the sender, all of whose sessions on other platforms are closed, its outcome is online.
Every dispatch can be finished, and with the deliveries in a window of any width it is one of those
that are spoken of. -/
theorem sender_unnotified (e : Event) (capacity : Nat) (operations : List Registry.Operation)
    (registering : List RegistrationStore.Operation) (around : Circumstances) (server : Server) :
    let r := (Registry.new capacity).operateAll operations
    let w := { around with store := (∅ : RegistrationStore).operateAll registering }
    (∀ result calls t, Unfolds w r (dispatch e).run result calls t →
      (∀ c ∈ calls, ∀ target, c.2.1.target? = some target → target.client.user ≠ e.sender) ∧
        (∀ s ∈ r.sessions e.sender, e.senderPlatform = some s.platform →
          t.inbox? s.number = r.inbox? s.number) ∧
        (e.senderSync = false → e.selector ≠ .direct e.sender →
          ∀ s ∈ r.sessions e.sender, t.inbox? s.number = r.inbox? s.number) ∧
        (w.Addresses e e.sender → w.gateway e.sender = none →
          (∀ s ∈ r.sessions e.sender, e.senderPlatform ≠ some s.platform → ¬ r.IsOpen s) →
          ∃ report, result = .ok report ∧
            report.outcomeOf? e.sender = some .deliveredOnline)) ∧
      (∃ result calls t, Unfolds w r (dispatch e).run result calls t) ∧
      ∀ outside width result t,
        let s := { server with sessions := r, registrations := w.store }
        Runs outside width s (dispatch e).run result t →
        ∃ calls, Unfolds (.ofService outside w.store fun group =>
          (Server.lookUp outside group s).1) r (dispatch e).run result calls t.sessions := by
  intro r w
  have hr : r.IsOwned := (IsOwned.new capacity).operateAll operations
  have hd : r.IsDistinct := (IsDistinct.new capacity).operateAll (.new capacity) operations
  have hw : w.store.IsFiled := RegistrationStore.IsFiled.empty.operateAll registering
  refine ⟨fun result calls t h => ⟨?_, ?_, ?_, ?_⟩, exists_unfolds w r e,
    fun outside width result t hruns => ?_⟩
  · exact fun c hc target => h.target_ne_sender hr hw hc
  · exact fun s hs => h.inbox?_of_platform hr hd hs
  · intro hsync hself s hs
    exact (h.spares (not_addresses_sender w hsync hself)).inbox _ (hr.not_isOthers hs)
  · exact h.outcomeOf?_sender hr
  · have hs : IsOwned { server with sessions := r, registrations := w.store } := hr
    exact Runs.exists_unfolds hs hruns

/-- A sender in the group of its message has an open session on the platform that it sent from, a
closed one on another and a registration. The message counts as delivered to it, and neither its
session nor its vendor hears of it; no more does the session if the message is not for its others.
-/
theorem sender_unnotified_in_group :
    let e : Event := { (default : Event) with
      sender := "a", senderPlatform := some 1, selector := .group "g", senderSync := true }
    let operations : List Registry.Operation := [.connect "a" 1, .connect "a" 2, .hangUp 2]
    let registering : List RegistrationStore.Operation :=
      [.register ⟨"a", 1, "device", 0⟩, .register ⟨"b", 1, "other", 0⟩]
    let r := (Registry.new 1).operateAll operations
    let w : Circumstances := {
      vendors := [.apns]
      store := (∅ : RegistrationStore).operateAll registering
      members := fun _ => .ok ["a", "b", "a"]
      gateway := fun _ => none
      lookUp := fun _ => some (.ok ())
      notify := fun _ _ _ => some (.ok ()) }
    w.Addresses e "a" ∧ (∀ s ∈ r.sessions "a", some 1 ≠ some s.platform → ¬ r.IsOpen s) ∧
      (∃ report calls t, Unfolds w r (dispatch e).run (.ok report) calls t ∧
        report.outcomeOf? "a" = some .deliveredOnline ∧ t.inbox? 1 = r.inbox? 1 ∧
        ∀ c ∈ calls, ∀ target, c.2.1.target? = some target → target.client.user ≠ "a") ∧
      ∃ result calls t,
        Unfolds w r (dispatch { e with senderSync := false }).run result calls t ∧
          t.inbox? 1 = r.inbox? 1 := by
  intro e operations registering r w
  have addressed : w.Addresses e "a" := ⟨by decide, _, rfl, by decide, .inl rfl⟩
  have sessions : r.sessions "a" = [⟨1, 1⟩, ⟨2, 2⟩] := rfl
  have closed : ∀ s ∈ r.sessions "a", some 1 ≠ some s.platform → ¬ r.IsOpen s := by
    rintro s hs hp ⟨waiting, hw⟩
    have gone : r.inbox? 2 = some ⟨[], false⟩ := rfl
    rw [sessions] at hs
    rcases List.mem_pair.1 hs with rfl | rfl
    · exact hp rfl
    · cases gone.symm.trans hw
  have mine : (⟨1, 1⟩ : Session) ∈ r.sessions "a" := sessions ▸ List.mem_cons_self
  obtain ⟨told, ⟨result, calls, t, h⟩, -⟩ :=
    sender_unnotified e 1 operations registering w (Server.new {})
  obtain ⟨quiet, kept, -, online⟩ := told result calls t h
  obtain ⟨report, rfl, ho⟩ := online addressed rfl closed
  obtain ⟨told', ⟨result', calls', t', h'⟩, -⟩ :=
    sender_unnotified { e with senderSync := false } 1 operations registering w (Server.new {})
  obtain ⟨-, -, kept', -⟩ := told' result' calls' t' h'
  exact ⟨addressed, closed, ⟨report, calls, t, h, ho, kept _ mine rfl, quiet⟩,
    result', calls', t', h', kept' rfl (by decide) _ mine⟩

end Push

end Courier
