import Courier.Proofs.Registration.Ordered
import Courier.Proofs.Session.Chronicle

/-!
# Edits and clean-ups

To take a session or a registration out, or to deliver a message, takes two steps: a user's list is
edited, and it is dropped if it is empty. The steps of others may come between. Main statement: in
whatever order the steps of whatever operations are taken, nothing is lost that was not taken out.
-/

namespace Courier

namespace Chronicle

variable {t : Chronicle} {user : String} {s : Session} {number : Nat}
  {steps : List Registry.Operation}

theorem registry_operateAll (t : Chronicle) (steps : List Registry.Operation) :
    (t.operateAll steps).registry = t.registry.operateAll steps := by
  induction steps generalizing t with
  | nil => rfl
  | cons o steps ih =>
      have hr : (t.operate o).registry = t.registry.operate o := by cases o <;> rfl
      exact (ih (t.operate o)).trans (congrArg (Registry.operateAll · steps) hr)

theorem mem_standing_operate (hs : (user, s) ∈ t.standing) {o : Registry.Operation}
    (ho : o ≠ .strike user s.number) : (user, s) ∈ (t.operate o).standing := by
  cases o with
  | connect other platform => exact List.mem_append_left _ hs
  | strike other number =>
      refine List.mem_filter.2 ⟨hs, decide_eq_true ?_⟩
      rintro ⟨rfl, rfl⟩
      exact ho rfl
  | tidy other => exact hs
  | hangUp number => exact hs
  | read number most => exact hs
  | deliver other e => exact hs

theorem mem_listening_operate (hn : number ∈ t.listening) {o : Registry.Operation}
    (ho : o ≠ .hangUp number) : number ∈ (t.operate o).listening := by
  cases o with
  | connect other platform => exact List.mem_append_left _ hn
  | strike other n => exact hn
  | tidy other => exact hn
  | hangUp n =>
      refine List.mem_filter.2 ⟨hn, decide_eq_true ?_⟩
      rintro rfl
      exact ho rfl
  | read n most => exact hn
  | deliver other e => exact hn

/-- A session stands and listens until it is taken off or its receiver hangs up. -/
theorem mem_openOf_operateAll (hs : (user, s) ∈ t.standing) (hn : s.number ∈ t.listening)
    (struck : .strike user s.number ∉ steps) (hung : .hangUp s.number ∉ steps) :
    s ∈ (t.operateAll steps).openOf user := by
  induction steps generalizing t with
  | nil => exact List.mem_filter.2 ⟨mem_standingOf_iff.2 hs, decide_eq_true hn⟩
  | cons o steps ih =>
      rw [List.mem_cons, not_or] at struck hung
      exact ih (mem_standing_operate hs (Ne.symm struck.1))
        (mem_listening_operate hn (Ne.symm hung.1)) struck.2 hung.2

/-- A session that comes is on its user's list until it is taken off or its receiver hangs up. -/
theorem IsKept.mem_sessions_operateAll (h : t.IsKept) (user : String) (platform : Int32)
    (steps : List Registry.Operation) (struck : .strike user t.registry.next ∉ steps)
    (hung : .hangUp t.registry.next ∉ steps) :
    ⟨t.registry.next, platform⟩ ∈
      ((t.registry.connect user platform).2.operateAll steps).sessions user := by
  let u := t.operate (.connect user platform)
  have stands : (user, (⟨t.registry.next, platform⟩ : Session)) ∈ u.standing :=
    List.mem_append_right _ (List.mem_singleton_self _)
  have listens : t.registry.next ∈ u.listening :=
    List.mem_append_right _ (List.mem_singleton_self _)
  have kept : (u.operateAll steps).IsKept := (h.operate (.connect user platform)).operateAll steps
  have hm := (kept.stays user).subset (mem_openOf_operateAll stands listens struck hung)
  rwa [registry_operateAll] at hm

end Chronicle

namespace RegistrationStore

variable {s : RegistrationStore} {c : Client} {steps : List Operation}

/-- What a step reports of a client, if it takes the client out. -/
def report? (s : RegistrationStore) (c : Client) : Operation → Option Bool
  | .strike d => if d = c then some (s.unregister c).1 else none
  | .register _ | .tidy _ => none

/-- What is reported of a client in the course of steps. -/
def reports (s : RegistrationStore) (c : Client) : List Operation → List Bool
  | [] => []
  | o :: steps => (s.report? c o).toList ++ (s.operate o).reports c steps

theorem registration?_operate {o : Operation} (hr : ∀ r, o = .register r → r.client ≠ c)
    (hs : o ≠ .strike c) : (s.operate o).registration? c = s.registration? c := by
  cases o with
  | register r =>
      change (s.register r).registration? c = _
      rw [registration?_register, if_neg (hr r rfl)]
  | strike d =>
      change (s.strike d).registration? c = _
      rw [registration?_strike, if_neg fun hd : d = c => hs (hd ▸ rfl)]
  | tidy user => exact registration?_tidy s user c

theorem registration?_operateAll (hr : ∀ r, .register r ∈ steps → r.client ≠ c)
    (hs : .strike c ∉ steps) : (s.operateAll steps).registration? c = s.registration? c := by
  induction steps generalizing s with
  | nil => rfl
  | cons o steps ih =>
      rw [List.mem_cons, not_or] at hs
      refine (ih (fun r hm => hr r (List.mem_cons_of_mem o hm)) hs.2).trans ?_
      exact registration?_operate (fun r ho => hr r (ho ▸ List.mem_cons_self)) (Ne.symm hs.1)

/-- A client that is not registered again is reported as taken out only once, and only if it was
registered. -/
theorem count_reports_le (hr : ∀ r, .register r ∈ steps → r.client ≠ c) :
    (s.reports c steps).count true ≤ (s.contains c).toNat := by
  induction steps generalizing s with
  | nil => exact Nat.zero_le _
  | cons o steps ih =>
      have later := ih (s := s.operate o) fun r hm => hr r (List.mem_cons_of_mem o hm)
      rw [reports, List.count_append]
      by_cases ho : o = .strike c
      · subst ho
        have reported : s.report? c (.strike c) = some (s.contains c) := if_pos rfl
        have gone : (s.operate (.strike c)).contains c = false := by
          change (s.strike c).contains c = false
          rw [contains_eq, registration?_strike, if_pos rfl]
          rfl
        rw [gone] at later
        rw [reported, Nat.le_zero.1 later]
        cases s.contains c <;> exact Nat.le_refl _
      · have unreported : s.report? c o = none := by
          cases o with
          | strike d => exact if_neg fun hd : d = c => ho (hd ▸ rfl)
          | register r => rfl
          | tidy user => rfl
        have still : (s.operate o).contains c = s.contains c := by
          rw [contains_eq, contains_eq, registration?_operate _ ho]
          exact fun r hm => hr r (hm ▸ List.mem_cons_self)
        rw [still] at later
        rw [unreported]
        exact (Nat.zero_add _).symm ▸ later

end RegistrationStore

/-- The two steps of an operation may be far apart, with any steps of any others between them. A
session that came is on the list of its user at every later point, unless a step takes it off or its
receiver hangs up; a registration is what is kept of its client at every later point, unless a step
takes the client out or another registration comes. Taking out a session or a client leaves all
others alone, and dropping an empty list takes out nothing. Until a client is registered again, no
more than one removal reports that it has taken the registration out. -/
theorem nothing_lost_between_steps :
    (∀ (capacity : Nat) (before after : List Registry.Operation) (user : String) (platform : Int32),
      let r := (Registry.new capacity).operateAll before
      let s : Session := ⟨(r.connect user platform).1, platform⟩
      .strike user s.number ∉ after → .hangUp s.number ∉ after →
        s ∈ ((r.connect user platform).2.operateAll after).sessions user) ∧
    (∀ (s : RegistrationStore) (r : Registration) (after : List RegistrationStore.Operation),
      (∀ q, .register q ∈ after → q.client ≠ r.client) →
        (.strike r.client ∉ after →
          ((s.register r).operateAll after).registration? r.client = some r) ∧
        ((s.register r).reports r.client after).count true ≤ 1) ∧
    (∀ (r : Registry) (user other : String) (number : Nat),
      (r.strike user number).sessions other =
          (r.sessions other).filter (fun s => ¬(other = user ∧ s.number = number)) ∧
        (r.tidy user).sessions other = r.sessions other) ∧
    ∀ (s : RegistrationStore) (c d : Client) (user : String),
      (s.strike c).registration? d = (if c = d then none else s.registration? d) ∧
        (s.tidy user).registration? d = s.registration? d := by
  refine ⟨?_, ?_, ?_, fun s c d user => ⟨s.registration?_strike c d, s.registration?_tidy user d⟩⟩
  · intro capacity before after user platform r s struck hung
    have kept : ((Chronicle.new capacity).operateAll before).IsKept :=
      (Chronicle.IsKept.new capacity).operateAll before
    have hr : ((Chronicle.new capacity).operateAll before).registry = r :=
      Chronicle.registry_operateAll _ _
    have hm := kept.mem_sessions_operateAll user platform after
    rw [hr] at hm
    exact hm struck hung
  · intro s r after hr
    refine ⟨fun struck => ?_, ?_⟩
    · rw [RegistrationStore.registration?_operateAll hr struck,
        RegistrationStore.registration?_register, if_pos rfl]
    · exact Nat.le_trans (RegistrationStore.count_reports_le hr) (Bool.toNat_le _)
  · intro r user other number
    refine ⟨?_, r.sessions_tidy user other⟩
    rw [Registry.sessions_strike]
    by_cases hu : other = user
    · simp [hu]
    · simp [hu]

/-- A session that comes after the last one is taken off and before the empty list is dropped. -/
example :
    ((Registry.new 4).operateAll
      [.connect "u" 1, .strike "u" 1, .connect "u" 2, .tidy "u"]).sessions "u" = [⟨2, 2⟩] := by
  decide

end Courier
