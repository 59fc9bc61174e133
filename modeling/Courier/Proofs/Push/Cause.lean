import Courier.Proofs.Push.Pool
import Mathlib.Data.List.FinRange
import Mathlib.Data.List.Induction

/-!
# Deliveries are acknowledged for a cause only

Workers take turns at the event stream, in any order, while others act on the stream and on the
membership cache. Main statement: at every moment each delivery that a worker has received either
is not settled and has a worker who goes on with it, or was settled once, by its own number: it was
acknowledged if there was cause, and refused in every other case.
-/

namespace Courier.Push

open Dialogue EventStream

/-- Whether a conversation is about the delivery with a number, and all it has heard of groups was
brought by look-ups. -/
structure Conversation.IsFaithful (s : Surroundings) (n : Nat) (c : Conversation) : Prop where
  number : c.delivery.number = n
  course : Leads (process n c.delivery.payload) c.talk c.rest
  sourced : ∀ group members, ⟨.members group, members⟩ ∈ c.talk →
    ∃ a : Group.Arrival, members = a.members group
  load : ∀ load ∈ c.load, ∃ q next, c.rest = .ask q next ∧ s.IsFor load q

namespace Conversation.IsFaithful

variable {s t : Surroundings} {n : Nat} {c : Conversation}

theorem start (d : Delivery) : (Conversation.start d).IsFaithful s d.number where
  number := rfl
  course := .nil _
  sourced := by simp [Conversation.start]
  load := by simp [Conversation.start]

theorem mono (h : c.IsFaithful s n) (hl : s.IsLater t) : c.IsFaithful t n := by
  refine { h with load := ?_ }
  intro load hc
  obtain ⟨q, next, hr, group, l, hq, hg, hlg⟩ := h.load load hc
  obtain ⟨k, hk, hkg, -⟩ := hl.groups load l hg
  exact ⟨q, next, hr, group, k, hq, hk, hkg.trans hlg⟩

variable {q : Question} {next : Answer q → Dialogue Answer Verdict}
  {outside : (q : Question) → Answer q}

theorem isAnswer (h : c.IsFaithful s n) (hs : s.IsSound) (hr : c.rest = .ask q next)
    (outside : (q : Question) → Answer q) : s.IsAnswer q (s.answer c.load outside q) := by
  apply Surroundings.isAnswer_answer hs
  intro load hc
  obtain ⟨q', next', hr', hf⟩ := h.load load hc
  rw [hr] at hr'
  cases hr'
  exact hf

theorem hear (h : c.IsFaithful s n) (hr : c.rest = .ask q next) {a : Answer q}
    (ha : s.IsAnswer q (.inl a, t)) : (c.hear a next).IsFaithful t n where
  number := h.number
  course := (hr ▸ h.course).concat a
  sourced := by
    intro group members hm
    cases List.mem_append.1 hm with
    | inl hm => exact h.sourced group members hm
    | inr hm => exact ha.sourced a group members rfl (List.mem_singleton.1 hm).symm
  load := by simp [Conversation.hear]

theorem await (h : c.IsFaithful s n) (hr : c.rest = .ask q next) {load : Nat}
    (ha : s.IsAnswer q (.inr load, t)) : (c.await load).IsFaithful t n := by
  refine { h.mono ha.later with load := ?_ }
  intro l hl
  cases hl
  obtain ⟨group, hq, hg⟩ := ha.waits load rfl
  exact ⟨q, next, hr, group, _, hq, hg, rfl⟩

theorem isHonest (h : c.IsFaithful s n) : IsHonest c.talk := by
  intro group text hm
  obtain ⟨a, ha⟩ := h.sourced group _ hm
  exact a.members_ne_invalidArgument group text ha.symm

/-- What is settled by the answer to a question. -/
theorem settlements_hear (h : c.IsFaithful s n) (hr : c.rest = .ask q next) (a : Answer q) :
    act? q = none ∧ settlements (c.hear a next).talk = settlements c.talk ∨
      (q = .ack n ∨ q = .nack n) ∧ settlements c.talk = [] ∧
        settlements (c.hear a next).talk = [q] := by
  have ht : settlements (c.hear a next).talk =
      settlements c.talk ++ if q.settles then [q] else [] := settlements_concat _ _ _
  cases hq : q.settles with
  | false =>
      left
      constructor
      · cases q with
        | ack n => cases hq
        | nack n => cases hq
        | _ => rfl
      · simpa [hq] using ht
  | true =>
      right
      rcases leads_process h.course with ⟨hs, -, q', next', hr', hv⟩ | ⟨v, -, -, -, -, -, hd, -⟩
      · cases hr.symm.trans hr'
        obtain ⟨v, rfl⟩ := hv hq
        refine ⟨?_, hs, by simpa [hq, hs] using ht⟩
        cases v with
        | nacked => exact .inr rfl
        | _ => exact .inl rfl
      · cases hr.symm.trans hd

/-- It has settled nothing yet, or it is over and has settled its delivery by the cause. -/
theorem settled (h : c.IsFaithful s n) :
    settlements c.talk = [] ∧ (∀ v, c.rest ≠ .done v) ∨
      (∃ v, c.rest = .done v) ∧
        (settlements c.talk = [.ack n] ∧ HasCause c.delivery.payload c.talk ∨
          settlements c.talk = [.nack n] ∧ ¬ HasCause c.delivery.payload c.talk) := by
  rcases leads_process h.course with ⟨hs, -, q, next, hr, -⟩ | ⟨v, before, hb, hp, -, hs, hr, -⟩
  · left
    exact ⟨hs, by simp [hr]⟩
  · right
    have hv := judge_iff_hasCause hb hp fun group text hm => h.isHonest group text (hp.subset hm)
    refine ⟨⟨v, hr⟩, ?_⟩
    cases v with
    | nacked => exact .inr ⟨hs, fun hcause => hv.2 hcause rfl⟩
    | acked => exact .inl ⟨hs, hv.1 (by simp)⟩
    | dropped => exact .inl ⟨hs, hv.1 (by simp)⟩

/-- Members come from a look-up; after one that fails nothing is acknowledged. -/
theorem lookUps (h : c.IsFaithful s n) {group : String} {members : Answer (.members group)}
    (hm : ⟨.members group, members⟩ ∈ c.talk) : ∃ a : Group.Arrival, members = a.members group ∧
      (a.Fails → settlements c.talk = [] ∨ settlements c.talk = [.nack n]) := by
  obtain ⟨a, ha⟩ := h.sourced group members hm
  refine ⟨a, ha, fun hfails => ?_⟩
  obtain ⟨fault, hfault⟩ := (Group.Arrival.fails_iff group).1 hfails
  rw [ha, hfault] at hm
  rcases leads_process h.course with ⟨hs, -⟩ | ⟨v, before, hb, hp, -, hs, -, hlook⟩
  · exact .inl hs
  · have hv := nacked_of_lookUpFails hb
      (fun group text hm => h.isHonest group text (hp.subset hm)) (hlook fault ⟨group, hm⟩)
    subst hv
    exact .inr hs

end Conversation.IsFaithful

namespace Pool

variable {workers : Nat} {p : Pool workers}

/-- What every move keeps. -/
structure IsRunning (p : Pool workers) : Prop where
  sound : p.around.IsSound
  faithful : ∀ n c, p.conversations.get? n = some c → c.IsFaithful p.around n
  numbers : ∀ n c, p.conversations.get? n = some c → n < p.stream.next
  handed : ∀ n c, p.conversations.get? n = some c → .handed c.delivery ∈ p.log
  desks : ∀ i n, p.desks i = some n → ∃ c, p.conversations.get? n = some c
  /-- A talk that is not over has a worker. -/
  atDesk : ∀ n c, p.conversations.get? n = some c →
    (∃ i, p.desks i = some n) ∨ ∃ v, c.rest = .done v

theorem IsRunning.new (capacity delay : Nat) (keeps : Bool) :
    IsRunning (new workers capacity delay keeps) where
  sound := ⟨.new capacity delay, .new keeps⟩
  faithful := by simp [Pool.new]
  numbers := by simp [Pool.new]
  handed := by simp [Pool.new]
  desks := by simp [Pool.new]
  atDesk := by simp [Pool.new]

/-- What others do is no matter. -/
theorem IsRunning.around (h : p.IsRunning) {t : Surroundings} (ht : t.IsSound)
    (hl : p.around.IsLater t) : IsRunning { p with around := t } where
  sound := ht
  faithful n c hc := (h.faithful n c hc).mono hl
  numbers n c hc := Nat.lt_of_lt_of_le (h.numbers n c hc) hl.next
  handed n c hc := hl.log (h.handed n c hc)
  desks := h.desks
  atDesk := h.atDesk

/-- A worker goes on with the talk about a delivery. -/
theorem IsRunning.insert (h : p.IsRunning) {i : Fin workers} {n : Nat} {c d : Conversation}
    (hi : p.desks i = some n) (hc : p.conversations.get? n = some c)
    (hf : d.IsFaithful p.around n) (hd : d.delivery = c.delivery) :
    IsRunning { p with conversations := p.conversations.insert n d } := by
  refine ⟨h.sound, ?_, ?_, ?_, ?_, ?_⟩
  · intro m e he
    rcases Table.get?_insert_eq_some_iff.1 he with ⟨rfl, rfl⟩ | ⟨-, he⟩
    · exact hf
    · exact h.faithful m e he
  · intro m e he
    rcases Table.get?_insert_eq_some_iff.1 he with ⟨rfl, rfl⟩ | ⟨-, he⟩
    · exact h.numbers m c hc
    · exact h.numbers m e he
  · intro m e he
    rcases Table.get?_insert_eq_some_iff.1 he with ⟨rfl, rfl⟩ | ⟨-, he⟩
    · exact hd ▸ h.handed m c hc
    · exact h.handed m e he
  · intro j m hj
    by_cases hm : m = n
    · subst hm
      exact ⟨d, Table.get?_insert_self _ _ _⟩
    · obtain ⟨e, he⟩ := h.desks j m hj
      exact ⟨e, by rw [Table.get?_insert, if_neg hm, he]⟩
  · intro m e he
    rcases Table.get?_insert_eq_some_iff.1 he with ⟨rfl, rfl⟩ | ⟨-, he⟩
    · exact .inl ⟨i, hi⟩
    · exact h.atDesk m e he

theorem take?_eq_some {s t : EventStream} {d : Delivery} (h : s.take? = some (d, t)) :
    ∃ e rest, s.queue = e :: rest ∧ d = ⟨s.next, e.attempt, e.payload⟩ ∧ t = { s with
      queue := rest, inFlight := s.inFlight.insert s.next e, next := s.next + 1 } := by
  unfold take? at h
  cases hq : s.queue with
  | nil => simp [hq] at h
  | cons e rest =>
      rw [hq] at h
      cases h
      exact ⟨e, rest, rfl, rfl, rfl⟩

/-- A worker receives a delivery. -/
theorem IsRunning.receive (h : p.IsRunning) {i : Fin workers} {d : Delivery} {s : EventStream}
    (hi : p.desks i = none) (ht : p.stream.take? = some (d, s)) : IsRunning {
      around := { p.around with ledger := ⟨p.log ++ [.handed d], s⟩ }
      conversations := p.conversations.insert d.number (.start d)
      desks := Function.update p.desks i (some d.number) } := by
  obtain ⟨e, rest, -, hd, hs⟩ := take?_eq_some ht
  have hn : d.number = p.stream.next := by rw [hd]
  have hl : p.around.IsLater { p.around with ledger := ⟨p.log ++ [.handed d], s⟩ } :=
    ⟨.refl _, by rw [hs]; exact Nat.le_succ _, List.subset_append_left _ _⟩
  refine ⟨⟨h.sound.stream.take ht, h.sound.groups⟩, ?_, ?_, ?_, ?_, ?_⟩
  · intro m c hc
    rcases Table.get?_insert_eq_some_iff.1 hc with ⟨rfl, rfl⟩ | ⟨-, hc⟩
    · exact .start d
    · exact (h.faithful m c hc).mono hl
  · intro m c hc
    rcases Table.get?_insert_eq_some_iff.1 hc with ⟨rfl, rfl⟩ | ⟨-, hc⟩
    · rw [hn]
      exact hs ▸ Nat.lt_succ_self _
    · exact Nat.lt_of_lt_of_le (h.numbers m c hc) hl.next
  · intro m c hc
    rcases Table.get?_insert_eq_some_iff.1 hc with ⟨rfl, rfl⟩ | ⟨-, hc⟩
    · exact List.mem_append_right _ (List.mem_singleton_self _)
    · exact hl.log (h.handed m c hc)
  · intro j m hj
    by_cases hji : j = i
    · subst hji
      obtain rfl : d.number = m := by simpa using hj
      exact ⟨_, Table.get?_insert_self _ _ _⟩
    · have hj : p.desks j = some m := by simpa [Function.update_of_ne hji] using hj
      obtain ⟨c, hc⟩ := h.desks j m hj
      have hm : m ≠ d.number := by
        have := h.numbers m c hc
        omega
      exact ⟨c, Table.get?_insert_eq_some_iff.2 (.inr ⟨hm, hc⟩)⟩
  · intro m c hc
    rcases Table.get?_insert_eq_some_iff.1 hc with ⟨rfl, rfl⟩ | ⟨-, hc⟩
    · exact .inl ⟨i, Function.update_self _ _ _⟩
    · rcases h.atDesk m c hc with ⟨j, hj⟩ | hv
      · have hji : j ≠ i := by
          rintro rfl
          rw [hi] at hj
          cases hj
        exact .inl ⟨j, by simpa [Function.update_of_ne hji] using hj⟩
      · exact .inr hv

/-- A worker leaves a talk that is over. -/
theorem IsRunning.leave (h : p.IsRunning) {i : Fin workers} {n : Nat} {c : Conversation}
    {v : Verdict} (hi : p.desks i = some n) (hc : p.conversations.get? n = some c)
    (hr : c.rest = .done v) :
    IsRunning { p with desks := Function.update p.desks i none } := by
  refine { h with desks := ?_, atDesk := ?_ }
  · intro j m hj
    by_cases hji : j = i
    · subst hji
      simp at hj
    · exact h.desks j m (by simpa [Function.update_of_ne hji] using hj)
  · intro m e he
    rcases h.atDesk m e he with ⟨j, hj⟩ | hv
    · by_cases hji : j = i
      · subst hji
        cases hi.symm.trans hj
        cases hc.symm.trans he
        exact .inr ⟨v, hr⟩
      · exact .inl ⟨j, by simpa [Function.update_of_ne hji] using hj⟩
    · exact .inr hv

/-- Every step of a worker keeps the talks going. -/
theorem IsRunning.works (h : p.IsRunning) {i : Fin workers}
    {outside : (q : Question) → Answer q} {r : Pool workers} (hw : Works p i outside r) :
    r.IsRunning := by
  cases hw with
  | idle => exact h
  | receive d s hi ht => exact h.receive hi ht
  | leave n c v hi hc hr => exact h.leave hi hc hr
  | hear n c q next a t hi hc hr ha =>
      have hf := h.faithful n c hc
      have hs := ha ▸ hf.isAnswer h.sound hr outside
      exact (h.around hs.sound hs.later).insert hi hc (hf.hear hr hs) rfl
  | wait n c q next load t hi hc hr ha =>
      have hf := h.faithful n c hc
      have hs := ha ▸ hf.isAnswer h.sound hr outside
      exact (h.around hs.sound hs.later).insert hi hc (hf.await hr hs) rfl

theorem IsRunning.move (h : p.IsRunning) (m : Move workers) : (p.move m).IsRunning := by
  cases m with
  | work i outside => exact h.works (works_work (h.desks i) outside)
  | arrive load a =>
      obtain ⟨hs, hl⟩ := h.sound.groups.arrive load a
      exact h.around ⟨h.sound.stream, hs⟩ ⟨hl, Nat.le_refl _, fun _ hx => hx⟩
  | act a =>
      obtain ⟨hs, hl⟩ := h.sound.act a
      exact h.around hs hl
  | ask group =>
      obtain ⟨hs, hl, -⟩ := h.sound.groups.ask group
      exact h.around ⟨h.sound.stream, hs⟩ ⟨hl, Nat.le_refl _, fun _ hx => hx⟩
  | invalidate group =>
      obtain ⟨hs, hl⟩ := h.sound.groups.invalidate group
      exact h.around ⟨h.sound.stream, hs⟩ ⟨hl, Nat.le_refl _, fun _ hx => hx⟩

/-- What is kept as long as nobody else receives: the workers have every delivery that was handed
out, and a delivery in flight is not settled yet. -/
structure IsSole (p : Pool workers) : Prop where
  handed : ∀ d, .handed d ∈ p.log → ∃ c, p.conversations.get? d.number = some c ∧ c.delivery = d
  inFlight : ∀ n ∈ p.stream.inFlight.keys,
    ∃ c, p.conversations.get? n = some c ∧ settlements c.talk = []

theorem IsSole.new (capacity delay : Nat) (keeps : Bool) :
    IsSole (new workers capacity delay keeps) where
  handed := by simp [Pool.new, log]
  inFlight := by simp [Pool.new, stream, EventStream.new, Table.mem_keys_iff]

theorem IsSole.act (h : p.IsSole) {a : Act (List UInt8)} (ha : a ≠ .take) :
    IsSole { p with around := p.around.act a } where
  handed := by
    intro d hd
    cases List.mem_append.1 hd with
    | inl hd => exact h.handed d hd
    | inr hd => exact absurd (eq_take_of_note _ _ (List.mem_singleton.1 hd).symm) ha
  inFlight := by
    intro n hn
    apply h.inFlight n
    have hf := (inFlight_after p.log p.stream ha).2
    have hn : n ∈ (after p.log p.stream a).inFlight.keys := hn
    rw [hf] at hn
    split at hn
    · exact Table.mem_keys_of_mem_erase hn
    · exact hn

/-- A worker goes on with the talk about a delivery, and settles it or leaves the stream alone. -/
theorem IsSole.insert (h : p.IsSole) {n : Nat} {c d : Conversation} {t : Surroundings}
    (hc : p.conversations.get? n = some c) (hd : d.delivery = c.delivery)
    (ht : t.ledger = p.around.ledger ∧ settlements d.talk = settlements c.talk ∨
      ∃ a, a.number? = some n ∧ a ≠ .take ∧ t.ledger = p.around.ledger.step a) :
    IsSole { p with around := t, conversations := p.conversations.insert n d } := by
  have hs : IsSole { p with around := t } ∧ ∀ m ∈ t.ledger.stream.inFlight.keys,
      m = n → settlements d.talk = settlements c.talk := by
    rcases ht with ⟨hl, hs⟩ | ⟨a, ha, hat, hl⟩
    · refine ⟨⟨?_, ?_⟩, fun _ _ _ => hs⟩
      · exact fun d hd => h.handed d (by simpa [log, hl] using hd)
      · exact fun m hm => h.inFlight m (by simpa [stream, hl] using hm)
    · have hsole := h.act hat
      refine ⟨⟨?_, ?_⟩, ?_⟩
      · exact fun d hd => hsole.handed d (by simpa [log, hl, Surroundings.act] using hd)
      · exact fun m hm => hsole.inFlight m (by simpa [stream, hl, Surroundings.act] using hm)
      · rintro m hm rfl
        have hf := (inFlight_after p.log p.stream hat).2
        rw [ha] at hf
        have hm : m ∈ (after p.log p.stream a).inFlight.keys := by
          rw [hl] at hm
          exact hm
        rw [hf] at hm
        obtain ⟨e, he⟩ := Table.mem_keys_iff.1 hm
        rw [Table.get?_erase_self] at he
        cases he
  obtain ⟨hsole, hsame⟩ := hs
  constructor
  · intro x hx
    obtain ⟨e, he, hed⟩ := hsole.handed x hx
    by_cases hn : x.number = n
    · subst hn
      cases hc.symm.trans he
      exact ⟨d, Table.get?_insert_self _ _ _, hd.trans hed⟩
    · exact ⟨e, by rw [Table.get?_insert, if_neg hn, he], hed⟩
  · intro m hm
    obtain ⟨e, he, hes⟩ := hsole.inFlight m hm
    by_cases hn : m = n
    · subst hn
      cases hc.symm.trans he
      exact ⟨d, Table.get?_insert_self _ _ _, (hsame m hm rfl).trans hes⟩
    · exact ⟨e, by rw [Table.get?_insert, if_neg hn, he], hes⟩

theorem ledger_hear (h : p.IsRunning) {n : Nat} {c : Conversation} {q : Question}
    {next : Answer q → Dialogue Answer Verdict} {a : Answer q} {t : Surroundings}
    {outside : (q : Question) → Answer q} (hc : p.conversations.get? n = some c)
    (hr : c.rest = .ask q next) (ha : p.around.answer c.load outside q = (.inl a, t)) :
    t.ledger = p.around.ledger ∧ settlements (c.hear a next).talk = settlements c.talk ∨
      settlements c.talk = [] ∧ ∃ b, (b = .ack n ∧ settlements (c.hear a next).talk = [.ack n] ∨
        b = .nack n ∧ settlements (c.hear a next).talk = [.nack n]) ∧
        t.ledger = p.around.ledger.step b := by
  have hf := h.faithful n c hc
  have hl := (ha ▸ hf.isAnswer h.sound hr outside).ledger
  rcases hf.settlements_hear hr a with ⟨hq, hs⟩ | ⟨rfl | rfl, hs, ht⟩
  · left
    rw [hq] at hl
    exact ⟨hl, hs⟩
  · exact .inr ⟨hs, .ack n, .inl ⟨rfl, ht⟩, hl⟩
  · exact .inr ⟨hs, .nack n, .inr ⟨rfl, ht⟩, hl⟩

theorem ledger_wait (h : p.IsRunning) {n : Nat} {c : Conversation} {q : Question}
    {next : Answer q → Dialogue Answer Verdict} {load : Nat} {t : Surroundings}
    {outside : (q : Question) → Answer q} (hc : p.conversations.get? n = some c)
    (hr : c.rest = .ask q next) (ha : p.around.answer c.load outside q = (.inr load, t)) :
    t.ledger = p.around.ledger := by
  have hs := ha ▸ (h.faithful n c hc).isAnswer h.sound hr outside
  obtain ⟨group, rfl, -⟩ := hs.waits load rfl
  exact hs.ledger

theorem IsSole.works (h : p.IsSole) (hp : p.IsRunning) {i : Fin workers}
    {outside : (q : Question) → Answer q} {r : Pool workers} (hw : Works p i outside r) :
    r.IsSole := by
  cases hw with
  | idle => exact h
  | receive d s hi ht =>
      obtain ⟨e, rest, -, hd, hs⟩ := take?_eq_some ht
      have hn : d.number = p.stream.next := by rw [hd]
      have old : ∀ m c, p.conversations.get? m = some c →
          (p.conversations.insert d.number (.start d)).get? m = some c := by
        intro m c hc
        have := hp.numbers m c hc
        rw [Table.get?_insert, if_neg (by omega), hc]
      constructor
      · intro x hx
        cases List.mem_append.1 hx with
        | inl hx =>
            obtain ⟨c, hc, hcx⟩ := h.handed x hx
            exact ⟨c, old _ c hc, hcx⟩
        | inr hx =>
            cases List.mem_singleton.1 hx
            exact ⟨.start d, Table.get?_insert_self _ _ _, rfl⟩
      · intro m hm
        have hm : m ∈ s.inFlight.keys := hm
        rw [hs] at hm
        rcases Table.mem_keys_insert_iff.1 hm with rfl | hm
        · exact ⟨.start d, hn ▸ Table.get?_insert_self _ _ _, rfl⟩
        · obtain ⟨c, hc, hcs⟩ := h.inFlight m hm
          exact ⟨c, old m c hc, hcs⟩
  | leave n c v hi hc hr => exact ⟨h.handed, h.inFlight⟩
  | hear n c q next a t hi hc hr ha =>
      apply h.insert hc (d := c.hear a next) rfl
      rcases ledger_hear hp hc hr ha with hl | ⟨-, b, ⟨rfl, -⟩ | ⟨rfl, -⟩, hl⟩
      · exact .inl hl
      · exact .inr ⟨.ack n, rfl, by simp, hl⟩
      · exact .inr ⟨.nack n, rfl, by simp, hl⟩
  | wait n c q next load t hi hc hr ha =>
      exact h.insert hc rfl (.inl ⟨ledger_wait hp hc hr ha, rfl⟩)

theorem IsSole.move (h : p.IsSole) (hp : p.IsRunning) {m : Move workers} (hm : m ≠ .act .take) :
    (p.move m).IsSole := by
  cases m with
  | work i outside => exact h.works hp (works_work (hp.desks i) outside)
  | act a => exact h.act fun ha => hm (ha ▸ rfl)
  | arrive load a => exact ⟨h.handed, h.inFlight⟩
  | ask group => exact ⟨h.handed, h.inFlight⟩
  | invalidate group => exact ⟨h.handed, h.inFlight⟩

/-- Whether a delivery is in flight until its settlement, and its settlement took effect. -/
structure IsEffective (l : Ledger (List UInt8)) (n : Nat) (c : Conversation) : Prop where
  inFlight : settlements c.talk = [] → l.stream.delivery? n = some c.delivery
  acked : settlements c.talk = [.ack n] → .acked c.delivery ∈ l.log
  nacked : settlements c.talk = [.nack n] → .nacked c.delivery ∈ l.log ∨ .dropped c.delivery ∈ l.log

/-- A delivery is in flight as before, unless it is settled. -/
theorem delivery?_after (log : List (Note (List UInt8))) {s : EventStream}
    {a : Act (List UInt8)} {n : Nat} (hn : n < s.next) (ha : a.number? ≠ some n) :
    (after log s a).delivery? n = s.delivery? n := by
  unfold delivery?
  by_cases ht : a = .take
  · subst ht
    cases hq : s.queue with
    | nil => simp [after, take?, hq]
    | cons e rest =>
        have hne : n ≠ s.next := Nat.ne_of_lt hn
        simp [after, take?, hq, Table.get?_insert, hne]
  · rw [(inFlight_after log s ht).2]
    cases hm : a.number? with
    | none => rfl
    | some m =>
        have hnm : n ≠ m := by
          rintro rfl
          exact ha hm
        simp [Table.get?_erase, hnm]

theorem IsEffective.step {l : Ledger (List UInt8)} {n : Nat} {c : Conversation}
    (h : IsEffective l n c) (hn : n < l.stream.next) {a : Act (List UInt8)}
    (ha : a.number? ≠ some n) : IsEffective (l.step a) n c where
  inFlight hs := (delivery?_after l.log hn ha).trans (h.inFlight hs)
  acked hs := List.mem_append_left _ (h.acked hs)
  nacked hs := (h.nacked hs).imp (List.mem_append_left _) (List.mem_append_left _)

/-- A settlement takes effect. -/
theorem IsEffective.settle {l : Ledger (List UInt8)} {n : Nat} {c d : Conversation}
    (h : IsEffective l n c) (hs : settlements c.talk = []) (hd : d.delivery = c.delivery)
    {a : Act (List UInt8)} (ha : a = .ack n ∧ settlements d.talk = [.ack n] ∨
      a = .nack n ∧ settlements d.talk = [.nack n]) : IsEffective (l.step a) n d := by
  obtain ⟨hk, hr⟩ := note_settle l.log (h.inFlight hs)
  have hm : note l.log l.stream a ∈ (l.step a).log :=
    List.mem_append_right _ (List.mem_singleton_self _)
  rcases ha with ⟨rfl, ht⟩ | ⟨rfl, ht⟩
  · refine ⟨by simp [ht], fun _ => ?_, by simp [ht]⟩
    rw [hd, ← hk]
    exact hm
  · refine ⟨by simp [ht], by simp [ht], fun _ => ?_⟩
    rw [hd]
    cases hr with
    | inl hr => exact .inl (hr ▸ hm)
    | inr hr => exact .inr (hr ▸ hm)

/-- What is kept as long as nobody else settles. -/
def AreEffective (p : Pool workers) : Prop :=
  ∀ n c, p.conversations.get? n = some c → IsEffective p.around.ledger n c

theorem AreEffective.works (h : p.AreEffective) (hp : p.IsRunning) {i : Fin workers}
    {outside : (q : Question) → Answer q} {r : Pool workers} (hw : Works p i outside r) :
    r.AreEffective := by
  cases hw with
  | idle => exact h
  | receive d s hi ht =>
      obtain ⟨e, rest, -, hd, hs⟩ := take?_eq_some ht
      intro m c hc
      rcases Table.get?_insert_eq_some_iff.1 hc with ⟨rfl, rfl⟩ | ⟨-, hc⟩
      · have hf : s.delivery? d.number = some d := by simp [delivery?, hd, hs]
        exact ⟨fun _ => hf, by simp [Conversation.start, settlements],
          by simp [Conversation.start, settlements]⟩
      · exact step_take ht ▸ (h m c hc).step (hp.numbers m c hc) (by simp [Act.number?])
  | leave n c v hi hc hr => exact h
  | hear n c q next a t hi hc hr ha =>
      have hl := ledger_hear hp hc hr ha
      intro m e he
      rcases Table.get?_insert_eq_some_iff.1 he with ⟨rfl, rfl⟩ | ⟨hmn, he⟩
      · rcases hl with ⟨hl, hs⟩ | ⟨hs, b, hb, hl⟩
        · have hn := h m c hc
          dsimp only
          rw [hl]
          exact ⟨hs ▸ hn.inFlight, hs ▸ hn.acked, hs ▸ hn.nacked⟩
        · dsimp only
          rw [hl]
          exact (h m c hc).settle hs (d := c.hear a next) rfl hb
      · have hn := h m e he
        dsimp only
        rcases hl with ⟨hl, -⟩ | ⟨-, b, hb, hl⟩
        · rw [hl]
          exact hn
        · have hbm : b.number? ≠ some m := by
            rcases hb with ⟨rfl, -⟩ | ⟨rfl, -⟩ <;> simpa [Act.number?] using Ne.symm hmn
          rw [hl]
          exact hn.step (hp.numbers m e he) hbm
  | wait n c q next load t hi hc hr ha =>
      have hl := ledger_wait hp hc hr ha
      intro m e he
      dsimp only
      rw [hl]
      rcases Table.get?_insert_eq_some_iff.1 he with ⟨rfl, rfl⟩ | ⟨-, he⟩
      · have hn := h m c hc
        exact ⟨hn.inFlight, hn.acked, hn.nacked⟩
      · exact h m e he

theorem AreEffective.move (h : p.AreEffective) (hp : p.IsRunning) {m : Move workers}
    (hm : ∀ n, m ≠ .act (.ack n) ∧ m ≠ .act (.nack n)) : (p.move m).AreEffective := by
  cases m with
  | work i outside => exact h.works hp (works_work (hp.desks i) outside)
  | act a =>
      intro n c hc
      apply (h n c hc).step (hp.numbers n c hc)
      intro ha
      cases a with
      | ack k => exact (hm k).1 rfl
      | nack k => exact (hm k).2 rfl
      | _ => cases ha
  | arrive load a => exact h
  | ask group => exact h
  | invalidate group => exact h

/-- Each delivery in flight has a worker of its own. -/
theorem IsSole.size_le (h : p.IsSole) (hp : p.IsRunning) : p.stream.inFlight.size ≤ workers := by
  have hsub : p.stream.inFlight.keys ⊆ (List.finRange workers).filterMap p.desks := by
    intro n hn
    obtain ⟨c, hc, hs⟩ := h.inFlight n hn
    rcases hp.atDesk n c hc with ⟨i, hi⟩ | ⟨v, hv⟩
    · exact List.mem_filterMap.2 ⟨i, List.mem_finRange i, hi⟩
    · rcases leads_process (hp.faithful n c hc).course with
        ⟨-, -, q, next, hr, -⟩ | ⟨w, -, -, -, -, ht, -⟩
      · cases hv.symm.trans hr
      · cases hs.symm.trans ht
  calc
    p.stream.inFlight.size = p.stream.inFlight.keys.length := by simp [Table.size, Table.keys]
    _ ≤ ((List.finRange workers).filterMap p.desks).length :=
        (p.stream.inFlight.nodup.subperm hsub).length_le
    _ ≤ (List.finRange workers).length := List.length_filterMap_le _ _
    _ = workers := List.length_finRange

/-- What is true of the talk about a delivery at every moment. -/
structure IsDutiful (p : Pool workers) (n : Nat) (c : Conversation) : Prop where
  /-- It is the talk about a delivery that the stream handed out under this number. -/
  course : c.delivery.number = n ∧ .handed c.delivery ∈ p.log ∧
    Leads (process n c.delivery.payload) c.talk c.rest
  /-- It is not over, and a worker goes on with it, or it has settled the delivery once. -/
  settled : settlements c.talk = [] ∧ (∃ i, p.desks i = some n) ∧ (∀ v, c.rest ≠ .done v) ∨
    (∃ v, c.rest = .done v) ∧
      (settlements c.talk = [.ack n] ∧ HasCause c.delivery.payload c.talk ∨
        settlements c.talk = [.nack n] ∧ ¬ HasCause c.delivery.payload c.talk)
  /-- Members come from look-ups; after one that fails the delivery is not acknowledged. -/
  lookUps : ∀ group members, ⟨.members group, members⟩ ∈ c.talk →
    ∃ a : Group.Arrival, members = a.members group ∧
      (a.Fails → settlements c.talk = [] ∨ settlements c.talk = [.nack n])
  short : c.talk.length ≤ 3
  /-- A worker who takes a turn leaves it if it is over, and else asks the next question, unless it
  waits for a look-up that is under way. -/
  goesOn : ∀ i outside, p.desks i = some n →
    (∃ v, c.rest = .done v) ∧ (p.work i outside).desks i = none ∨
      ∃ d, (p.work i outside).conversations.get? n = some d ∧
        ((∃ x, d.talk = c.talk ++ [x]) ∨ ∃ load group, d.load = some load ∧
          (p.work i outside).around.groups.loads.get? load = some ⟨group, none⟩)

/-- A worker with a talk leaves it, has it go on or waits. -/
theorem IsRunning.goesOn (h : p.IsRunning) {n : Nat} {c : Conversation}
    (hc : p.conversations.get? n = some c) {i : Fin workers} (hi : p.desks i = some n)
    (outside : (q : Question) → Answer q) :
    (∃ v, c.rest = .done v) ∧ (p.work i outside).desks i = none ∨
      ∃ d, (p.work i outside).conversations.get? n = some d ∧
        ((∃ x, d.talk = c.talk ++ [x]) ∨ ∃ load group, d.load = some load ∧
          (p.work i outside).around.groups.loads.get? load = some ⟨group, none⟩) := by
  have hw := works_work (h.desks i) outside
  generalize p.work i outside = r at hw
  cases hw with
  | idle hn => cases hi.symm.trans hn
  | receive d s hn => cases hi.symm.trans hn
  | leave m e v hm he hr =>
      cases hi.symm.trans hm
      cases hc.symm.trans he
      exact .inl ⟨⟨v, hr⟩, Function.update_self _ _ _⟩
  | hear m e q next a t hm he hr ha =>
      cases hi.symm.trans hm
      cases hc.symm.trans he
      exact .inr ⟨_, Table.get?_insert_self _ _ _, .inl ⟨_, rfl⟩⟩
  | wait m e q next load t hm he hr ha =>
      cases hi.symm.trans hm
      cases hc.symm.trans he
      have hs := (h.faithful n c hc).isAnswer h.sound hr outside
      obtain ⟨group, -, hg⟩ := (ha ▸ hs).waits load rfl
      exact .inr ⟨_, Table.get?_insert_self _ _ _, .inr ⟨load, group, rfl, hg⟩⟩

theorem IsRunning.isDutiful (h : p.IsRunning) {n : Nat} {c : Conversation}
    (hc : p.conversations.get? n = some c) : p.IsDutiful n c := by
  have hf := h.faithful n c hc
  exact {
    course := ⟨hf.number, h.handed n c hc, hf.course⟩
    settled := by
      apply hf.settled.imp_left
      rintro ⟨hs, hn⟩
      rcases h.atDesk n c hc with hi | ⟨v, hv⟩
      · exact ⟨hs, hi, hn⟩
      · exact absurd hv (hn v)
    lookUps := fun _ _ hm => hf.lookUps hm
    short := by
      rcases leads_process hf.course with ⟨-, ht, -⟩ | ⟨-, -, -, -, ht, -⟩
      · exact Nat.le_succ_of_le ht
      · exact ht
    goesOn := fun _ outside hi => h.goesOn hc hi outside }

theorem isRunning_run (capacity delay : Nat) (keeps : Bool) (moves : List (Move workers)) :
    let p := (new workers capacity delay keeps).run moves
    p.IsRunning ∧ ((∀ m ∈ moves, m ≠ .act .take) → p.IsSole) ∧
      ((∀ m ∈ moves, ∀ n, m ≠ .act (.ack n) ∧ m ≠ .act (.nack n)) → p.AreEffective) := by
  induction moves using List.reverseRecOn with
  | nil =>
      refine ⟨.new capacity delay keeps, fun _ => .new capacity delay keeps, fun _ n c hc => ?_⟩
      cases hc
  | append_singleton moves m ih =>
      obtain ⟨hp, hsole, heff⟩ := ih
      simp only [run, List.foldl_append, List.foldl_cons, List.foldl_nil] at hp hsole heff ⊢
      refine ⟨hp.move m, fun hm => ?_, fun hm => ?_⟩
      · exact (hsole fun x hx => hm x (List.mem_append_left _ hx)).move hp (hm m (by simp))
      · exact (heff fun x hx => hm x (List.mem_append_left _ hx)).move hp (hm m (by simp))

/-- In every run of a pool of workers, each delivery that they have received is settled once at
most, and acknowledged for a cause only. As long as nobody else receives, they have received all
deliveries, and no more are in flight than there are workers; as long as nobody else settles, their
settlements take effect. -/
theorem isDutiful_run (capacity delay : Nat) (keeps : Bool) (moves : List (Move workers)) :
    let p := (new workers capacity delay keeps).run moves
    (∀ n c, p.conversations.get? n = some c → p.IsDutiful n c) ∧
      ((∀ m ∈ moves, m ≠ .act .take) →
        (∀ d, .handed d ∈ p.log → ∃ c, p.conversations.get? d.number = some c ∧ c.delivery = d) ∧
          p.stream.inFlight.size ≤ workers) ∧
      ((∀ m ∈ moves, ∀ n, m ≠ .act (.ack n) ∧ m ≠ .act (.nack n)) →
        ∀ n c, p.conversations.get? n = some c → IsEffective p.around.ledger n c) := by
  intro p
  obtain ⟨hp, hsole, heff⟩ := isRunning_run capacity delay keeps moves
  refine ⟨fun n c hc => hp.isDutiful hc, fun hm => ?_, heff⟩
  exact ⟨(hsole hm).handed, (hsole hm).size_le hp⟩

/-- A world that knows nothing. -/
def silent : (q : Question) → Answer q
  | .now | .nowMs => (0 : Int)
  | .freshId => ""
  | .deliver .. => (⟨[]⟩ : Report)
  | .lookupToken .. | .issueToken .. | .kickTokens _ | .register _ | .unregister _ | .invalidate _
  | .publish _ | .ack _ | .nack _ | .members _ => .error .tokenUnknown

/-- The look-up of a group comes too late for an event to it, but not for bytes that are none. -/
example :
    let e := Utf8.encode "\x7b\"sender_id\":\"a\",\"selector\":\"group:g\"\x7d".toList
    ((new 1 4 0 true).run [.act (.publish e), .act (.publish []), .work 0 silent, .work 0 silent,
      .arrive 0 .late, .work 0 silent, .work 0 silent, .work 0 silent, .work 0 silent,
      .work 0 silent]).log = [.published e, .published [], .handed ⟨1, 1, e⟩, .nacked ⟨1, 1, e⟩,
        .handed ⟨2, 1, []⟩, .acked ⟨2, 1, []⟩] := by
  decide +kernel

end Pool

end Courier.Push
