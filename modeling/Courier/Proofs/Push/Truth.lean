import Courier.Proofs.Push.Beside
import Courier.Proofs.Push.Outcome

/-!
# Reports tell the truth

A report says of each recipient what became of an event. Main statement: the outcome of a recipient
other than the sender is online exactly if the event came to one of its sessions, offline exactly if
it came to none and a vendor showed its notification, and anything else exactly if neither happened.
No inbox gets the event twice, no registration is handed to a vendor twice, and no vendor hears of a
user with an open session.
-/

namespace Courier.Push

open Dialogue

/-- What comes of the questions of a dispatch: any members, and deliveries that go on beside each
other. -/
inductive Pushes (vendors : List Vendor) (store : RegistrationStore) :
    Registry → List (Exchange Answer) → List Call → Registry → Prop where
  | nil (r : Registry) : Pushes vendors store r [] [] r
  | members {r t : Registry} {talk : List (Exchange Answer)} {calls : List Call} (group : String)
    (answer : Except ServiceError (List String)) :
    Pushes vendors store r talk calls t →
    Pushes vendors store r (⟨.members group, answer⟩ :: talk) calls t
  | round {r r' t : Registry} {talk : List (Exchange Answer)} {first calls : List Call}
    {recipients : List String} {e : Event} {report : Report} :
    Ends store r (recipients.map fun user => (user, deliver vendors user e)) first
      report.outcomes r' →
    Pushes vendors store r' talk calls t →
    Pushes vendors store r (⟨.deliver recipients e, report⟩ :: talk) (first ++ calls) t

/-- Whether an event came to a session of a user between two registries. -/
def Reaches (r t : Registry) (user : String) (e : Event) : Prop :=
  ∃ s ∈ r.sessions user, r.Receives t e s.number

/-- Whether the outcome for a recipient is what happened: what came to the sessions, and what the
vendors said. -/
structure IsTrue (store : RegistrationStore) (e : Event) (r t : Registry) (user : String)
    (talk : List (Exchange DeliveryAnswer)) (outcome : Outcome) : Prop where
  online : outcome = .deliveredOnline ↔ Reaches r t user e
  offline : outcome = .deliveredOffline ↔ ¬ Reaches r t user e ∧ IsShown talk
  neither : outcome = .noOfflineProvider ∨ outcome.isFailed = true ↔
    ¬ Reaches r t user e ∧ ¬ IsShown talk
  handed : (targets talk).Sublist ((store.ofUser user).map .ofRegistration)
  live : (∃ s ∈ r.sessions user, r.IsOpen s) → targets talk = []

variable {vendors : List Vendor} {store : RegistrationStore} {e : Event} {r t : Registry}
  {talks : List (String × Talk)} {calls : List Call} {user : String}

/-- No inbox gets an event twice. -/
theorem IsLedger.eq_or_receives (h : IsLedger vendors e r talks calls t) (number : Nat) :
    t.inbox? number = r.inbox? number ∨ r.Receives t e number := by
  by_cases hx : ∃ x ∈ talks, x.2 = deliver vendors x.1 e ∧ number ∈ r.takers x.1 e
  · obtain ⟨x, hm, hf, hn⟩ := hx
    obtain ⟨s, -, ho, rfl⟩ := Registry.mem_takers_iff.1 hn
    obtain ⟨waiting, hw⟩ := Registry.isOpen_of_taken ho
    exact .inr ⟨waiting, hw, by rw [h.taken x hm hf _ hn, hw]; rfl⟩
  · exact .inl (h.kept number fun x hm hf hn => hx ⟨x, hm, hf, hn⟩)

theorem IsLedger.reaches_iff (h : IsLedger vendors e r talks calls t) (hr : r.IsOwned)
    (hm : (user, deliver vendors user e) ∈ talks) :
    Reaches r t user e ↔ r.takers user e ≠ [] := by
  constructor
  · rintro ⟨s, hs, waiting, hw, ht⟩ hnil
    have hk : t.inbox? s.number = r.inbox? s.number := by
      refine h.kept s.number fun x _ _ hn => ?_
      obtain ⟨s', hs', -, hnum⟩ := Registry.mem_takers_iff.1 hn
      obtain rfl := hr.owner x.1 user s' hs' s hs hnum
      rw [hnil] at hn
      cases hn
    rw [ht, hw] at hk
    simp at hk
  · intro hne
    obtain ⟨number, hn⟩ := List.exists_mem_of_ne_nil _ hne
    obtain ⟨s, hs, ho, rfl⟩ := Registry.mem_takers_iff.1 hn
    obtain ⟨waiting, hw⟩ := Registry.isOpen_of_taken ho
    exact ⟨s, hs, waiting, hw, by rw [h.taken _ hm rfl _ hn, hw]; rfl⟩

section Round

variable {recipients : List String} {outcomes : List (String × Outcome)}
  (h : Ends store r (recipients.map fun user => (user, deliver vendors user e)) calls outcomes t)
  (hr : r.IsOwned) (hn : recipients.Nodup)

include h

theorem Ends.map_fst_round : outcomes.map Prod.fst = recipients := by
  rw [h.map_fst, List.map_map]
  exact List.map_id _

include hn hr

theorem Ends.isLedger_round :
    IsLedger vendors e r (recipients.map fun user => (user, deliver vendors user e)) calls t := by
  refine h.isLedger hr ?_ fun x hx => ?_
  · rwa [← h.map_fst, h.map_fst_round]
  · obtain ⟨v, -, rfl⟩ := List.mem_map.1 hx
    exact .inl rfl

/-- The deliveries of an event to different users tell the truth. -/
theorem Ends.isTrue {outcome : Outcome} (ho : (user, outcome) ∈ outcomes) (hu : user ≠ e.sender) :
    IsTrue store e r t user (callsFor user calls) outcome := by
  have ledger := h.isLedger_round hr hn
  obtain ⟨d, hd, hl⟩ := h.exists_leads (by rwa [← h.map_fst, h.map_fst_round]) ho
  obtain ⟨v, -, hv⟩ := List.mem_map.1 hd
  cases hv
  have timely : IsTimely store (callsFor user calls) := fun x hx =>
    h.exists_replies (mem_callsFor.1 hx)
  obtain ⟨result, tail, htalk, honline, hoffline, hsub, hlive⟩ := leads_deliver hl hu timely
  have hresult : result = r.resultOf user e := by
    have hc : ⟨.online user e, some result⟩ ∈ callsFor user calls := by simp [htalk]
    exact Option.some.inj (ledger.answered user user e _ (mem_callsFor.1 hc)).2
  subst hresult
  have hreach := ledger.reaches_iff hr hd
  rw [Registry.exists_delivered_iff, ← hreach] at honline
  have shown : IsShown (callsFor user calls) → ¬ Reaches r t user e := by
    intro hs hre
    refine hs.targets_ne_nil (hlive fun hnone => ?_)
    obtain ⟨n, hdel⟩ := Registry.exists_delivered_iff.2 (hreach.1 hre)
    cases hdel.symm.trans hnone
  constructor
  · exact honline
  · exact hoffline.trans ⟨fun hs => ⟨shown hs, hs⟩, And.right⟩
  · rw [← honline, ← hoffline]
    cases outcome <;> simp [Outcome.isFailed, Outcome.reason?]
  · exact hsub
  · rintro ⟨s, hs, hopen⟩
    exact hlive (Registry.resultOf_ne_noLiveSession hu hs hopen)

end Round

/-- A dispatch brings a report of deliveries to different users, or fails with nothing delivered. -/
theorem Pushes.of_dispatch {talk : List (Exchange Answer)} {result : Except ServiceError Report}
    (h : Pushes vendors store r talk calls t)
    (hl : Leads (dispatch e).run talk (.done result)) :
    (∃ fault, result = .error fault ∧ calls = [] ∧ t = r) ∨
      ∃ (recipients : List String) (report : Report), result = .ok report ∧ recipients.Nodup ∧
        Ends store r (recipients.map fun user => (user, deliver vendors user e)) calls
          report.outcomes t := by
  have delivered : ∀ {recipients : List String} {report : Report} {calls : List Call},
      Pushes vendors store r [⟨.deliver recipients e, report⟩] calls t →
      Ends store r (recipients.map fun user => (user, deliver vendors user e)) calls
        report.outcomes t := by
    intro recipients report calls h
    cases h with
    | round h hn =>
        cases hn
        rwa [List.append_nil]
  by_cases hs : e.sender = ""
  · rw [dispatch_of_sender_eq hs] at hl
    obtain ⟨rfl, rfl⟩ := leads_done_done_iff.1 hl
    cases h
    exact .inl ⟨_, rfl, rfl, rfl⟩
  · cases he : e.selector with
    | direct user =>
        rw [dispatch_direct hs he] at hl
        obtain ⟨report, tail, rfl, hn⟩ := leads_ask_done_iff.1 hl
        obtain ⟨rfl, rfl⟩ := leads_done_done_iff.1 hn
        exact .inr ⟨_, report, rfl, e.nodup_directRecipients user, delivered h⟩
    | group group =>
        rw [dispatch_group hs he] at hl
        obtain ⟨answer, tail, rfl, hn⟩ := leads_ask_done_iff.1 hl
        cases h with
        | members _ _ h =>
            cases answer with
            | error fault =>
                obtain ⟨rfl, rfl⟩ := leads_done_done_iff.1 hn
                cases h
                exact .inl ⟨fault, rfl, rfl, rfl⟩
            | ok members =>
                obtain ⟨report, tail, rfl, hd⟩ := leads_ask_done_iff.1 hn
                obtain ⟨rfl, rfl⟩ := leads_done_done_iff.1 hd
                exact .inr ⟨_, report, rfl, (e.isFirstCome_groupRecipients members).nodup,
                  delivered h⟩

/-! ### Deliveries that take turns -/

/-- What a question of a delivery is answered by comes in time. -/
theorem replies_answerDelivery (outside : Collaborators) (q : DeliveryQuestion) (s : Server) :
    Replies s.registrations s.sessions ⟨q, (Server.answerDelivery outside q s).1⟩
        (Server.answerDelivery outside q s).2.sessions ∧
      (Server.answerDelivery outside q s).2.registrations = s.registrations := by
  cases q with
  | online user e => exact ⟨.online s.sessions user e, rfl⟩
  | registrations user => exact ⟨.found s.sessions user, rfl⟩
  | notify vendor target n => exact ⟨.notify s.sessions vendor target n _, rfl⟩

namespace FanOut

variable {outside : Collaborators} {recipients : List String} {s : Server} {f : FanOut}

/-- What a turn does: it leaves as much to do, or has one delivery ask its next question. -/
theorem IsOnCourse.turn_cases (hf : f.IsOnCourse outside e recipients s) (turn : Turn) :
    ((f.turn outside e turn).left outside e = f.left outside e ∧
        (f.turn outside e turn).server = f.server) ∨
      ∃ before after user q next, f.left outside e = before ++ (user, .ask q next) :: after ∧
        (f.turn outside e turn).left outside e = before ++
          (user, next (Server.answerDelivery outside q f.server).1) :: after ∧
        (f.turn outside e turn).server = (Server.answerDelivery outside q f.server).2 := by
  cases turn with
  | begin =>
      left
      simp only [FanOut.turn]
      cases h : f.window.start? with
      | none => exact ⟨rfl, rfl⟩
      | some r => exact ⟨left_start outside e hf.fresh h, rfl⟩
  | job number =>
      simp only [FanOut.turn]
      split
      · rename_i user h
        rw [goOn]
        split
        · rename_i outcome ht
          exact .inl ⟨left_finish outside e h ht, rfl⟩
        · rename_i q next ht
          obtain ⟨before, after, hl, hg⟩ := left_ask outside e h ht
            (next (Server.answerDelivery outside q f.server).1)
            (Server.answerDelivery outside q f.server).2
          exact .inr ⟨before, after, user, q, next, hl, hg, rfl⟩
      · exact .inl ⟨rfl, rfl⟩

/-- Deliveries that take turns go on beside each other up to their ends. -/
theorem IsOnCourse.exists_ends (hf : f.IsOnCourse outside e recipients s) (hn : recipients.Nodup)
    {schedule : List Turn} (ho : (f.run outside e schedule).window.isOver = true) :
    (f.run outside e schedule).server.registrations = f.server.registrations ∧
      ∃ calls, Ends f.server.registrations f.server.sessions (f.left outside e) calls
        (f.run outside e schedule).window.handed (f.run outside e schedule).server.sessions := by
  induction schedule generalizing f with
  | nil =>
      refine ⟨rfl, [], ?_⟩
      have ho : f.window.isOver = true := ho
      rw [left_of_isOver ho]
      exact .ended _ _
  | cons turn schedule ih =>
      obtain ⟨hr, calls, he⟩ := ih (hf.turn hn turn) ho
      rcases hf.turn_cases turn with ⟨hl, hs⟩ | ⟨before, after, user, q, next, hl, hg, hs⟩
      · rw [hl, hs] at he
        rw [hs] at hr
        exact ⟨hr, calls, he⟩
      · obtain ⟨hq, hsame⟩ := replies_answerDelivery outside q f.server
        rw [hg, hs, hsame] at he
        rw [hs, hsame] at hr
        refine ⟨hr, (user, ⟨q, (Server.answerDelivery outside q f.server).1⟩) :: calls, ?_⟩
        rw [hl]
        exact .call hq he

end FanOut

/-- Whether a question is one of a dispatch. -/
def IsPush : Question → Prop
  | .members _ => True
  | .deliver recipients _ => recipients.Nodup
  | _ => False

theorem asks_dispatch_isPush (e : Event) : (dispatch e).run.Asks IsPush := by
  by_cases hs : e.sender = ""
  · rw [dispatch_of_sender_eq hs]
    trivial
  · cases he : e.selector with
    | direct user =>
        rw [dispatch_direct hs he]
        exact ⟨e.nodup_directRecipients user, fun _ => trivial⟩
    | group group =>
        rw [dispatch_group hs he]
        refine ⟨trivial, fun answer => ?_⟩
        cases answer with
        | error fault => trivial
        | ok members =>
            exact ⟨(e.isFirstCome_groupRecipients members).nodup, fun _ => trivial⟩

theorem Runs.exists_pushes {outside : Collaborators} {width : Nat} {α : Type}
    {d : Dialogue Answer α} {s t : Server} {a : α} (hd : d.Asks IsPush) (hs : IsOwned s)
    (h : Runs outside width s d a t) :
    ∃ talk calls, Leads d talk (.done a) ∧
      Pushes outside.vendors s.registrations s.sessions talk calls t.sessions := by
  induction h with
  | done s a => exact ⟨[], [], .nil _, .nil _⟩
  | @ask s t u q next answer a hq hn ih =>
      obtain ⟨hq', hd⟩ := hd
      cases hq with
      | deliver recipients e schedule hf ho =>
          subst hf
          have hc := FanOut.IsOnCourse.new outside e recipients width hs
          obtain ⟨hr, first, he⟩ := hc.exists_ends hq' ho
          obtain ⟨talk, calls, hl, hp⟩ := ih (hd _) (hc.run hq' schedule).owned
          rw [hr] at hp
          exact ⟨_, _, .cons _ hl, .round he hp⟩
      | other q hne =>
          cases q with
          | members group =>
              obtain ⟨talk, calls, hl, hp⟩ := ih (hd _) (keeps_answer outside _ s hs)
              have hsame := keeps_lookUp (I := fun t => t.sessions = s.sessions ∧
                t.registrations = s.registrations) (fun _ _ h => h) outside group s ⟨rfl, rfl⟩
              change Pushes _ (Server.lookUp outside group s).2.registrations
                (Server.lookUp outside group s).2.sessions talk calls u.sessions at hp
              rw [hsame.1, hsame.2] at hp
              exact ⟨_, calls, .cons _ hl, .members group _ hp⟩
          | deliver recipients e => exact absurd rfl (hne recipients e)
          | _ => exact hq'.elim

/-- Whatever was done with the sessions before, whatever stands in the store and whatever vendors
answer in time: the report on an event tells what came of it, and an event that fails as a whole
went to nobody. This holds of the deliveries as they take turns in a window of any width. -/
theorem isTrue_report (capacity : Nat) (operations : List Registry.Operation) (server : Server)
    (e : Event) :
    let r := (Registry.new capacity).operateAll operations
    (∀ vendors store talk result calls t, Leads (dispatch e).run talk (.done result) →
      Pushes vendors store r talk calls t →
      (∀ fault, result = .error fault → calls = [] ∧ t = r) ∧
        ∀ report, result = .ok report → report.recipients.Nodup ∧
          (∀ number, t.inbox? number = r.inbox? number ∨ r.Receives t e number) ∧
          ∀ x ∈ report.outcomes, x.1 ≠ e.sender →
            IsTrue store e r t x.1 (callsFor x.1 calls) x.2) ∧
      ∀ outside width result t,
        Runs outside width { server with sessions := r } (dispatch e).run result t →
        ∃ talk calls, Leads (dispatch e).run talk (.done result) ∧
          Pushes outside.vendors server.registrations r talk calls t.sessions := by
  intro r
  have hr : r.IsOwned := (Registry.IsOwned.new capacity).operateAll operations
  constructor
  · intro vendors store talk result calls t hl hp
    rcases hp.of_dispatch hl with ⟨fault, rfl, hc, ht⟩ | ⟨recipients, report, rfl, hn, he⟩
    · exact ⟨fun _ _ => ⟨hc, ht⟩, by simp⟩
    · refine ⟨by simp, ?_⟩
      rintro _ ⟨⟩
      have hu : report.recipients = recipients := he.map_fst_round
      exact ⟨hu ▸ hn, (he.isLedger_round hr hn).eq_or_receives,
        fun x hx hs => he.isTrue hr hn hx hs⟩
  · intro outside width result t hruns
    have hs : IsOwned { server with sessions := r } := hr
    exact hruns.exists_pushes (asks_dispatch_isPush e) hs

/-- A message of a user to a group of four. -/
def groupEvent : Event := ⟨"m", "a", some 1, .group "g", [], false, 0⟩

/-- One member of the group has a session with room, another one that is full. -/
def groupSessions : List Registry.Operation :=
  [.connect "b" 1, .connect "c" 1, .deliver "c" groupEvent]

/-- A third member has a registration only. -/
def groupServer : Server :=
  { Server.new {} with registrations := (∅ : RegistrationStore).register ⟨"d", 1, "device", 0⟩ }

/-- A world that knows the members of the group, and a vendor that shows everything. -/
def groupOutside : Collaborators where
  seconds := 0
  milliseconds := 0
  fresh := ""
  members := fun _ => .ok ["a", "b", "c", "d"]
  vendors := [.apns]
  notify := fun _ _ _ => .ok ()

/-- What is told of the message. -/
def groupReport : Report :=
  ⟨[("b", .deliveredOnline), ("c", .failed "Service unavailable: session queues full for c"),
    ("d", .deliveredOffline)]⟩

/-- The message is told of as it came: to the first, not to the second, and offline to the third. -/
theorem isTrue_report_of_group :
    let r := (Registry.new 1).operateAll groupSessions
    let done := Server.run groupOutside (dispatch groupEvent).run { groupServer with sessions := r }
    let t := done.2.sessions
    done.1 = .ok groupReport ∧
      ∃ calls, Reaches r t "b" groupEvent ∧
        ¬ Reaches r t "c" groupEvent ∧ ¬ IsShown (callsFor "c" calls) ∧
        ¬ Reaches r t "d" groupEvent ∧ IsShown (callsFor "d" calls) := by
  intro r done t
  have hdone : done.1 = .ok groupReport := by
    have h : done.1.toOption = some groupReport := by decide +kernel
    generalize done.1 = result at h
    cases result with
    | error fault => cases h
    | ok report => exact congrArg Except.ok (Option.some.inj h)
  have hs : IsOwned { groupServer with sessions := r } :=
    (Registry.IsOwned.new 1).operateAll groupSessions
  have hruns : Runs groupOutside 2 { groupServer with sessions := r } (dispatch groupEvent).run
      done.1 done.2 := (runs_iff (asks_dispatch groupEvent) hs).2 (Prod.eta done).symm
  obtain ⟨truth, pushed⟩ := isTrue_report 1 groupSessions groupServer groupEvent
  obtain ⟨talk, calls, hl, hp⟩ := pushed groupOutside 2 done.1 done.2 hruns
  obtain ⟨-, -, told⟩ := (truth _ _ talk done.1 calls t hl hp).2 _ hdone
  have hb := told ("b", .deliveredOnline) (by decide) (by decide)
  have hc := told ("c", .failed "Service unavailable: session queues full for c") (by decide)
    (by decide)
  have hd := told ("d", .deliveredOffline) (by decide) (by decide)
  obtain ⟨hcr, hcs⟩ := hc.neither.1 (.inr rfl)
  obtain ⟨hdr, hds⟩ := hd.offline.1 rfl
  exact ⟨hdone, calls, hb.online.1 rfl, hcr, hcs, hdr, hds⟩

end Courier.Push
