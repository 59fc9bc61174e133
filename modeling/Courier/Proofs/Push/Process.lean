import Courier.Proofs.Dialogue
import Courier.Push.Consumer

/-!
# Talks about one delivery

Whatever the world answers, a delivery from the stream is settled once, by its own number and with
the last question. Main statement: it is acknowledged exactly for a cause, which is that its bytes
are no event, that its event has no sender, or that its dispatch failed for no recipient.
-/

namespace Courier

open Dialogue

/-- Whether a question settles a delivery. -/
def Question.settles : Question → Bool
  | .ack _ | .nack _ => true
  | _ => false

namespace Push

/-- The questions of a talk that settle a delivery. -/
def settlements (talk : List (Exchange Answer)) : List Question :=
  (talk.map Sigma.fst).filter Question.settles

/-- The question by which a verdict settles a delivery. -/
def settlement (number : Nat) : Verdict → Question
  | .acked | .dropped => .ack number
  | .nacked => .nack number

/-- Whether there is cause to acknowledge a delivery: its bytes are no event, its event has no
sender, or the talk dispatched it with a report in which no recipient failed. -/
def HasCause (payload : List UInt8) (talk : List (Exchange Answer)) : Prop :=
  (∃ fault, Event.decode payload = .error fault) ∨
    ∃ e, Event.decode payload = .ok e ∧ (e.sender = "" ∨ ∃ dispatched report,
      dispatched <+: talk ∧ Leads (dispatch e).run dispatched (.done (.ok report)) ∧
        ∀ line ∈ report.outcomes, line.2.isFailed = false)

/-- Whether the look-ups of a talk failed for no invalid argument. -/
def IsHonest (talk : List (Exchange Answer)) : Prop :=
  ∀ group text, ⟨.members group, .error (.invalidArgument text)⟩ ∉ talk

variable {e : Event} {payload : List UInt8} {number : Nat} {talk : List (Exchange Answer)}

theorem settlements_concat (talk : List (Exchange Answer)) (q : Question) (a : Answer q) :
    settlements (talk ++ [⟨q, a⟩]) = settlements talk ++ if q.settles then [q] else [] := by
  cases h : q.settles <;> simp [settlements, h]

theorem dispatch_of_sender_eq (h : e.sender = "") :
    (dispatch e).run = .done (.error (.invalidArgument "sender_id is empty")) := by
  have hv : e.validate = .error (.invalidArgument "sender_id is empty") := if_pos h
  rw [dispatch, hv]
  rfl

theorem dispatch_direct (h : e.sender ≠ "") {user : String} (hs : e.selector = .direct user) :
    (dispatch e).run =
      .ask (.deliver (e.directRecipients user) e) fun report => .done (.ok report) := by
  have hv : e.validate = .ok () := if_neg h
  rw [dispatch, hv, hs]
  rfl

theorem dispatch_group (h : e.sender ≠ "") {group : String} (hs : e.selector = .group group) :
    (dispatch e).run = .ask (.members group) fun
      | .ok members =>
        .ask (.deliver (e.groupRecipients members) e) fun report => .done (.ok report)
      | .error fault => .done (.error fault) := by
  have hv : e.validate = .ok () := if_neg h
  rw [dispatch, hv, hs]
  refine congrArg (Dialogue.ask _) (funext fun answer => ?_)
  cases answer <;> rfl

/-- A dispatch asks two questions at most, and settles nothing. -/
theorem quiet_dispatch {rest : Dialogue Answer (Except ServiceError Report)}
    (h : Leads (dispatch e).run talk rest) :
    settlements talk = [] ∧ talk.length ≤ 2 ∧
      ∀ q next, rest = .ask q next → q.settles = false := by
  have ask : ∀ {q : Question} {next : Answer q → Dialogue Answer (Except ServiceError Report)},
      q.settles = false → ∀ p r, Dialogue.ask q next = .ask p r → p.settles = false := by
    intro q next hq p r he
    cases he
    exact hq
  by_cases hs : e.sender = ""
  · rw [dispatch_of_sender_eq hs, leads_done_iff] at h
    obtain ⟨rfl, rfl⟩ := h
    exact ⟨rfl, by simp, by simp⟩
  · cases he : e.selector with
    | direct user =>
        rw [dispatch_direct hs he, leads_ask_iff] at h
        rcases h with ⟨rfl, rfl⟩ | ⟨report, tail, rfl, h⟩
        · exact ⟨rfl, by simp, ask rfl⟩
        · obtain ⟨rfl, rfl⟩ := leads_done_iff.1 h
          exact ⟨rfl, by simp, by simp⟩
    | group group =>
        rw [dispatch_group hs he, leads_ask_iff] at h
        rcases h with ⟨rfl, rfl⟩ | ⟨answer, tail, rfl, h⟩
        · exact ⟨rfl, by simp, ask rfl⟩
        · cases answer with
          | error fault =>
              obtain ⟨rfl, rfl⟩ := leads_done_iff.1 h
              exact ⟨rfl, by simp, by simp⟩
          | ok members =>
              rcases leads_ask_iff.1 h with ⟨rfl, rfl⟩ | ⟨report, tail, rfl, hn⟩
              · exact ⟨rfl, by simp, ask rfl⟩
              · obtain ⟨rfl, rfl⟩ := leads_done_iff.1 hn
                exact ⟨rfl, by simp, by simp⟩

/-- Whether the look-up of a group failed in a talk. -/
def LookUpFails (talk : List (Exchange Answer)) (fault : ServiceError) : Prop :=
  ∃ group, ⟨.members group, .error fault⟩ ∈ talk

theorem not_lookUpFails_nil (fault : ServiceError) : ¬ LookUpFails [] fault := by
  rintro ⟨group, hm⟩
  cases hm

theorem lookUpFails_cons {x : Exchange Answer} {fault : ServiceError}
    (hx : ∀ group, x ≠ ⟨.members group, .error fault⟩) :
    LookUpFails (x :: talk) fault ↔ LookUpFails talk fault := by
  constructor
  · rintro ⟨group, hm⟩
    cases List.mem_cons.1 hm with
    | inl he => exact absurd he.symm (hx group)
    | inr hm => exact ⟨group, hm⟩
  · rintro ⟨group, hm⟩
    exact ⟨group, List.mem_cons_of_mem _ hm⟩

/-- What a dispatch brings: it is refused without a sender, fails with the look-up of its group, or
brings a report. -/
theorem dispatch_done {result : Except ServiceError Report}
    (h : Leads (dispatch e).run talk (.done result)) :
    (e.sender = "" ∧ talk = [] ∧ result = .error (.invalidArgument "sender_id is empty")) ∨
      (e.sender ≠ "" ∧ ∃ fault, LookUpFails talk fault ∧ result = .error fault) ∨
      (e.sender ≠ "" ∧ (∀ fault, ¬ LookUpFails talk fault) ∧ ∃ report, result = .ok report) := by
  by_cases hs : e.sender = ""
  · rw [dispatch_of_sender_eq hs, leads_done_iff] at h
    cases h.2
    exact .inl ⟨hs, h.1, rfl⟩
  · right
    have delivered : ∀ recipients report fault,
        ¬ LookUpFails [⟨.deliver recipients e, report⟩] fault := by
      intro recipients report fault
      rw [lookUpFails_cons (fun group he => by cases congrArg Sigma.fst he)]
      exact not_lookUpFails_nil fault
    cases he : e.selector with
    | direct user =>
        rw [dispatch_direct hs he, leads_ask_iff] at h
        rcases h with ⟨_, h⟩ | ⟨report, tail, rfl, h⟩
        · cases h
        · obtain ⟨rfl, h⟩ := leads_done_iff.1 h
          cases h
          exact .inr ⟨hs, delivered _ _, report, rfl⟩
    | group group =>
        rw [dispatch_group hs he, leads_ask_iff] at h
        rcases h with ⟨_, h⟩ | ⟨answer, tail, rfl, h⟩
        · cases h
        · cases answer with
          | error fault =>
              obtain ⟨rfl, h⟩ := leads_done_iff.1 h
              cases h
              exact .inl ⟨hs, fault, ⟨group, List.mem_cons_self⟩, rfl⟩
          | ok members =>
              rcases leads_ask_iff.1 h with ⟨_, hn⟩ | ⟨report, tail, rfl, hn⟩
              · cases hn
              · obtain ⟨rfl, hn⟩ := leads_done_iff.1 hn
                cases hn
                refine .inr ⟨hs, fun fault => ?_, report, rfl⟩
                rw [lookUpFails_cons (fun g hg => by cases hg)]
                exact delivered _ _ fault

theorem process_eq (number : Nat) (payload : List UInt8) :
    process number payload =
      (judge payload >>= fun v => .ask (settlement number v) fun _ => .done v) := by
  refine congrArg (Dialogue.bind (judge payload)) (funext fun v => ?_)
  cases v <;> rfl

@[simp] theorem settles_settlement (number : Nat) (v : Verdict) :
    (settlement number v).settles = true := by
  cases v <;> rfl

/-- A talk that judges bytes is the talk that dispatches their event. -/
theorem leads_judge {rest : Dialogue Answer Verdict} (h : Leads (judge payload) talk rest) :
    ((∃ fault, Event.decode payload = .error fault) ∧ talk = [] ∧ rest = .done .dropped) ∨
      ∃ e d, Event.decode payload = .ok e ∧ Leads (dispatch e).run talk d ∧
        rest = Verdict.ofDispatch <$> d := by
  unfold judge at h
  cases he : Event.decode payload with
  | error fault =>
      simp only [he] at h
      exact .inl ⟨⟨fault, rfl⟩, leads_done_iff.1 h⟩
  | ok e =>
      simp only [he] at h
      rcases leads_bind_iff.1 h with ⟨d, hd, rfl⟩ | ⟨result, before, after, rfl, hb, ha⟩
      · exact .inr ⟨e, d, rfl, hd, rfl⟩
      · obtain ⟨rfl, rfl⟩ := leads_done_iff.1 ha
        exact .inr ⟨e, .done result, rfl, by simpa using hb, rfl⟩

theorem leads_judge_done {v : Verdict} (h : Leads (judge payload) talk (.done v)) :
    ((∃ fault, Event.decode payload = .error fault) ∧ talk = [] ∧ v = .dropped) ∨
      ∃ e result, Event.decode payload = .ok e ∧ Leads (dispatch e).run talk (.done result) ∧
        v = .ofDispatch result := by
  rcases leads_judge h with ⟨hf, ht, hv⟩ | ⟨e, d, he, hd, hr⟩
  · cases hv
    exact .inl ⟨hf, ht, rfl⟩
  · cases d with
    | done result =>
        cases hr
        exact .inr ⟨e, result, he, hd, rfl⟩
    | ask q next => cases hr

theorem quiet_judge {rest : Dialogue Answer Verdict} (h : Leads (judge payload) talk rest) :
    settlements talk = [] ∧ talk.length ≤ 2 ∧
      ∀ q next, rest = .ask q next → q.settles = false := by
  rcases leads_judge h with ⟨-, rfl, rfl⟩ | ⟨e, d, -, hd, rfl⟩
  · exact ⟨rfl, by simp, by simp⟩
  · obtain ⟨hs, hl, hq⟩ := quiet_dispatch hd
    refine ⟨hs, hl, fun q next hn => ?_⟩
    cases d with
    | done result => cases hn
    | ask q cont =>
        cases hn
        exact hq q cont rfl

/-- A verdict acknowledges for a cause, and only for one. -/
theorem judge_iff_hasCause {v : Verdict} {before : List (Exchange Answer)}
    (h : Leads (judge payload) before (.done v)) (hp : before <+: talk) (honest : IsHonest before) :
    v ≠ .nacked ↔ HasCause payload talk := by
  rcases leads_judge_done h with ⟨hf, -, rfl⟩ | ⟨e, result, he, hd, rfl⟩
  · exact ⟨fun _ => .inl hf, fun _ => by simp⟩
  · have hcause : HasCause payload talk ↔ e.sender = "" ∨ ∃ report, result = .ok report ∧
        ∀ line ∈ report.outcomes, line.2.isFailed = false := by
      constructor
      · rintro (⟨fault, hf⟩ | ⟨e', he', hs | ⟨dispatched, report, hq, hr, hl⟩⟩)
        · cases he.symm.trans hf
        · cases he.symm.trans he'
          exact .inl hs
        · cases he.symm.trans he'
          exact .inr ⟨report, (hd.eq_of_prefix hr hp hq).2, hl⟩
      · rintro (hs | ⟨report, rfl, hl⟩)
        · exact .inr ⟨e, he, .inl hs⟩
        · exact .inr ⟨e, he, .inr ⟨before, report, hp, hd, hl⟩⟩
    rw [hcause]
    rcases dispatch_done hd with ⟨hs, -, rfl⟩ | ⟨hs, fault, ⟨group, hm⟩, rfl⟩ | ⟨hs, -, report, rfl⟩
    · simp [Verdict.ofDispatch, hs]
    · have hv : Verdict.ofDispatch (.error fault) = .nacked := by
        cases fault with
        | invalidArgument text => exact absurd hm (honest group text)
        | _ => rfl
      simp [hv, hs]
    · cases hr : report.isSuccess with
      | true =>
          have : ∀ line ∈ report.outcomes, line.2.isFailed = false := by
            simpa [Report.isSuccess] using hr
          simpa [Verdict.ofDispatch, hr, hs] using this
      | false =>
          have : ∃ line ∈ report.outcomes, line.2.isFailed = true := by
            simpa [Report.isSuccess] using hr
          simpa [Verdict.ofDispatch, hr, hs] using this

/-- A look-up that fails makes for a refusal. -/
theorem nacked_of_lookUpFails {v : Verdict} {fault : ServiceError}
    (h : Leads (judge payload) talk (.done v)) (honest : IsHonest talk)
    (hl : LookUpFails talk fault) : v = .nacked := by
  rcases leads_judge_done h with ⟨-, rfl, -⟩ | ⟨e, result, he, hd, rfl⟩
  · exact absurd hl (not_lookUpFails_nil fault)
  · rcases dispatch_done hd with ⟨-, rfl, -⟩ | ⟨-, other, ⟨group, hm⟩, rfl⟩ | ⟨-, hn, -⟩
    · exact absurd hl (not_lookUpFails_nil fault)
    · cases other with
      | invalidArgument text => exact absurd hm (honest group text)
      | _ => rfl
    · exact absurd hl (hn fault)

/-- A talk about a delivery has not settled it yet and goes on, or has settled it by its verdict and
is over. -/
theorem leads_process {rest : Dialogue Answer Verdict}
    (h : Leads (process number payload) talk rest) :
    (settlements talk = [] ∧ talk.length ≤ 2 ∧ ∃ q next, rest = .ask q next ∧
      (q.settles = true → ∃ v, q = settlement number v)) ∨
      ∃ v before, Leads (judge payload) before (.done v) ∧ before <+: talk ∧ talk.length ≤ 3 ∧
        settlements talk = [settlement number v] ∧ rest = .done v ∧
        ∀ fault, LookUpFails talk fault → LookUpFails before fault := by
  rw [process_eq] at h
  rcases leads_bind_iff.1 h with ⟨d, hd, rfl⟩ | ⟨v, before, after, rfl, hb, ha⟩
  · left
    obtain ⟨hs, hl, hq⟩ := quiet_judge hd
    refine ⟨hs, hl, ?_⟩
    cases d with
    | done v => exact ⟨_, _, rfl, fun _ => ⟨v, rfl⟩⟩
    | ask q next =>
        refine ⟨q, _, rfl, fun hn => ?_⟩
        rw [hq q next rfl] at hn
        cases hn
  · obtain ⟨hs, hl, -⟩ := quiet_judge hb
    rcases leads_ask_iff.1 ha with ⟨rfl, rfl⟩ | ⟨a, tail, rfl, hn⟩
    · left
      exact ⟨by simpa using hs, by simpa using hl, _, _, rfl, fun _ => ⟨v, rfl⟩⟩
    · right
      obtain ⟨rfl, rfl⟩ := leads_done_iff.1 hn
      refine ⟨v, before, hb, List.prefix_append _ _, ?_, ?_, rfl, ?_⟩
      · rw [List.length_append]
        exact Nat.succ_le_succ hl
      · simp only [settlements, List.map_append, List.filter_append] at hs ⊢
        simp [hs]
      · rintro fault ⟨group, hm⟩
        cases List.mem_append.1 hm with
        | inl hm => exact ⟨group, hm⟩
        | inr hm =>
            have he : Question.members group = settlement number v :=
              congrArg Sigma.fst (List.mem_singleton.1 hm)
            have hs := settles_settlement number v
            rw [← he] at hs
            cases hs

end Push

end Courier
