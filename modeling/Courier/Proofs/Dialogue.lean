import Courier.Dialogue

/-!
# Talks

A talk is a row of questions with their answers. A talk leads from one dialogue to another if the
first asks its questions in order and goes on as the second. Main statements: a computation that may
fail runs part by part; a talk that leads through one dialogue followed by another is either within
the first or has finished it.
-/

namespace Courier.Dialogue

variable {Q : Type} {A : Q → Type} {α β : Type}

/-- What follows a computation that may fail is asked where it ended, unless it failed. -/
theorem run_except_bind {σ ε : Type} (answer : (q : Q) → StateM σ (A q))
    (c : ExceptT ε (Dialogue A) α) (f : α → ExceptT ε (Dialogue A) β) (s : σ) :
    (c >>= f).run.run answer s =
      match c.run.run answer s with
      | (.ok a, t) => (f a).run.run answer t
      | (.error e, t) => (.error e, t) := by
  have h : ∀ (d : Dialogue A (Except ε α)) (s : σ),
      (ExceptT.mk d >>= f).run.run answer s =
        match d.run answer s with
        | (.ok a, t) => (f a).run.run answer t
        | (.error e, t) => (.error e, t) := by
    intro d
    induction d with
    | done r =>
        intro s
        cases r <;> rfl
    | ask q next ih =>
        intro s
        exact ih _ _
  exact h c s

/-- A question with its answer. -/
abbrev Exchange (A : Q → Type) := (q : Q) × A q

/-- Whether a talk leads from a dialogue to what is left of it. -/
inductive Leads : Dialogue A α → List (Exchange A) → Dialogue A α → Prop where
  | nil (d : Dialogue A α) : Leads d [] d
  | cons {q : Q} {next : A q → Dialogue A α} (a : A q) {talk : List (Exchange A)}
    {rest : Dialogue A α} :
    Leads (next a) talk rest → Leads (.ask q next) (⟨q, a⟩ :: talk) rest

variable {d e : Dialogue A α} {talk : List (Exchange A)} {f : α → Dialogue A β}
  {rest : Dialogue A β}

theorem leads_nil_iff : Leads d [] e ↔ e = d := by
  constructor
  · intro h
    cases h
    rfl
  · rintro rfl
    exact .nil e

theorem leads_done_iff {a : α} : Leads (.done a) talk e ↔ talk = [] ∧ e = .done a := by
  constructor
  · intro h
    cases h
    exact ⟨rfl, rfl⟩
  · rintro ⟨rfl, rfl⟩
    exact .nil _

/-- A talk that finishes a finished dialogue is empty. -/
theorem leads_done_done_iff {a b : α} :
    Leads (.done a) talk (.done b) ↔ talk = [] ∧ b = a := by
  rw [leads_done_iff, Dialogue.done.injEq]

theorem leads_ask_iff {q : Q} {next : A q → Dialogue A α} :
    Leads (.ask q next) talk e ↔
      talk = [] ∧ e = .ask q next ∨ ∃ a tail, talk = ⟨q, a⟩ :: tail ∧ Leads (next a) tail e := by
  constructor
  · intro h
    cases h with
    | nil => exact .inl ⟨rfl, rfl⟩
    | cons a h => exact .inr ⟨a, _, rfl, h⟩
  · rintro (⟨rfl, rfl⟩ | ⟨a, tail, rfl, h⟩)
    · exact .nil _
    · exact .cons a h

/-- A talk that finishes a dialogue answers its first question. -/
theorem leads_ask_done_iff {q : Q} {next : A q → Dialogue A α} {b : α} :
    Leads (.ask q next) talk (.done b) ↔
      ∃ a tail, talk = ⟨q, a⟩ :: tail ∧ Leads (next a) tail (.done b) := by
  rw [leads_ask_iff]
  simp

theorem leads_question_iff {q : Q} {a : A q} :
    Leads (question q) talk (.done a) ↔ talk = [⟨q, a⟩] := by
  rw [question, leads_ask_done_iff]
  simp only [leads_done_done_iff]
  constructor
  · rintro ⟨b, tail, rfl, rfl, rfl⟩
    rfl
  · rintro rfl
    exact ⟨a, [], rfl, rfl, rfl⟩

/-- Fixed answers finish a dialogue with the result that they give. -/
theorem leads_result (answer : (q : Q) → A q) (d : Dialogue A α) :
    Leads d ((d.asked answer).map fun q => ⟨q, answer q⟩) (.done (d.result answer)) := by
  induction d with
  | done a => exact .nil _
  | ask q next ih => exact .cons (answer q) (ih (answer q))

/-- A talk goes on with the next question and its answer. -/
theorem Leads.concat {q : Q} {next : A q → Dialogue A α} (h : Leads d talk (.ask q next))
    (a : A q) : Leads d (talk ++ [⟨q, a⟩]) (next a) := by
  generalize hr : Dialogue.ask q next = r at h
  induction h with
  | nil d =>
      subst hr
      exact .cons a (.nil _)
  | cons b _ ih => exact .cons b (ih hr)

theorem Leads.bind {f : α → Dialogue A β} (h : Leads d talk e) :
    Leads (d >>= f) talk (e >>= f) := by
  induction h with
  | nil d => exact .nil _
  | cons a _ ih => exact .cons a ih

theorem Leads.append {r : Dialogue A α} {more : List (Exchange A)} (h : Leads d talk e)
    (hr : Leads e more r) : Leads d (talk ++ more) r := by
  induction h with
  | nil d => exact hr
  | cons a _ ih => exact .cons a (ih hr)

/-- A talk through one dialogue followed by another is within the first or has finished it. -/
theorem leads_bind_iff :
    Leads (d >>= f) talk rest ↔
      (∃ e, Leads d talk e ∧ rest = e >>= f) ∨
      ∃ a before after, talk = before ++ after ∧ Leads d before (.done a) ∧
        Leads (f a) after rest := by
  constructor
  · intro h
    induction d generalizing talk with
    | done a => exact .inr ⟨a, [], talk, rfl, .nil _, h⟩
    | ask q next ih =>
        rcases leads_ask_iff.1 h with ⟨rfl, rfl⟩ | ⟨b, tail, rfl, hn⟩
        · exact .inl ⟨.ask q next, .nil _, rfl⟩
        · rcases ih b hn with ⟨e, he, hr⟩ | ⟨a, before, after, rfl, hb, ha⟩
          · exact .inl ⟨e, .cons b he, hr⟩
          · exact .inr ⟨a, ⟨q, b⟩ :: before, after, rfl, .cons b hb, ha⟩
  · rintro (⟨e, he, rfl⟩ | ⟨a, before, after, rfl, hb, ha⟩)
    · exact he.bind
    · exact hb.bind.append ha

/-- A talk that finishes one dialogue followed by another finishes the first, then the second. -/
theorem leads_bind_done_iff {b : β} :
    Leads (d >>= f) talk (.done b) ↔ ∃ a before after, talk = before ++ after ∧
      Leads d before (.done a) ∧ Leads (f a) after (.done b) := by
  rw [leads_bind_iff]
  constructor
  · rintro (⟨e, he, hb⟩ | h)
    · cases e with
      | done a => exact ⟨a, talk, [], (List.append_nil talk).symm, he, leads_nil_iff.2 hb⟩
      | ask q next => cases hb
    · exact h
  · exact .inr

theorem leads_bind_pure_iff {f : α → β} {b : β} :
    Leads (d >>= fun a => pure (f a)) talk (.done b) ↔ ∃ a, Leads d talk (.done a) ∧ b = f a := by
  rw [leads_bind_done_iff]
  constructor
  · rintro ⟨a, before, after, rfl, hb, ha⟩
    obtain ⟨rfl, rfl⟩ := leads_done_done_iff.1 ha
    exact ⟨a, by rwa [List.append_nil], rfl⟩
  · rintro ⟨a, h, rfl⟩
    exact ⟨a, talk, [], (List.append_nil talk).symm, h, .nil _⟩

/-- A talk that finishes a dialogue is no beginning of another that does. -/
theorem Leads.eq_of_prefix {a b : α} {other whole : List (Exchange A)}
    (h : Leads d talk (.done a)) (ho : Leads d other (.done b)) (hp : talk <+: whole)
    (hq : other <+: whole) : talk = other ∧ a = b := by
  generalize hr : Dialogue.done a = r at h
  induction h generalizing other whole with
  | nil d =>
      subst hr
      obtain ⟨rfl, hb⟩ := leads_done_iff.1 ho
      cases hb
      exact ⟨rfl, rfl⟩
  | cons c _ ih =>
      cases ho with
      | cons c' ho =>
          obtain ⟨more, rfl⟩ := hp
          obtain ⟨hc, hm⟩ := List.cons_prefix_cons.1 hq
          cases hc
          obtain ⟨rfl, rfl⟩ := ih ho (List.prefix_append _ _) hm hr
          exact ⟨rfl, rfl⟩

/-- Whether all questions that a dialogue can ever ask are of a kind. -/
def Asks (p : Q → Prop) : Dialogue A α → Prop
  | .done _ => True
  | .ask q next => p q ∧ ∀ a, (next a).Asks p

theorem Asks.bind {p : Q → Prop} {f : α → Dialogue A β} (h : d.Asks p) (hf : ∀ a, (f a).Asks p) :
    (d >>= f).Asks p := by
  induction d with
  | done a => exact hf a
  | ask q next ih => exact ⟨h.1, fun a => ih a (h.2 a)⟩

theorem Asks.map {p : Q → Prop} {f : α → β} (h : d.Asks p) : (f <$> d).Asks p :=
  h.bind fun _ => trivial

/-- All questions of a talk are of the kind that the dialogue asks. -/
theorem Asks.of_leads {p : Q → Prop} (h : d.Asks p) (hl : Leads d talk e) :
    ∀ x ∈ talk, p x.1 := by
  induction hl with
  | nil d =>
      intro x hx
      cases hx
  | cons a _ ih =>
      intro x hx
      rcases List.mem_cons.1 hx with rfl | hx
      · exact h.1
      · exact ih (h.2 a) x hx

/-- Whether all questions that a dialogue can ever ask are of a kind, but for one at most that is of
another. -/
def AsksOnce (p o : Q → Prop) : Dialogue A α → Prop
  | .done _ => True
  | .ask q next => (p q ∧ ∀ a, (next a).AsksOnce p o) ∨ (o q ∧ ∀ a, (next a).Asks p)

section AsksOnce

variable {p o : Q → Prop}

theorem Asks.once (h : d.Asks p) : d.AsksOnce p o := by
  induction d with
  | done a => trivial
  | ask q next ih => exact .inl ⟨h.1, fun a => ih a (h.2 a)⟩

theorem Asks.bind_once {f : α → Dialogue A β} (h : d.Asks p) (hf : ∀ a, (f a).AsksOnce p o) :
    (d >>= f).AsksOnce p o := by
  induction d with
  | done a => exact hf a
  | ask q next ih => exact .inl ⟨h.1, fun a => ih a (h.2 a)⟩

theorem AsksOnce.bind {f : α → Dialogue A β} (h : d.AsksOnce p o) (hf : ∀ a, (f a).Asks p) :
    (d >>= f).AsksOnce p o := by
  induction d with
  | done a => exact (hf a).once
  | ask q next ih =>
      rcases h with ⟨hq, hn⟩ | ⟨hq, hn⟩
      · exact .inl ⟨hq, fun a => ih a (hn a)⟩
      · exact .inr ⟨hq, fun a => (hn a).bind hf⟩

/-- The question of the other kind stands alone in a talk. -/
theorem AsksOnce.of_leads (h : d.AsksOnce p o) (hl : Leads d talk e) :
    (∀ x ∈ talk, p x.1) ∨ ∃ before x after, talk = before ++ x :: after ∧
      (∀ y ∈ before, p y.1) ∧ o x.1 ∧ ∀ y ∈ after, p y.1 := by
  induction hl with
  | nil d =>
      left
      intro x hx
      cases hx
  | @cons q next a talk rest hl ih =>
      rcases h with ⟨hq, hn⟩ | ⟨hq, hn⟩
      · rcases ih (hn a) with hall | ⟨before, x, after, rfl, hb, hx, ha⟩
        · exact .inl (List.forall_mem_cons.2 ⟨hq, hall⟩)
        · exact .inr ⟨⟨q, a⟩ :: before, x, after, rfl, List.forall_mem_cons.2 ⟨hq, hb⟩, hx, ha⟩
      · exact .inr ⟨[], ⟨q, a⟩, talk, rfl, List.forall_mem_nil _, hq, (hn a).of_leads hl⟩

end AsksOnce

end Courier.Dialogue
