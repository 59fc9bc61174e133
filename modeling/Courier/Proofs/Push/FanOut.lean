import Courier.Proofs.Push.OneByOne
import Courier.Proofs.Push.Slots
import Mathlib.Logic.Function.Basic

/-!
# Deliveries beside each other

The deliveries of one event take turns in any order, as far as a window lets them begin. Main
statement: whatever the order, to finish what is left of them one after the other brings the same at
every moment. So the outcomes and the state of the service in the end are those of deliveries that
were made one after the other from the beginning.
-/

namespace Courier.Push

open Dialogue DeliveryQuestion

/-- The deliveries of an event that go on beside each other. -/
structure FanOut where
  window : Window String Outcome
  /-- What is left of those that have asked a question, by job. -/
  talks : Nat → Option Talk
  server : Server

/-- A turn of a fan-out: the next job begins, or one that has begun goes on. -/
inductive Turn where
  | begin
  | job (number : Nat)
  deriving DecidableEq, Repr

namespace FanOut

/-- A fan-out of which nothing has begun. -/
def new (width : Nat) (recipients : List String) (server : Server) : FanOut :=
  ⟨.new width recipients, fun _ => none, server⟩

variable (outside : Collaborators) (e : Event)

/-- What is left of a job that has begun. -/
def talk (f : FanOut) (number : Nat) (user : String) : Talk :=
  (f.talks number).getD (deliver outside.vendors user e)

/-- Has a job ask its next question, or notes its outcome. -/
def goOn (f : FanOut) (number : Nat) (user : String) : FanOut :=
  match f.talk outside e number user with
  | .done outcome => { f with window := f.window.finish number outcome }
  | .ask q next =>
    let r := Server.answerDelivery outside q f.server
    { f with
      talks := Function.update f.talks number (some (next r.1))
      server := r.2 }

/-- What comes of a turn. -/
def turn (f : FanOut) : Turn → FanOut
  | .begin =>
    match f.window.start? with
    | some (_, window) => { f with window }
    | none => f
  | .job number =>
    match f.window.slots[number]? with
    | some (user, none) => f.goOn outside e number user
    | _ => f

/-- Carries out turns in order. -/
def run (f : FanOut) (schedule : List Turn) : FanOut :=
  schedule.foldl (turn outside e) f

/-- What is left of the job in a slot. -/
def slotTalk (f : FanOut) (number : Nat) (slot : String × Option Outcome) : String × Talk :=
  (slot.1, match slot.2 with
    | some outcome => .done outcome
    | none => f.talk outside e number slot.1)

/-- What is left of all deliveries. -/
def left (f : FanOut) : List (String × Talk) :=
  f.window.slots.mapIdx (f.slotTalk outside e) ++
    f.window.waiting.map fun user => (user, deliver outside.vendors user e)

/-- What every turn keeps, whatever was to be delivered at first. -/
structure IsOnCourse (recipients : List String) (s : Server) (f : FanOut) : Prop where
  users : (f.left outside e).map Prod.fst = recipients
  asks : ∀ x ∈ f.left outside e, x.2.Asks (IsFor x.1)
  fresh : ∀ n, f.window.slots.length ≤ n → f.talks n = none
  tight : f.window.IsTight
  owned : IsOwned f.server
  same : oneByOne outside (f.left outside e) f.server =
    oneByOne outside (recipients.map fun user => (user, deliver outside.vendors user e)) s

variable {recipients : List String} {s : Server} {f : FanOut}

theorem IsOnCourse.new (recipients : List String) (width : Nat) (hs : IsOwned s) :
    IsOnCourse outside e recipients s (new width recipients s) := by
  have hl : (FanOut.new width recipients s).left outside e =
      recipients.map fun user => (user, deliver outside.vendors user e) := rfl
  constructor
  · rw [hl, List.map_map]
    exact List.map_id _
  · intro x hx
    rw [hl] at hx
    obtain ⟨user, -, rfl⟩ := List.mem_map.1 hx
    exact asks_deliver _ user e
  · exact fun _ _ => rfl
  · rfl
  · exact hs
  · rw [hl]
    rfl

/-- Beginning a job leaves as much to do. -/
theorem left_start {job : Nat × String} {window : Window String Outcome}
    (hf : ∀ n, f.window.slots.length ≤ n → f.talks n = none)
    (h : f.window.start? = some (job, window)) :
    FanOut.left outside e { f with window } = f.left outside e := by
  obtain ⟨-, hw, hs, -⟩ := Window.slots_start h
  have ht : f.talk outside e f.window.slots.length job.2 = deliver outside.vendors job.2 e := by
    rw [talk, hf _ (Nat.le_refl _)]
    rfl
  calc
    FanOut.left outside e { f with window } =
        (f.window.slots ++ [(job.2, none)]).mapIdx (f.slotTalk outside e) ++
          window.waiting.map fun user => (user, deliver outside.vendors user e) := by
      rw [left, ← hs]
      rfl
    _ = f.left outside e := by
      rw [left, hw, List.mapIdx_concat]
      simp [slotTalk, ht]

/-- The slots around one of them. -/
theorem exists_slots {number : Nat} {slot : String × Option Outcome}
    (h : f.window.slots[number]? = some slot) :
    ∃ before after, f.window.slots = before ++ slot :: after ∧ before.length = number ∧
      ∀ g, f.window.slots.modify number g = before ++ g slot :: after := by
  obtain ⟨hlt, hget⟩ := List.getElem?_eq_some_iff.1 h
  refine ⟨f.window.slots.take number, f.window.slots.drop (number + 1), ?_, ?_, ?_⟩
  · rw [← hget, List.getElem_cons_drop, List.take_append_drop]
  · rw [List.length_take, Nat.min_eq_left (Nat.le_of_lt hlt)]
  · intro g
    rw [List.modify_eq_take_cons_drop hlt, hget]

theorem mapIdx_slots {before after : List (String × Option Outcome)}
    {slot : String × Option Outcome} (g : Nat → String × Option Outcome → String × Talk) :
    (before ++ slot :: after).mapIdx g = before.mapIdx g ++ g before.length slot ::
      after.mapIdx fun n => g (n + 1 + before.length) := by
  rw [List.mapIdx_append, List.mapIdx_cons, Nat.zero_add]

section Job

variable {number : Nat} {user : String} (h : f.window.slots[number]? = some (user, none))

include h

/-- Noting an outcome leaves as much to do. -/
theorem left_finish {outcome : Outcome} (ht : f.talk outside e number user = .done outcome) :
    FanOut.left outside e { f with window := f.window.finish number outcome } =
      f.left outside e := by
  obtain ⟨before, after, hs, rfl, hm⟩ := exists_slots h
  have hf := Window.slots_finish h outcome
  rw [hm] at hf
  have hslot : f.slotTalk outside e before.length (user, some outcome) =
      f.slotTalk outside e before.length (user, none) := by
    simp [slotTalk, ht]
  calc
    FanOut.left outside e { f with window := f.window.finish before.length outcome } =
        (before ++ (user, some outcome) :: after).mapIdx (f.slotTalk outside e) ++
          f.window.waiting.map fun user => (user, deliver outside.vendors user e) := by
      rw [left, ← hf]
      rfl
    _ = (before ++ (user, none) :: after).mapIdx (f.slotTalk outside e) ++
          f.window.waiting.map fun user => (user, deliver outside.vendors user e) := by
      rw [mapIdx_slots, mapIdx_slots, hslot]
    _ = f.left outside e := by
      rw [← hs]
      rfl

/-- An answer changes what is left of one delivery. -/
theorem left_ask {q : DeliveryQuestion} {next : DeliveryAnswer q → Talk}
    (ht : f.talk outside e number user = .ask q next) (talk : Talk) (server : Server) :
    ∃ before after, f.left outside e = before ++ (user, .ask q next) :: after ∧
      FanOut.left outside e
          { f with talks := Function.update f.talks number (some talk), server } =
        before ++ (user, talk) :: after := by
  obtain ⟨before, after, hs, rfl, -⟩ := exists_slots h
  let g : FanOut := { f with talks := Function.update f.talks before.length (some talk), server }
  have other : ∀ n, n ≠ before.length → g.slotTalk outside e n = f.slotTalk outside e n := by
    intro n hn
    funext slot
    simp [slotTalk, FanOut.talk, g, Function.update_of_ne hn]
  have hbefore : before.mapIdx (g.slotTalk outside e) = before.mapIdx (f.slotTalk outside e) := by
    rw [List.mapIdx_eq_mapIdx_iff]
    intro n hn
    rw [other n (Nat.ne_of_lt hn)]
  have hafter : (after.mapIdx fun n => g.slotTalk outside e (n + 1 + before.length)) =
      after.mapIdx fun n => f.slotTalk outside e (n + 1 + before.length) := by
    rw [List.mapIdx_eq_mapIdx_iff]
    intro n hn
    rw [other _ (by omega)]
  refine ⟨before.mapIdx (f.slotTalk outside e),
    (after.mapIdx fun n => f.slotTalk outside e (n + 1 + before.length)) ++
      f.window.waiting.map fun user => (user, deliver outside.vendors user e), ?_, ?_⟩
  · rw [left, hs, mapIdx_slots]
    simp [slotTalk, ht]
  · rw [left, show g.window.slots = f.window.slots from rfl, hs, mapIdx_slots, hbefore, hafter]
    simp [slotTalk, FanOut.talk]

end Job

section Course

variable {outside e}

/-- A window with as much to do keeps the course. -/
theorem IsOnCourse.window (hf : f.IsOnCourse outside e recipients s)
    {window : Window String Outcome}
    (hl : FanOut.left outside e { f with window } = f.left outside e)
    (hs : f.window.slots.length ≤ window.slots.length) (ht : window.IsTight) :
    IsOnCourse outside e recipients s { f with window } := by
  constructor
  · rw [hl]
    exact hf.users
  · rw [hl]
    exact hf.asks
  · intro n hn
    exact hf.fresh n (Nat.le_trans hs hn)
  · exact ht
  · exact hf.owned
  · rw [hl]
    exact hf.same

/-- A question of one delivery keeps the course, if no user is a recipient twice. -/
theorem IsOnCourse.ask (hf : f.IsOnCourse outside e recipients s) (hn : recipients.Nodup)
    {number : Nat} {user : String} (h : f.window.slots[number]? = some (user, none))
    {q : DeliveryQuestion} {next : DeliveryAnswer q → Talk}
    (ht : f.talk outside e number user = .ask q next) :
    let r := Server.answerDelivery outside q f.server
    IsOnCourse outside e recipients s { f with
      talks := Function.update f.talks number (some (next r.1))
      server := r.2 } := by
  intro r
  have hlt : number < f.window.slots.length := (List.getElem?_eq_some_iff.1 h).1
  obtain ⟨before, after, hl, hg⟩ := left_ask outside e h ht (next r.1) r.2
  have husers := hf.users
  have hasks := hf.asks
  rw [hl] at husers hasks
  have hq : (Dialogue.ask q next).Asks (IsFor user) := hasks (user, .ask q next) (by simp)
  have hbefore : user ∉ before.map Prod.fst := by
    intro hm
    rw [← husers, List.map_append, List.map_cons] at hn
    exact (List.nodup_append.1 hn).2.2 user hm user List.mem_cons_self rfl
  constructor
  · rw [hg]
    simpa using husers
  · rw [hg]
    intro x hx
    cases List.mem_append.1 hx with
    | inl hx => exact hasks x (List.mem_append_left _ hx)
    | inr hx =>
        rcases List.mem_cons.1 hx with rfl | hx
        · exact hq.2 r.1
        · exact hasks x (List.mem_append_right _ (List.mem_cons_of_mem _ hx))
  · intro n hn
    have hne : n ≠ number := Nat.ne_of_gt (Nat.lt_of_lt_of_le hlt hn)
    simpa [Function.update_of_ne hne] using hf.fresh n hn
  · exact hf.tight
  · exact keeps_answerDelivery outside q f.server hf.owned
  · rw [hg, ← hf.same, hl]
    exact oneByOne_ask outside f.server before after hbefore
      (fun x hx => hasks x (List.mem_append_left _ hx)) hq.1 hf.owned

/-- Every turn keeps the course, if no user is a recipient twice. -/
theorem IsOnCourse.turn (hf : f.IsOnCourse outside e recipients s) (hn : recipients.Nodup)
    (t : Turn) : (f.turn outside e t).IsOnCourse outside e recipients s := by
  cases t with
  | begin =>
      simp only [FanOut.turn]
      cases h : f.window.start? with
      | none => exact hf
      | some r =>
          obtain ⟨job, window⟩ := r
          obtain ⟨-, -, hs, ht⟩ := Window.slots_start h
          refine hf.window (left_start outside e hf.fresh h) ?_ (ht hf.tight)
          rw [hs, List.length_append]
          exact Nat.le_add_right _ _
  | job number =>
      simp only [FanOut.turn]
      split
      · rename_i user h
        rw [goOn]
        split
        · rename_i outcome ht
          have hs : (f.window.finish number outcome).slots.length = f.window.slots.length := by
            rw [Window.slots_finish h, List.length_modify]
          exact hf.window (left_finish outside e h ht) (Nat.le_of_eq hs.symm)
            (Window.isTight_finish _ _ _)
        · rename_i q next ht
          exact hf.ask hn h ht
      · exact hf

theorem IsOnCourse.run (hf : f.IsOnCourse outside e recipients s) (hn : recipients.Nodup)
    (schedule : List Turn) : (f.run outside e schedule).IsOnCourse outside e recipients s := by
  induction schedule generalizing f with
  | nil => exact hf
  | cons t schedule ih => exact ih (hf.turn hn t)

/-- Once all is handed on, nothing is left to ask. -/
theorem left_of_isOver (ho : f.window.isOver = true) :
    f.left outside e = f.window.handed.map fun x => (x.1, .done x.2) := by
  obtain ⟨hw, hr⟩ : f.window.waiting = [] ∧ f.window.running = [] := by
    simpa [Window.isOver] using ho
  rw [left, hw, Window.slots, hr, List.append_nil, List.map_nil, List.append_nil,
    List.mapIdx_eq_iff]
  intro n
  simp only [List.getElem?_map, Option.map_map]
  rfl

/-- Once all is handed on, it is what deliveries one after the other bring. -/
theorem IsOnCourse.deliverAll_eq (hf : f.IsOnCourse outside e recipients s)
    (ho : f.window.isOver = true) :
    Server.deliverAll outside recipients e s = (⟨f.window.handed⟩, f.server) := by
  have hs := hf.same
  rw [left_of_isOver ho, oneByOne_done] at hs
  rw [Push.deliverAll_eq, ← hs]

end Course

theorem run_append (f : FanOut) (schedule more : List Turn) :
    f.run outside e (schedule ++ more) = (f.run outside e schedule).run outside e more :=
  List.foldl_append

theorem isTight_run (ht : f.window.IsTight) (schedule : List Turn) :
    (f.run outside e schedule).window.IsTight := by
  induction schedule generalizing f with
  | nil => exact ht
  | cons t schedule ih =>
      apply ih
      cases t with
      | begin =>
          simp only [FanOut.turn]
          split
          · rename_i h
            exact (Window.slots_start h).2.2.2 ht
          · exact ht
      | job number =>
          simp only [FanOut.turn]
          split
          · rw [goOn]
            split
            · exact Window.isTight_finish _ _ _
            · exact ht
          · exact ht

/-- A job that has begun can be brought to its end. -/
theorem exists_finish {number : Nat} {user : String}
    (h : f.window.slots[number]? = some (user, none)) :
    ∃ schedule outcome, (f.run outside e schedule).window = f.window.finish number outcome := by
  generalize hd : f.talk outside e number user = d
  induction d generalizing f with
  | done outcome =>
      refine ⟨[.job number], outcome, ?_⟩
      simp [run, FanOut.turn, h, goOn, hd]
  | ask q next ih =>
      let r := Server.answerDelivery outside q f.server
      let g : FanOut :=
        { f with talks := Function.update f.talks number (some (next r.1)), server := r.2 }
      have hg : f.turn outside e (.job number) = g := by
        simp [FanOut.turn, h, goOn, hd, g, r]
      have ht : g.talk outside e number user = next r.1 := by
        simp [FanOut.talk, g]
      obtain ⟨schedule, outcome, hw⟩ := ih r.1 (f := g) h ht
      refine ⟨.job number :: schedule, outcome, ?_⟩
      calc
        (f.run outside e (.job number :: schedule)).window =
            (FanOut.run outside e (f.turn outside e (.job number)) schedule).window := rfl
        _ = f.window.finish number outcome := by rw [hg, hw]

/-- How much is to be done in a window: two for each job that waits, and one for each that runs. -/
def todo (w : Window String Outcome) : Nat :=
  2 * w.waiting.length + w.slots.countP fun slot => slot.2.isNone

/-- Every fan-out can be brought to its end. -/
theorem exists_over (ht : f.window.IsTight) :
    ∃ schedule, (f.run outside e schedule).window.isOver = true := by
  generalize hk : todo f.window = k
  induction k using Nat.strongRecOn generalizing f with
  | ind k ih =>
      cases ho : f.window.isOver with
      | true => exact ⟨[], ho⟩
      | false =>
          have next : ∀ (schedule : List Turn) (w : Window String Outcome),
              (f.run outside e schedule).window = w → w.IsTight → todo w < k →
              ∃ schedule, (f.run outside e schedule).window.isOver = true := by
            rintro schedule w rfl hw hlt
            obtain ⟨more, hm⟩ := ih _ hlt hw rfl
            exact ⟨schedule ++ more, by rw [run_append, hm]⟩
          rcases Window.exists_next ht ho with ⟨user, hu⟩ | ⟨⟨job, user⟩, w, hs⟩
          · obtain ⟨schedule, outcome, hw⟩ := exists_finish outside e hu
            apply next schedule _ hw (Window.isTight_finish _ _ _)
            obtain ⟨before, after, hb, -, hm⟩ := exists_slots hu
            rw [todo, Window.slots_finish hu, hm, Window.waiting_finish]
            rw [todo, hb] at hk
            simp only [List.countP_append, List.countP_cons, Option.isNone_none,
              Option.isNone_some] at hk ⊢
            simp only [if_true, Bool.false_eq_true, if_false] at hk ⊢
            omega
          · obtain ⟨-, hw, hslots, htight⟩ := Window.slots_start hs
            have hrun : (f.run outside e [.begin]).window = w := by
              simp [run, FanOut.turn, hs]
            apply next [.begin] w hrun (htight ht)
            rw [todo, hw] at hk
            rw [todo, hslots]
            simp only [List.countP_append, List.countP_singleton, Option.isNone_none, if_true,
              List.length_cons] at hk ⊢
            omega

end FanOut

end Courier.Push
