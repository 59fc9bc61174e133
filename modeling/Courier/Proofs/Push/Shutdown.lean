import Courier.Capacity
import Courier.Proofs.Push.Toil
import Mathlib.Data.List.GetD
import Mathlib.Order.WellFounded

/-!
# Shutdown ends

In an endless course there is a moment from which on everything is in its place. If every worker
takes its turn again and again, and what is waited for comes, nobody is at a delivery then and
nothing is left to be handed out. Main statement: after the stream was closed all workers stop, and
then the stream holds no message.
-/

namespace Courier.Push

open Dialogue EventStream

/-- What look-ups have brought stays. -/
theorem Pool.IsRunning.isLater_move {workers : Nat} {p : Pool workers} (h : p.IsRunning)
    (m : Move workers) : p.around.groups.IsLater (p.move m).around.groups := by
  cases m with
  | work i outside =>
      have hw := works_work (h.desks i) outside
      change p.around.groups.IsLater (p.work i outside).around.groups
      generalize p.work i outside = r at hw
      cases hw with
      | hear n c q next a t hi hc hr ha =>
          have hs := (h.faithful n c hc).isAnswer h.sound hr outside
          exact (ha ▸ hs).later.groups
      | wait n c q next load t hi hc hr ha =>
          have hs := (h.faithful n c hc).isAnswer h.sound hr outside
          exact (ha ▸ hs).later.groups
      | _ => exact .refl _
  | arrive load a => exact (h.sound.groups.arrive load a).2
  | ask group => exact (h.sound.groups.ask group).2.1
  | invalidate group => exact (h.sound.groups.invalidate group).2
  | act a => exact .refl _

namespace Shift

variable {workers : Nat} {s t : Shift workers} {i : Fin workers} {m : Move workers}

/-- What is known about groups. -/
def groups (s : Shift workers) : Group.Cache :=
  s.pool.around.groups

theorem isLater_move (h : s.IsSound) (m : Move workers) : s.groups.IsLater (s.move m).groups := by
  unfold groups
  rcases pool_move s m with hp | hp <;> rw [hp]
  · exact .refl _
  · exact h.running.isLater_move m

/-! ### Moves that leave everything in its place -/

section Rest

variable {outside : (q : Question) → Answer q} {n : Nat}

/-- A worker whose turn leaves its talk where it is waits for a look-up that is under way. -/
theorem waits_of_isLike (h : s.IsSound) (hl : IsLike s (s.move (.work i outside)))
    (hi : s.stopped i = false) (hd : s.pool.desks i = some n) {c : Conversation}
    (hc : s.pool.conversations.get? n = some c) : ∃ load group, c.load = some load ∧
      (s.move (.work i outside)).groups.loads.get? load = some ⟨group, none⟩ := by
  have hm : s.move (.work i outside) = { s with pool := s.pool.work i outside } := by
    rcases turn_cases s i outside with ⟨ho, -⟩ | ⟨-, hn, -⟩ | ⟨-, -, ht⟩
    · cases hi.symm.trans ho
    · cases hd.symm.trans hn
    · exact ht
  rw [hm] at hl ⊢
  have hdesk : (s.pool.work i outside).desks i = some n := (congrFun hl.desks i).trans hd
  have htalk : (s.pool.work i outside).conversations.get? n = some c :=
    (congrArg (Table.get? · n) hl.conversations).trans hc
  rcases h.running.goesOn hc hd outside with ⟨-, hn⟩ | ⟨d, hget, hgo⟩
  · cases hdesk.symm.trans hn
  · cases htalk.symm.trans hget
    rcases hgo with ⟨x, hx⟩ | hw
    · exact absurd hx (by simp)
    · exact hw

/-- A worker without a delivery whose turn changes nothing finds the queue empty, and more may
come. -/
theorem queue_of_isLike (h : s.IsSound) (hl : IsLike s (s.move (.work i outside)))
    (hi : s.stopped i = false) (hd : s.pool.desks i = none) :
    s.stream.queue = [] ∧ s.stream.isDrained = false := by
  simp only [move] at hl
  rcases turn_cases s i outside with ⟨ho, -⟩ | ⟨-, -, -, ht⟩ | ⟨-, hn, ht⟩
  · cases hi.symm.trans ho
  · rw [ht] at hl
    have := congrFun hl.stopped i
    simp [hi] at this
  · refine ⟨?_, by simpa [hd] using hn⟩
    rw [ht] at hl
    have hw := Pool.works_work (h.running.desks i) outside
    have hdesk : (s.pool.work i outside).desks i = none := (congrFun hl.desks i).trans hd
    generalize s.pool.work i outside = r at hw hdesk
    cases hw with
    | idle _ hq => exact hq
    | receive => simp at hdesk
    | leave n c v hn => cases hd.symm.trans hn
    | hear n c q next a t hn => cases hd.symm.trans hn
    | wait n c q next load t hn => cases hd.symm.trans hn

theorem line_of_isLike (hl : IsLike s (s.move (.act (.letIn n)))) (hq : s.stream.queue = []) :
    n ∉ s.stream.line.keys := by
  intro hn
  obtain ⟨e, he⟩ := Table.mem_keys_iff.1 hn
  have hs : (s.move (.act (.letIn n))).stream =
      { s.stream with queue := [e], line := s.stream.line.erase n } := by
    change letInOne s.stream n = _
    simp [letInOne, he, hq, s.stream.capacity_pos]
  have hm := hl.pending ▸ mem_pending_line.2 he
  rw [hs, mem_pending_line] at hm
  simp at hm

theorem away_of_isLike (hl : IsLike s (s.move (.act (.comeBack n)))) :
    n ∉ s.stream.away.keys := by
  intro hn
  obtain ⟨e, he⟩ := Table.mem_keys_iff.1 hn
  have hs : (s.move (.act (.comeBack n))).stream.away = s.stream.away.erase n := by
    change (EventStream.comeBack s.stream n).away = _
    simp only [EventStream.comeBack, he, enter]
    split <;> rfl
  have hm := hl.pending ▸ mem_pending_away.2 he
  rw [mem_pending_away, hs] at hm
  simp at hm

end Rest

/-! ### Endless courses -/

/-- The workers after so many moves of an endless course. -/
def course (s : Shift workers) (moves : Nat → Move workers) : Nat → Shift workers
  | 0 => s
  | t + 1 => (s.course moves t).move (moves t)

/-- Whether what waits is helped: after every moment at which it waits there is one at which it does
not, or at which a move helps it. -/
def IsHelped (s : Shift workers) (moves : Nat → Move workers) (waits : Shift workers → Prop)
    (helps : Move workers → Prop) : Prop :=
  ∀ t, waits (s.course moves t) → ∃ u, t ≤ u ∧ (¬ waits (s.course moves u) ∨ helps (moves u))

/-- Whether a course is fair: every worker takes its turn again and again until it stops, and
whatever is waited for comes. -/
structure IsFair (s : Shift workers) (moves : Nat → Move workers) : Prop where
  /-- Nobody else receives. -/
  sole : ∀ t, moves t ≠ .act .take
  turns : ∀ i, IsHelped s moves (fun x => x.stopped i = false)
    fun m => ∃ outside, m = .work i outside
  comesBack : ∀ n, IsHelped s moves (fun x => n ∈ x.stream.away.keys) (· = .act (.comeBack n))
  letIn : ∀ n, IsHelped s moves (fun x => n ∈ x.stream.line.keys) (· = .act (.letIn n))
  lookUps : ∀ load group, IsHelped s moves
    (fun x => x.groups.loads.get? load = some ⟨group, none⟩) fun m => ∃ a, m = .arrive load a

section Course

variable {moves : Nat → Move workers} {u v : Nat}

theorem course_add (t u : Nat) : s.course moves (t + u) =
    (s.course moves t).course (fun k => moves (t + k)) u := by
  induction u with
  | zero => rfl
  | succ u ih => exact congrArg (move · (moves (t + u))) ih

/-- The first moves of a course are a run. -/
theorem course_eq_run (s : Shift workers) (moves : Nat → Move workers) (u : Nat) :
    s.course moves u = s.run ((List.range u).map moves) := by
  induction u with
  | zero => rfl
  | succ u ih =>
      rw [List.range_succ, List.map_append, run_append, ← ih]
      rfl

theorem IsSound.course (h : s.IsSound) (hm : ∀ t, moves t ≠ .act .take) (u : Nat) :
    (s.course moves u).IsSound := by
  induction u with
  | zero => exact h
  | succ u ih => exact ih.move (hm u)

theorem closed_course (h : s.IsSound) (hm : ∀ t, moves t ≠ .act .take)
    (ho : s.stream.isOpen = false) (u : Nat) : (s.course moves u).stream.isOpen = false := by
  induction u with
  | zero => exact ho
  | succ u ih => exact closed_move (h.course hm u).running ih _

theorem isLater_course (h : s.IsSound) (hm : ∀ t, moves t ≠ .act .take) (huv : u ≤ v) :
    (s.course moves u).groups.IsLater (s.course moves v).groups := by
  induction v, huv using Nat.le_induction with
  | base => exact .refl _
  | succ v _ ih => exact ih.trans (isLater_move (h.course hm v) _)

/-- From some moment on everything is in its place. -/
theorem exists_isLike (h : s.IsSound) (hm : ∀ t, moves t ≠ .act .take)
    (ho : s.stream.isOpen = false) :
    ∃ t, ∀ u, IsLike (s.course moves t) (s.course moves (t + u)) := by
  let t := Function.argmin fun u => (s.course moves u).rank
  refine ⟨t, fun u => ?_⟩
  induction u with
  | zero => exact .refl _
  | succ u ih =>
      rcases rank_move (h.course hm (t + u)) (closed_course h hm ho (t + u)) (moves (t + u)) with
        hlt | hl
      · have hle : (s.course moves t).rank ≤ (s.course moves (t + u + 1)).rank :=
          Function.argmin_le (fun u => (s.course moves u).rank) (t + u + 1)
        have hlt : (s.course moves (t + u + 1)).rank < (s.course moves (t + u)).rank := hlt
        have heq := ih.rank_eq
        omega
      · exact ih.trans hl

theorem IsHelped.shift {waits : Shift workers → Prop} {helps : Move workers → Prop}
    (h : IsHelped s moves waits helps) (t : Nat) :
    IsHelped (s.course moves t) (fun k => moves (t + k)) waits helps := by
  intro k hk
  obtain ⟨u, hu, hm⟩ := h (t + k) (by rwa [course_add])
  obtain ⟨d, rfl⟩ := Nat.exists_eq_add_of_le hu
  exact ⟨k + d, Nat.le_add_right k d, by simpa only [← course_add, ← Nat.add_assoc] using hm⟩

/-- What is left of a fair course is fair. -/
theorem IsFair.shift (h : IsFair s moves) (t : Nat) :
    IsFair (s.course moves t) fun k => moves (t + k) where
  sole k := h.sole (t + k)
  turns i := (h.turns i).shift t
  comesBack n := (h.comesBack n).shift t
  letIn n := (h.letIn n).shift t
  lookUps load group := (h.lookUps load group).shift t

/-- In a fair course every look-up ends. -/
theorem IsFair.exists_result (hf : IsFair s moves) (h : s.IsSound) {load : Nat} {group : String}
    (hl : (s.course moves u).groups.loads.get? load = some ⟨group, none⟩) :
    ∃ v, u ≤ v ∧ ((s.course moves v).groups.result? load).isSome = true := by
  obtain ⟨v, huv, hend⟩ := hf.lookUps load group u hl
  obtain ⟨⟨g, result⟩, hk, rfl, -⟩ := isLater_course h hf.sole huv load _ hl
  rcases hend with hn | ⟨a, ha⟩
  · cases result with
    | none => exact absurd hk hn
    | some members => exact ⟨v, huv, by simp [Group.Cache.result?, hk]⟩
  · have hv : (s.course moves (v + 1)).groups = (s.course moves v).groups.arrive load a :=
      congrArg (fun m => groups (move _ m)) ha
    refine ⟨v + 1, Nat.le_succ_of_le huv, ?_⟩
    rw [hv]
    exact Group.Cache.isSome_result?_arrive (Table.mem_keys_iff.2 ⟨_, hk⟩) a

/-- Whether everything is in its place and stays there. -/
def IsAtRest (s : Shift workers) (moves : Nat → Move workers) : Prop :=
  ∀ u, IsLike s (s.course moves u)

section AtRest

variable (hf : IsFair s moves) (h : s.IsSound) (hr : IsAtRest s moves)

include hr in
theorem IsAtRest.step (hm : moves u = m) :
    IsLike (s.course moves u) ((s.course moves u).move m) :=
  hm ▸ (hr u).symm.trans (hr (u + 1))

include hf hr in
theorem IsAtRest.exists_turn (hi : s.stopped i = false) (t : Nat) :
    ∃ u outside, t ≤ u ∧ moves u = .work i outside := by
  have hstopped : ∀ u, (s.course moves u).stopped i = false := fun u =>
    (congrFun (hr u).stopped i).trans hi
  obtain ⟨u, hu, hn | ⟨outside, hm⟩⟩ := hf.turns i t (hstopped t)
  · exact absurd (hstopped u) hn
  · exact ⟨u, outside, hu, hm⟩

include hf h hr in
/-- At rest nobody is at a delivery: the look-up that is waited for ends, and the talk goes on. -/
theorem IsAtRest.desk_eq_none (hi : s.stopped i = false) : s.pool.desks i = none := by
  by_contra hd
  obtain ⟨n, hd⟩ := Option.ne_none_iff_exists'.1 hd
  obtain ⟨c, hc⟩ := h.running.desks i n hd
  have hwait : ∀ t, ∃ u load group, t ≤ u ∧ c.load = some load ∧
      (s.course moves (u + 1)).groups.loads.get? load = some ⟨group, none⟩ := by
    intro t
    obtain ⟨u, outside, hu, hm⟩ := hr.exists_turn hf hi t
    have hnext : s.course moves (u + 1) = (s.course moves u).move (.work i outside) := hm ▸ rfl
    obtain ⟨load, group, hw⟩ := waits_of_isLike (h.course hf.sole u) (hr.step hm)
      ((congrFun (hr u).stopped i).trans hi) ((congrFun (hr u).desks i).trans hd)
      ((congrArg (Table.get? · n) (hr u).conversations).trans hc)
    exact ⟨u, load, group, hu, hnext ▸ hw⟩
  obtain ⟨u, load, group, -, hload, hnone⟩ := hwait 0
  obtain ⟨v, -, hsome⟩ := hf.exists_result h hnone
  obtain ⟨w, load', group', hvw, hload', hnone'⟩ := hwait v
  cases hload.symm.trans hload'
  have hkept := (isLater_course h hf.sole (Nat.le_succ_of_le hvw)).result? hsome
  rw [← hkept, Group.Cache.result?, hnone'] at hsome
  cases hsome

include hf h hr in
/-- At rest all workers have stopped. -/
theorem IsAtRest.stopped (ho : s.stream.isOpen = false) (i : Fin workers) : s.stopped i = true := by
  by_contra hi
  have hi : s.stopped i = false := by simpa using hi
  obtain ⟨u, outside, -, hm⟩ := hr.exists_turn hf hi 0
  obtain ⟨hq, hd⟩ := queue_of_isLike (h.course hf.sole u) (hr.step hm)
    ((congrFun (hr u).stopped i).trans hi)
    ((congrFun (hr u).desks i).trans (hr.desk_eq_none hf h hi))
  -- something is pending in line or away, and it is helped
  have hp : pending (s.course moves u).stream ≠ 0 := by
    intro hp
    have := isDrained_iff.2 ⟨closed_course h hf.sole ho u, hp⟩
    simp [hd] at this
  have hsame : ∀ v, pending (s.course moves v).stream = pending (s.course moves u).stream :=
    fun v => (hr v).pending.trans (hr u).pending.symm
  obtain ⟨⟨place, e⟩, hx⟩ := Multiset.exists_mem_of_ne_zero hp
  cases place with
  | flight n => exact flight_notMem_pending hx
  | queue =>
      rw [mem_pending_queue, hq] at hx
      cases hx
  | line n =>
      have hline : ∀ v, n ∈ (s.course moves v).stream.line.keys := fun v =>
        Table.mem_keys_iff.2 ⟨e, mem_pending_line.1 (hsame v ▸ hx)⟩
      obtain ⟨v, -, hn | hm⟩ := hf.letIn n u (hline u)
      · exact hn (hline v)
      · refine line_of_isLike (hr.step hm) ?_ (hline v)
        rw [List.eq_nil_iff_forall_not_mem] at hq ⊢
        intro e he
        exact hq e (mem_pending_queue.1 (hsame v ▸ mem_pending_queue.2 he))
  | away n =>
      have haway : ∀ v, n ∈ (s.course moves v).stream.away.keys := fun v =>
        Table.mem_keys_iff.2 ⟨e, mem_pending_away.1 (hsame v ▸ hx)⟩
      obtain ⟨v, -, hn | hm⟩ := hf.comesBack n u (haway u)
      · exact hn (haway v)
      · exact away_of_isLike (hr.step hm) (haway v)

end AtRest

/-- In a fair course after the stream was closed all workers stop, and nothing is left. -/
theorem IsFair.exists_stopped (hf : IsFair s moves) (h : s.IsSound) (ho : s.stream.isOpen = false)
    (hw : 0 < workers) : ∃ t, ∀ u, t ≤ u →
      (∀ i, (s.course moves u).stopped i = true) ∧ (s.course moves u).stream.messages = [] := by
  obtain ⟨t, ht⟩ := exists_isLike h hf.sole ho
  have hr : IsAtRest (s.course moves t) fun k => moves (t + k) := by
    intro u
    rw [← course_add]
    exact ht u
  have hstopped := hr.stopped (hf.shift t) (h.course hf.sole t) (closed_course h hf.sole ho t)
  refine ⟨t, fun u hu => ?_⟩
  obtain ⟨d, rfl⟩ := Nat.exists_eq_add_of_le hu
  have hall : ∀ i, (s.course moves (t + d)).stopped i = true := fun i =>
    (congrFun (ht d).stopped i).trans (hstopped i)
  exact ⟨hall, (h.course hf.sole (t + d)).messages_eq_nil hw hall⟩

/-- Who has stopped changes nothing by more turns. -/
theorem course_of_stopped {first : List (Move workers)} (hi : (s.run first).stopped i = true)
    (outside : (q : Question) → Answer q) (hu : first.length ≤ u) :
    s.course (fun t => first.getD t (.work i outside)) u = s.run first := by
  induction u, hu using Nat.le_induction with
  | base =>
      rw [course_eq_run]
      refine congrArg s.run (List.ext_getElem (by simp) fun t _ ht => ?_)
      rw [List.getElem_map, List.getElem_range]
      exact List.getD_eq_getElem _ _ ht
  | succ u hu ih =>
      rw [course, ih, List.getD_eq_default _ _ hu]
      exact if_pos hi

/-- A run at whose end all workers have stopped and all look-ups have ended begins a fair course. -/
theorem isFair_of_run {first : List (Move workers)} (hm : ∀ m ∈ first, m ≠ .act .take)
    (hstopped : ∀ i, (s.run first).stopped i = true) (hd : (s.run first).stream.isDrained = true)
    (hl : ∀ l ∈ (s.run first).groups.loads.values, l.result.isSome = true) (i : Fin workers)
    (outside : (q : Question) → Answer q) : IsFair s fun t => first.getD t (.work i outside) := by
  have helped : ∀ {waits : Shift workers → Prop} {helps : Move workers → Prop},
      ¬ waits (s.run first) → IsHelped s (fun t => first.getD t (.work i outside)) waits helps := by
    intro waits helps hn t _
    refine ⟨max t first.length, le_max_left _ _, .inl ?_⟩
    rwa [course_of_stopped (hstopped i) outside (le_max_right _ _)]
  have hp := (isDrained_iff.1 hd).2
  refine ⟨fun t => ?_, fun i => helped (by simp [hstopped i]), fun n => helped fun hn => ?_,
    fun n => helped fun hn => ?_, fun load group => helped fun hn => ?_⟩
  · cases Nat.lt_or_ge t first.length with
    | inl ht =>
        rw [List.getD_eq_getElem _ _ ht]
        exact hm _ (List.getElem_mem ht)
    | inr ht =>
        rw [List.getD_eq_default _ _ ht]
        nofun
  · obtain ⟨e, he⟩ := Table.mem_keys_iff.1 hn
    have hx := mem_pending_away.2 he
    simp [hp] at hx
  · obtain ⟨e, he⟩ := Table.mem_keys_iff.1 hn
    have hx := mem_pending_line.2 he
    simp [hp] at hx
  · have := hl _ (List.mem_map_of_mem (Table.get?_eq_some_iff.1 hn))
    cases this

end Course

/-- After the stream is closed each of its messages is handed out and dispatched at most once more,
and none that was in flight. In every fair course all workers stop, and then nothing is left. -/
theorem ends_after_close (workers capacity delay : Nat) (keeps : Bool)
    (before : List (Move (Capacity.atLeastOne workers))) (hb : ∀ m ∈ before, m ≠ .act .take) :
    let start := new (Capacity.atLeastOne workers) capacity delay keeps
    let closed := start.run (before ++ [.act .close])
    (∀ after, (∀ m ∈ after, m ≠ .act .take) →
        IsClosing capacity delay start (before ++ [.act .close]) after) ∧
      ∀ moves, IsFair closed moves → ∃ t, ∀ u, t ≤ u →
        (∀ i, (closed.course moves u).stopped i = true) ∧
          (closed.course moves u).stream.messages = [] := by
  intro start closed
  have hw := Capacity.atLeastOne_pos workers
  have hs : closed.IsSound := by
    refine (IsSound.new capacity delay keeps).run (List.forall_mem_append.2 ⟨hb, ?_⟩)
    simp
  have ho : closed.stream.isOpen = false := by
    simp only [closed, run_append]
    rfl
  exact ⟨fun after ha => isClosing_run capacity delay keeps hw hb ha,
    fun moves hf => hf.exists_stopped hs ho hw⟩

/-- One message is in flight, one in the queue, one in line and one away when the stream is closed;
then they are handed out, and the worker stops. -/
theorem ends_after_close_of_each_place :
    let e := Utf8.encode "\x7b\"sender_id\":\"a\",\"selector\":\"group:g\"\x7d".toList
    let work : Move (Capacity.atLeastOne 1) := .work ⟨0, Capacity.atLeastOne_pos 1⟩ Pool.silent
    let before := [.act (.publish e), work, work, .arrive 0 .late, work, work, work,
      .act (.publish []), work, .act (.publish []), .act (.publish e)]
    let after := [work, work, work, .act (.letIn 1), work, work, work, .act (.comeBack 0), work,
      .arrive 1 .late, work, work, work, work, work, .arrive 2 .late, work, work, work, work]
    let start := new (Capacity.atLeastOne 1) 1 5 true
    let closed := start.run (before ++ [.act .close])
    let moves := fun t => after.getD t work
    closed.stream.inFlight.keys = [2] ∧ closed.stream.queue = [⟨1, []⟩] ∧
      closed.stream.line.entries = [(1, ⟨1, e⟩)] ∧ closed.stream.away.entries = [(0, ⟨2, e⟩)] ∧
      IsClosing 1 5 start (before ++ [.act .close]) after ∧ IsFair closed moves ∧
      ∃ t, ∀ u, t ≤ u → (∀ i, (closed.course moves u).stopped i = true) ∧
        (closed.course moves u).stream.messages = [] := by
  intro e work before after start closed moves
  have hb : ∀ m ∈ before, m ≠ .act .take := by simp [before, work]
  have ha : ∀ m ∈ after, m ≠ .act .take := by simp [after, work]
  obtain ⟨hclosing, hends⟩ := ends_after_close 1 1 5 true before hb
  have hfair : IsFair closed moves :=
    isFair_of_run ha (by decide +kernel) (by decide +kernel) (by decide +kernel) _ _
  exact ⟨by decide +kernel, by decide +kernel, by decide +kernel, by decide +kernel,
    hclosing after ha, hfair, hends moves hfair⟩

end Shift
end Courier.Push
