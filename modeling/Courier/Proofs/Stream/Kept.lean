import Courier.Proofs.Stream.Ledger

/-!
# No message is lost or doubled

The messages of a stream are told apart by labels. Whatever acts are carried out, and in whatever
order, the messages that were published are those that the stream keeps and those that are finished,
and each label is at one place only. Main statement: every act keeps this account.
-/

namespace Courier.EventStream

variable {α β : Type}

namespace Note

/-- The message whose publish has ended. -/
def published? : Note β → Option β
  | .published payload => some payload
  | _ => none

/-- The delivery that is handed out. -/
def handed? : Note β → Option (Delivery β)
  | .handed d => some d
  | _ => none

/-- The delivery that is settled. -/
def settled? : Note β → Option (Delivery β)
  | .acked d | .nacked d | .dropped d => some d
  | _ => none

/-- The message that is finished. -/
def finished? : Note β → Option β
  | .acked d | .dropped d => some d.payload
  | _ => none

/-- The delivery that is handed out or settled. -/
def delivery? : Note β → Option (Delivery β)
  | .handed d | .acked d | .nacked d | .dropped d => some d
  | _ => none

end Note

/-- The messages whose publish has ended. -/
def published (log : List (Note β)) : List β :=
  log.filterMap Note.published?

/-- The deliveries that were handed out. -/
def handed (log : List (Note β)) : List (Delivery β) :=
  log.filterMap Note.handed?

/-- The deliveries that were settled. -/
def settled (log : List (Note β)) : List (Delivery β) :=
  log.filterMap Note.settled?

/-- The messages that are finished. -/
def finished (log : List (Note β)) : List β :=
  log.filterMap Note.finished?

/-- How often the message with a label was refused and taken back. -/
def refusals (log : List (Note (Nat × α))) (label : Nat) : Nat :=
  log.countP fun
    | .nacked d => d.payload.1 = label
    | _ => false

/-- Whether a delivery is the last thing that happened to its message. -/
def IsCurrent (log : List (Note (Nat × α))) (d : Delivery (Nat × α)) : Prop :=
  ∃ before after, log = before ++ .handed d :: after ∧
    ∀ x ∈ after, ∀ c ∈ x.delivery?, c.payload.1 ≠ d.payload.1

/-- Whether an act may come after others: a message is handed out with its number of refusals, its
current delivery is settled, and it is dropped when the stream is closed only. -/
def IsFair (log : List (Note (Nat × α))) : Note (Nat × α) → Prop
  | .handed d => d.attempt = 1 + refusals log d.payload.1 ∧ d.payload ∈ published log
  | .acked d => IsCurrent log d
  | .nacked d => IsCurrent log d ∧ .closed ∉ log
  | .dropped d => IsCurrent log d ∧ .closed ∈ log
  | .published _ | .waits _ _ | .closed | .other => True

/-- Whether a publisher waits at a place. -/
def IsWaiting (tickets : List Nat) : Place → Prop
  | .line n => n ∈ tickets
  | .queue | .away _ | .flight _ => False

instance (tickets : List Nat) : DecidablePred (IsWaiting tickets) := fun place => by
  cases place <;> unfold IsWaiting <;> infer_instance

/-- The messages at places where no publisher waits. -/
def held (tickets : List Nat) (h : Multiset (Place × Envelope β)) : Multiset β :=
  (h.filter fun x => ¬ IsWaiting tickets x.1).map fun x => x.2.payload

/-- The deliveries in flight. -/
def flying (h : Multiset (Place × Envelope β)) : Multiset (Delivery β) :=
  h.filterMap fun
    | (.flight n, e) => some ⟨n, e.attempt, e.payload⟩
    | _ => none

/-- The labels of the messages that are kept or finished. -/
def labels (log : List (Note (Nat × α))) (s : EventStream (Nat × α)) : Multiset Nat :=
  (holdings s).map (fun x => x.2.payload.1) + ↑((finished log).map Prod.fst)

/-- The account of a stream: the labels below a bound are used. -/
structure IsKept (bound : Nat) (log : List (Note (Nat × α))) (s : EventStream (Nat × α)) :
    Prop where
  sound : IsSound s
  isOpen : s.isOpen = true ↔ .closed ∉ log
  tickets : ∀ n ∈ tickets log, n < s.ticket
  nodup : (labels log s).Nodup
  below : ∀ n ∈ labels log s, n < bound
  deliveries : ∀ x ∈ log, ∀ d ∈ x.delivery?, d.payload.1 < bound
  published : (published log : Multiset (Nat × α)) =
    held (EventStream.tickets log) (holdings s) + ↑(finished log)
  numbers : (handed log).map Delivery.number = List.range' 1 (s.next - 1)
  next : 1 ≤ s.next
  handed : (handed log : Multiset (Delivery (Nat × α))) = ↑(settled log) + flying (holdings s)
  attempts : ∀ x ∈ holdings s, x.2.attempt = 1 + refusals log x.2.payload.1
  current : ∀ n e, (.flight n, e) ∈ holdings s → IsCurrent log ⟨n, e.attempt, e.payload⟩
  fair : ∀ before x after, log = before ++ x :: after → IsFair before x

section Append

variable (log : List (Note β)) (x : Note β)

theorem published_append :
    (published (log ++ [x]) : Multiset β) = ↑(published log) + ↑x.published?.toList := by
  cases h : x.published? <;> simp [published, h, ← Multiset.coe_add]

theorem handed_append : handed (log ++ [x]) = handed log ++ x.handed?.toList := by
  cases h : x.handed? <;> simp [handed, h]

theorem settled_append : settled (log ++ [x]) = settled log ++ x.settled?.toList := by
  cases h : x.settled? <;> simp [settled, h]

theorem finished_append : finished (log ++ [x]) = finished log ++ x.finished?.toList := by
  cases h : x.finished? <;> simp [finished, h]

theorem tickets_append_waits (n : Nat) (payload : β) :
    tickets (log ++ [.waits n payload]) = tickets log ++ [n] := by
  simp [tickets]

theorem tickets_append (h : ∀ n payload, x ≠ .waits n payload) :
    tickets (log ++ [x]) = tickets log := by
  cases x with
  | waits n payload => exact absurd rfl (h n payload)
  | _ => simp [tickets]

theorem refusals_append (log : List (Note (Nat × α))) (x : Note (Nat × α))
    (h : ∀ d, x ≠ .nacked d) (label : Nat) : refusals (log ++ [x]) label = refusals log label := by
  cases x with
  | nacked d => exact absurd rfl (h d)
  | _ => simp [refusals]

theorem refusals_append_nacked (log : List (Note (Nat × α))) (d : Delivery (Nat × α))
    (label : Nat) : refusals (log ++ [.nacked d]) label =
      refusals log label + if d.payload.1 = label then 1 else 0 := by
  simp [refusals, List.countP_cons]

end Append

section Held

variable (ts : List Nat) (h : Multiset (Place × Envelope β)) {p : Place} (e : Envelope β)

theorem not_isWaiting_queue : ¬ IsWaiting ts .queue := id

theorem not_isWaiting_flight (n : Nat) : ¬ IsWaiting ts (.flight n) := id

theorem held_cons_waiting (hp : IsWaiting ts p) : held ts ((p, e) ::ₘ h) = held ts h := by
  rw [held, Multiset.filter_cons_of_neg _ (by simpa using hp), held]

theorem held_cons (hp : ¬ IsWaiting ts p) :
    held ts ((p, e) ::ₘ h) = e.payload ::ₘ held ts h := by
  rw [held, Multiset.filter_cons_of_pos _ (by simpa using hp), Multiset.map_cons, held]

/-- A new ticket makes no difference to what is held under others. -/
theorem held_append (n : Nat) (hn : ∀ x ∈ h, x.1 ≠ .line n) : held (ts ++ [n]) h = held ts h := by
  rw [held, held]
  congr 1
  apply Multiset.filter_congr
  rintro ⟨p, e⟩ hx
  cases p with
  | line m =>
      have hm : m ≠ n := fun hm => hn _ hx (hm ▸ rfl)
      simp [IsWaiting, hm]
  | _ => simp [IsWaiting]

theorem flying_cons_flight (n : Nat) :
    flying ((.flight n, e) ::ₘ h) = ⟨n, e.attempt, e.payload⟩ ::ₘ flying h :=
  Multiset.filterMap_cons_some _ _ _ rfl

theorem flying_cons (hp : ∀ n, p ≠ .flight n) : flying ((p, e) ::ₘ h) = flying h := by
  apply Multiset.filterMap_cons_none
  cases p with
  | flight n => exact absurd rfl (hp n)
  | _ => rfl

end Held

section Step

variable {bound : Nat} {log : List (Note (Nat × α))} {s t : EventStream (Nat × α)}
  {a : Act (Nat × α)} {x : Note (Nat × α)} {y z : Place × Envelope (Nat × α)}
  {rest : Multiset (Place × Envelope (Nat × α))}

theorem IsKept.label_lt (k : IsKept bound log s) (hy : y ∈ holdings s) :
    y.2.payload.1 < bound := by
  apply k.below
  rw [labels, Multiset.mem_add]
  exact .inl (Multiset.mem_map_of_mem _ hy)

/-- Two messages of a stream have different labels. -/
theorem IsKept.label_ne (k : IsKept bound log s) (hs : holdings s = y ::ₘ rest)
    (hz : z ∈ rest) : z.2.payload.1 ≠ y.2.payload.1 := by
  intro he
  have hn := (Multiset.nodup_add.1 k.nodup).1
  rw [hs, Multiset.map_cons, Multiset.nodup_cons] at hn
  exact hn.1 (he ▸ Multiset.mem_map_of_mem _ hz)

theorem IsKept.line_lt (k : IsKept bound log s) {n : Nat} {e : Envelope (Nat × α)}
    (h : (.line n, e) ∈ holdings s) : n < s.ticket := by
  simp only [holdings, row, Multiset.mem_add, Multiset.mem_coe, List.mem_map, Prod.mk.injEq,
    reduceCtorEq, false_and, and_false, exists_false, false_or, or_false] at h
  obtain ⟨⟨m, f⟩, hm, hn, rfl⟩ := h
  obtain rfl : m = n := by simpa using hn
  exact k.sound.line m (Table.mem_keys_of_mem hm)

/-- What is kept where no publisher waits was published. -/
theorem IsKept.mem_published (k : IsKept bound log s) (hy : y ∈ holdings s)
    (hw : ¬ IsWaiting (EventStream.tickets log) y.1) :
    y.2.payload ∈ EventStream.published log := by
  rw [← Multiset.mem_coe, k.published, Multiset.mem_add]
  exact .inl (Multiset.mem_map_of_mem _ (Multiset.mem_filter.2 ⟨hy, hw⟩))

theorem IsKept.refusals_eq_zero (k : IsKept bound log s) : refusals log bound = 0 := by
  rw [refusals, List.countP_eq_zero]
  intro x hx
  cases x with
  | nacked d =>
      have := k.deliveries _ hx d rfl
      simp only [decide_eq_true_eq]
      omega
  | _ => simp

/-- An act adds at most the next label. -/
theorem labels_effect (ha : ∀ payload, a = .publish payload → payload.1 = bound)
    (h : Effect log s t a x) :
    labels (log ++ [x]) t = bound ::ₘ labels log s ∨ labels (log ++ [x]) t ≤ labels log s := by
  cases h with
  | publish payload hp ht _ =>
      left
      simp [labels, ht, finished_append, Note.finished?, ha payload hp]
  | wait payload hp ht _ _ =>
      left
      simp [labels, ht, finished_append, Note.finished?, ha payload hp]
  | giveUp n e _ hs _ =>
      right
      simpa [labels, hs, finished_append, Note.finished?] using Multiset.le_cons_self _ _
  | letIn n e rest _ hs ht _ => simp [labels, hs, ht, finished_append, Note.finished?]
  | move p q e rest _ _ hs ht _ => simp [labels, hs, ht, finished_append, Note.finished?]
  | hand e rest hs ht _ => simp [labels, hs, ht, finished_append, Note.finished?]
  | ack n e hs _ =>
      right
      apply le_of_eq
      rw [labels, labels, hs, finished_append, Multiset.map_cons]
      simp only [Note.finished?, Option.toList_some, List.map_append, List.map_singleton,
        ← Multiset.coe_add, Multiset.coe_singleton, ← Multiset.singleton_add]
      abel
  | nack n e q rest _ _ hs ht _ => simp [labels, hs, ht, finished_append, Note.finished?]
  | drop n e _ hs _ =>
      right
      apply le_of_eq
      rw [labels, labels, hs, finished_append, Multiset.map_cons]
      simp only [Note.finished?, Option.toList_some, List.map_append, List.map_singleton,
        ← Multiset.coe_add, Multiset.coe_singleton, ← Multiset.singleton_add]
      abel
  | close hs _ => simp [labels, hs, finished_append, Note.finished?]
  | other hs => simp [labels, hs, finished_append, Note.finished?]

/-- What was published is held or finished, whatever comes next. -/
theorem published_effect (k : IsKept bound log s) (h : Effect log s t a x) :
    (published (log ++ [x]) : Multiset (Nat × α)) =
      held (tickets (log ++ [x])) (holdings t) + ↑(finished (log ++ [x])) := by
  have hk := k.published
  have hn : s.ticket ∉ tickets log := fun hn => Nat.lt_irrefl _ (k.tickets _ hn)
  cases h with
  | publish payload _ ht _ =>
      rw [published_append, finished_append, tickets_append _ _ (by simp), ht,
        held_cons _ _ _ (not_isWaiting_queue _), hk]
      simp [Note.published?, Note.finished?, ← Multiset.singleton_add]
      abel
  | wait payload _ ht _ _ =>
      have hw : IsWaiting (tickets log ++ [s.ticket]) (.line s.ticket) := by simp [IsWaiting]
      have hl : ∀ y ∈ holdings s, y.1 ≠ .line s.ticket := by
        rintro ⟨p, e⟩ hy rfl
        exact Nat.lt_irrefl _ (k.line_lt hy)
      simp [published_append, finished_append, tickets_append_waits, Note.published?,
        Note.finished?, ht, held_cons_waiting _ _ _ hw, held_append _ _ _ hl, hk]
  | giveUp n e hn hs _ =>
      have hw : IsWaiting (tickets log) (.line n) := hn
      rw [hs, held_cons_waiting _ _ _ hw] at hk
      simp [published_append, finished_append, tickets_append, Note.published?, Note.finished?, hk]
  | letIn n e rest hn hs ht _ =>
      have hw : IsWaiting (tickets log) (.line n) := hn
      rw [hs, held_cons_waiting _ _ _ hw] at hk
      rw [published_append, finished_append, tickets_append _ _ (by simp), ht,
        held_cons _ _ _ (not_isWaiting_queue _), hk]
      simp [Note.published?, Note.finished?, ← Multiset.singleton_add]
      abel
  | move p q e rest hp hq hs ht _ =>
      have hp : ¬ IsWaiting (tickets log) p := by
        rcases hp with ⟨n, hn, rfl⟩ | ⟨n, rfl⟩
        · exact hn
        · exact id
      have hq : ¬ IsWaiting (tickets log) q := by
        rcases hq with rfl | rfl
        · exact id
        · exact hn
      rw [hs, held_cons _ _ _ hp] at hk
      simp [published_append, finished_append, tickets_append, Note.published?, Note.finished?,
        ht, held_cons _ _ _ hq, hk]
  | hand e rest hs ht _ =>
      rw [hs, held_cons _ _ _ (not_isWaiting_queue _)] at hk
      simp [published_append, finished_append, tickets_append, Note.published?, Note.finished?,
        ht, held_cons _ _ _ (not_isWaiting_flight _ _), hk]
  | ack n e hs _ =>
      rw [hs, held_cons _ _ _ (not_isWaiting_flight _ _)] at hk
      rw [published_append, finished_append, tickets_append _ _ (by simp), hk]
      simp [Note.published?, Note.finished?, ← Multiset.coe_add, ← Multiset.singleton_add]
      abel
  | nack n e q rest _ hq hs ht _ =>
      have hq : ¬ IsWaiting (tickets log) q := by
        rcases hq with rfl | rfl | rfl
        · exact id
        · exact hn
        · exact id
      rw [hs, held_cons _ _ _ (not_isWaiting_flight _ _)] at hk
      simp [published_append, finished_append, tickets_append, Note.published?, Note.finished?,
        ht, held_cons _ _ _ hq, hk]
  | drop n e _ hs _ =>
      rw [hs, held_cons _ _ _ (not_isWaiting_flight _ _)] at hk
      rw [published_append, finished_append, tickets_append _ _ (by simp), hk]
      simp [Note.published?, Note.finished?, ← Multiset.coe_add, ← Multiset.singleton_add]
      abel
  | close hs _ =>
      simp [published_append, finished_append, tickets_append, Note.published?, Note.finished?,
        hs, hk]
  | other hs =>
      simp [published_append, finished_append, tickets_append, Note.published?, Note.finished?,
        hs, hk]

/-- A delivery that is noted is of a message that the stream kept. -/
theorem delivery_effect (h : Effect log s t a x) {d : Delivery (Nat × α)} (hd : d ∈ x.delivery?) :
    ∃ y ∈ holdings s, d.payload = y.2.payload := by
  cases h with
  | hand e rest hs _ _ =>
      cases hd
      exact ⟨_, hs ▸ Multiset.mem_cons_self _ _, rfl⟩
  | ack n e hs _ =>
      cases hd
      exact ⟨_, hs ▸ Multiset.mem_cons_self _ _, rfl⟩
  | nack n e q rest _ _ hs _ _ =>
      cases hd
      exact ⟨_, hs ▸ Multiset.mem_cons_self _ _, rfl⟩
  | drop n e _ hs _ =>
      cases hd
      exact ⟨_, hs ▸ Multiset.mem_cons_self _ _, rfl⟩
  | publish payload _ _ _ => cases hd
  | wait payload _ _ _ _ => cases hd
  | giveUp n e _ _ _ => cases hd
  | letIn n e rest _ _ _ _ => cases hd
  | move p q e rest _ _ _ _ _ => cases hd
  | close _ _ => cases hd
  | other _ => cases hd

/-- Delivery numbers are given out in order. -/
theorem numbers_effect (k : IsKept bound log s) (h : Effect log s t a x) :
    (EventStream.handed (log ++ [x])).map Delivery.number = List.range' 1 (t.next - 1) ∧
      1 ≤ t.next := by
  have hk := k.numbers
  have h₁ := k.next
  have same : x.handed? = none → t.next = s.next →
      (EventStream.handed (log ++ [x])).map Delivery.number = List.range' 1 (t.next - 1) ∧
        1 ≤ t.next := by
    intro hx ht
    rw [handed_append, hx, ht]
    simpa using ⟨hk, h₁⟩
  cases h with
  | hand e rest _ _ hn =>
      have hr : List.range' 1 (s.next - 1 + 1) = List.range' 1 (s.next - 1) ++ [s.next] := by
        rw [List.range'_1_concat, Nat.add_sub_cancel' h₁]
      rw [handed_append, List.map_append, hk, hn, Nat.sub_add_comm h₁, hr]
      exact ⟨rfl, Nat.le_add_left 1 _⟩
  | publish payload _ _ hn => exact same rfl hn
  | wait payload _ _ hn _ => exact same rfl hn
  | giveUp n e _ _ hn => exact same rfl hn
  | letIn n e rest _ _ _ hn => exact same rfl hn
  | move p q e rest _ _ _ _ hn => exact same rfl hn
  | ack n e _ hn => exact same rfl hn
  | nack n e q rest _ _ _ _ hn => exact same rfl hn
  | drop n e _ _ hn => exact same rfl hn
  | close _ hn => exact same rfl hn
  | other hn => exact same rfl (hn ▸ rfl)

/-- What was handed out is settled or in flight, whatever comes next. -/
theorem handed_effect {log : List (Note β)} {s t : EventStream β} {a : Act β} {x : Note β}
    (hk : (EventStream.handed log : Multiset (Delivery β)) = ↑(settled log) + flying (holdings s))
    (h : Effect log s t a x) :
    (EventStream.handed (log ++ [x]) : Multiset (Delivery β)) =
      ↑(settled (log ++ [x])) + flying (holdings t) := by
  rw [handed_append, settled_append, ← Multiset.coe_add, ← Multiset.coe_add, hk]
  cases h with
  | publish payload _ ht _ =>
      simp [Note.handed?, Note.settled?, ht, flying_cons]
  | wait payload _ ht _ _ =>
      simp [Note.handed?, Note.settled?, ht, flying_cons]
  | giveUp n e _ hs _ =>
      simp [Note.handed?, Note.settled?, hs, flying_cons]
  | letIn n e rest _ hs ht _ =>
      simp [Note.handed?, Note.settled?, hs, ht, flying_cons]
  | move p q e rest hp hq hs ht _ =>
      have hp : ∀ n, p ≠ .flight n := by
        rcases hp with ⟨n, -, rfl⟩ | ⟨n, rfl⟩ <;> simp
      have hq : ∀ n, q ≠ .flight n := by
        rcases hq with rfl | rfl <;> simp
      simp [Note.handed?, Note.settled?, hs, ht, flying_cons _ _ hp, flying_cons _ _ hq]
  | hand e rest hs ht _ =>
      rw [hs, ht, flying_cons _ _ (by simp), flying_cons_flight]
      simp only [Note.handed?, Note.settled?, Option.toList_some, Option.toList_none,
        Multiset.coe_singleton, Multiset.coe_nil, ← Multiset.singleton_add]
      abel
  | ack n e hs _ =>
      rw [hs, flying_cons_flight]
      simp only [Note.handed?, Note.settled?, Option.toList_some, Option.toList_none,
        Multiset.coe_singleton, Multiset.coe_nil, ← Multiset.singleton_add]
      abel
  | nack n e q rest _ hq hs ht _ =>
      have hq : ∀ n, q ≠ .flight n := by
        rcases hq with rfl | rfl | rfl <;> simp
      rw [hs, ht, flying_cons _ _ hq, flying_cons_flight]
      simp only [Note.handed?, Note.settled?, Option.toList_some, Option.toList_none,
        Multiset.coe_singleton, Multiset.coe_nil, ← Multiset.singleton_add]
      abel
  | drop n e _ hs _ =>
      rw [hs, flying_cons_flight]
      simp only [Note.handed?, Note.settled?, Option.toList_some, Option.toList_none,
        Multiset.coe_singleton, Multiset.coe_nil, ← Multiset.singleton_add]
      abel
  | close hs _ => simp [Note.handed?, Note.settled?, hs]
  | other hs => simp [Note.handed?, Note.settled?, hs]

/-- Every message that is kept waits for the attempt after its refusals, whatever comes next. -/
theorem attempts_effect (k : IsKept bound log s)
    (ha : ∀ payload, a = .publish payload → payload.1 = bound) (h : Effect log s t a x) :
    ∀ y ∈ holdings t, y.2.attempt = 1 + refusals (log ++ [x]) y.2.payload.1 := by
  have hk := k.attempts
  -- Without a refusal an act keeps the counts, and a message that comes in has a new label.
  have same : (∀ d, x ≠ .nacked d) → (∀ y ∈ holdings t, (∃ p, (p, y.2) ∈ holdings s) ∨
      y.2.attempt = 1 ∧ y.2.payload.1 = bound) →
      ∀ y ∈ holdings t, y.2.attempt = 1 + refusals (log ++ [x]) y.2.payload.1 := by
    intro hx hm y hy
    rw [refusals_append _ _ hx]
    rcases hm y hy with ⟨p, hp⟩ | ⟨hy, hb⟩
    · exact hk (p, y.2) hp
    · rw [hb, k.refusals_eq_zero, hy]
  have moved : ∀ {p q : Place} {e : Envelope (Nat × α)} {rest}, (∀ d, x ≠ .nacked d) →
      holdings s = (p, e) ::ₘ rest → holdings t = (q, e) ::ₘ rest →
      ∀ y ∈ holdings t, y.2.attempt = 1 + refusals (log ++ [x]) y.2.payload.1 := by
    intro p q e rest hx hs ht
    apply same hx
    intro y hy
    rw [ht, Multiset.mem_cons] at hy
    rw [hs]
    rcases hy with rfl | hy
    · exact .inl ⟨p, Multiset.mem_cons_self _ _⟩
    · exact .inl ⟨y.1, Multiset.mem_cons_of_mem hy⟩
  have kept : (∀ d, x ≠ .nacked d) → (∀ y ∈ holdings t, y ∈ holdings s) →
      ∀ y ∈ holdings t, y.2.attempt = 1 + refusals (log ++ [x]) y.2.payload.1 :=
    fun hx hm => same hx fun y hy => .inl ⟨y.1, hm y hy⟩
  cases h with
  | publish payload hp ht _ =>
      apply same (by simp)
      intro y hy
      rw [ht, Multiset.mem_cons] at hy
      rcases hy with rfl | hy
      · exact .inr ⟨rfl, ha payload hp⟩
      · exact .inl ⟨y.1, hy⟩
  | wait payload hp ht _ _ =>
      apply same (by simp)
      intro y hy
      rw [ht, Multiset.mem_cons] at hy
      rcases hy with rfl | hy
      · exact .inr ⟨rfl, ha payload hp⟩
      · exact .inl ⟨y.1, hy⟩
  | giveUp n e _ hs _ => exact kept (by simp) fun y hy => hs ▸ Multiset.mem_cons_of_mem hy
  | letIn n e rest _ hs ht _ => exact moved (by simp) hs ht
  | move p q e rest _ _ hs ht _ => exact moved (by simp) hs ht
  | hand e rest hs ht _ => exact moved (by simp) hs ht
  | ack n e hs _ => exact kept (by simp) fun y hy => hs ▸ Multiset.mem_cons_of_mem hy
  | nack n e q rest _ _ hs ht _ =>
      intro y hy
      rw [ht, Multiset.mem_cons] at hy
      rw [refusals_append_nacked]
      rcases hy with rfl | hy
      · have := hk (.flight n, e) (hs ▸ Multiset.mem_cons_self _ _)
        simp only [if_true] at this ⊢
        omega
      · have hl : e.payload.1 ≠ y.2.payload.1 := (k.label_ne hs hy).symm
        rw [if_neg hl, Nat.add_zero]
        exact hk y (hs ▸ Multiset.mem_cons_of_mem hy)
  | drop n e _ hs _ => exact kept (by simp) fun y hy => hs ▸ Multiset.mem_cons_of_mem hy
  | close hs _ => exact kept (by simp) fun y hy => hs ▸ hy
  | other hs => exact kept (by simp) fun y hy => hs ▸ hy

theorem IsCurrent.append {d : Delivery (Nat × α)} (hd : IsCurrent log d)
    (hx : ∀ c ∈ x.delivery?, c.payload.1 ≠ d.payload.1) : IsCurrent (log ++ [x]) d := by
  obtain ⟨before, after, rfl, ha⟩ := hd
  refine ⟨before, after ++ [x], by simp, ?_⟩
  intro y hy
  cases List.mem_append.1 hy with
  | inl hy => exact ha y hy
  | inr hy =>
      rw [List.mem_singleton.1 hy]
      exact hx

/-- A delivery in flight stays the last of its message, whatever comes next. -/
theorem current_effect (k : IsKept bound log s) (h : Effect log s t a x) :
    ∀ n e, (.flight n, e) ∈ holdings t →
      IsCurrent (log ++ [x]) ⟨n, e.attempt, e.payload⟩ := by
  have hk := k.current
  -- What was in flight and still is has another label than the message that is noted.
  have kept : ∀ {y : Place × Envelope (Nat × α)} {rest}, holdings s = y ::ₘ rest →
      (∀ c ∈ x.delivery?, c.payload = y.2.payload) → ∀ n e, (.flight n, e) ∈ rest →
      IsCurrent (log ++ [x]) ⟨n, e.attempt, e.payload⟩ := by
    intro y rest hs hc n e he
    apply (hk n e (hs ▸ Multiset.mem_cons_of_mem he)).append
    intro c hm
    rw [hc c hm]
    exact (k.label_ne hs he).symm
  have quiet : x.delivery? = none → ∀ n e, (.flight n, e) ∈ holdings s →
      IsCurrent (log ++ [x]) ⟨n, e.attempt, e.payload⟩ :=
    fun hx n e he => (hk n e he).append (by simp [hx])
  intro n e he
  cases h with
  | publish payload _ ht _ =>
      rw [ht, Multiset.mem_cons] at he
      exact quiet rfl n e (he.resolve_left (by simp))
  | wait payload _ ht _ _ =>
      rw [ht, Multiset.mem_cons] at he
      exact quiet rfl n e (he.resolve_left (by simp))
  | giveUp m f _ hs _ => exact quiet rfl n e (hs ▸ Multiset.mem_cons_of_mem he)
  | letIn m f rest _ hs ht _ =>
      rw [ht, Multiset.mem_cons] at he
      exact quiet rfl n e (hs ▸ Multiset.mem_cons_of_mem (he.resolve_left (by simp)))
  | move p q f rest _ hq hs ht _ =>
      rw [ht, Multiset.mem_cons] at he
      have hq : (.flight n, e) ≠ (q, f) := by
        rcases hq with rfl | rfl <;> simp
      exact quiet rfl n e (hs ▸ Multiset.mem_cons_of_mem (he.resolve_left hq))
  | hand f rest hs ht _ =>
      rw [ht, Multiset.mem_cons] at he
      cases he with
      | inl he =>
          cases he
          exact ⟨log, [], rfl, by simp⟩
      | inr he => exact kept hs (by simp [Note.delivery?]) n e he
  | ack m f hs _ => exact kept hs (by simp [Note.delivery?]) n e he
  | nack m f q rest _ hq hs ht _ =>
      rw [ht, Multiset.mem_cons] at he
      have hq : (.flight n, e) ≠ (q, { f with attempt := f.attempt + 1 }) := by
        rcases hq with rfl | rfl | rfl <;> simp
      exact kept hs (by simp [Note.delivery?]) n e (he.resolve_left hq)
  | drop m f _ hs _ => exact kept hs (by simp [Note.delivery?]) n e he
  | close hs _ => exact quiet rfl n e (hs ▸ he)
  | other hs => exact quiet rfl n e (hs ▸ he)

/-- What comes next is fair. -/
theorem fair_effect (k : IsKept bound log s) (h : Effect log s t a x) : IsFair log x := by
  cases h with
  | hand e rest hs _ _ =>
      have hm : (.queue, e) ∈ holdings s := hs ▸ Multiset.mem_cons_self _ _
      exact ⟨k.attempts _ hm, k.mem_published hm id⟩
  | ack n e hs _ => exact k.current n e (hs ▸ Multiset.mem_cons_self _ _)
  | nack n e q rest ho _ hs _ _ =>
      exact ⟨k.current n e (hs ▸ Multiset.mem_cons_self _ _), k.isOpen.1 ho⟩
  | drop n e ho hs _ =>
      refine ⟨k.current n e (hs ▸ Multiset.mem_cons_self _ _), ?_⟩
      by_contra hc
      rw [k.isOpen.2 hc] at ho
      cases ho
  | publish payload _ _ _ => trivial
  | wait payload _ _ _ _ => trivial
  | giveUp n e _ _ _ => trivial
  | letIn n e rest _ _ _ _ => trivial
  | move p q e rest _ _ _ _ _ => trivial
  | close _ _ => trivial
  | other _ => trivial

end Step

theorem tickets_effect {log : List (Note β)} {s t : EventStream β} {a : Act β} {x : Note β}
    (h : Effect log s t a x) (hs : s.ticket ≤ t.ticket) (ht : ∀ n ∈ tickets log, n < s.ticket) :
    ∀ n ∈ tickets (log ++ [x]), n < t.ticket := by
  have quiet : (∀ n payload, x ≠ .waits n payload) →
      ∀ n ∈ tickets (log ++ [x]), n < t.ticket := by
    intro hx n hn
    rw [tickets_append _ _ hx] at hn
    exact Nat.lt_of_lt_of_le (ht n hn) hs
  cases h with
  | wait payload _ _ _ hl =>
      intro n hn
      rw [tickets_append_waits, List.mem_append, List.mem_singleton] at hn
      rcases hn with hn | rfl
      · exact Nat.lt_of_lt_of_le (ht n hn) hs
      · exact hl
  | _ => exact quiet (by simp)

theorem IsKept.new (capacity delay : Nat) :
    IsKept 0 [] (.new capacity delay : EventStream (Nat × α)) := by
  have hh : holdings (.new capacity delay : EventStream (Nat × α)) = 0 := rfl
  exact {
    sound := .new capacity delay
    isOpen := by simp [EventStream.new]
    tickets := by simp [EventStream.tickets]
    nodup := by simp [labels, hh, EventStream.finished]
    below := by simp [labels, hh, EventStream.finished]
    deliveries := by simp
    published := by simp [EventStream.published, EventStream.finished, hh, held]
    numbers := rfl
    next := Nat.le_refl 1
    handed := rfl
    attempts := by simp [hh]
    current := by simp [hh]
    fair := by simp }

/-- Every act keeps the account, and the labels that it uses are below the next bound. -/
theorem IsKept.after {bound : Nat} {log : List (Note (Nat × α))} {s : EventStream (Nat × α)}
    (k : IsKept bound log s) {a : Act (Nat × α)}
    (ha : ∀ payload, a = .publish payload → payload.1 = bound) :
    IsKept (bound + 1) (log ++ [note log s a]) (after log s a) := by
  have h := effect_after log k.sound a
  have hl := labels_effect ha h
  have ht : s.ticket ≤ (EventStream.after log s a).ticket := by
    by_cases hc : a = .close
    · rw [hc]
      exact Nat.le_refl _
    · exact (isLater_after log s hc).ticket
  have hb : bound ∉ labels log s := fun hm => Nat.lt_irrefl _ (k.below _ hm)
  exact {
    sound := k.sound.after log a
    isOpen := by
      by_cases hc : a = .close
      · subst hc
        simp [note, EventStream.after, close]
      · have hn : note log s a ≠ .closed := fun hn => hc ((note_eq_closed_iff log s a).1 hn)
        rw [(isLater_after log s hc).isOpen, k.isOpen]
        simp [hn.symm]
    tickets := tickets_effect h ht k.tickets
    nodup := by
      cases hl with
      | inl hl =>
          rw [hl, Multiset.nodup_cons]
          exact ⟨hb, k.nodup⟩
      | inr hl => exact Multiset.nodup_of_le hl k.nodup
    below := by
      intro n hn
      cases hl with
      | inl hl =>
          rw [hl, Multiset.mem_cons] at hn
          rcases hn with rfl | hn
          · exact Nat.lt_succ_self _
          · exact Nat.lt_succ_of_lt (k.below n hn)
      | inr hl => exact Nat.lt_succ_of_lt (k.below n (Multiset.mem_of_le hl hn))
    deliveries := by
      intro x hx d hd
      cases List.mem_append.1 hx with
      | inl hx => exact Nat.lt_succ_of_lt (k.deliveries x hx d hd)
      | inr hx =>
          rw [List.mem_singleton.1 hx] at hd
          obtain ⟨y, hy, hp⟩ := delivery_effect h hd
          rw [hp]
          exact Nat.lt_succ_of_lt (k.label_lt hy)
    published := published_effect k h
    numbers := (numbers_effect k h).1
    next := (numbers_effect k h).2
    handed := handed_effect k.handed h
    attempts := attempts_effect k ha h
    current := current_effect k h
    fair := by
      intro before x after hx
      rcases List.append_eq_append_iff.1 hx with ⟨l, rfl, hl⟩ | ⟨l, hl, hr⟩
      · cases l with
        | nil =>
            obtain ⟨rfl, -⟩ := List.cons_eq_cons.1 hl
            simpa using fair_effect k h
        | cons y l => simp at hl
      · cases l with
        | nil =>
            obtain ⟨rfl, -⟩ := List.cons_eq_cons.1 hr
            simpa [hl] using fair_effect k h
        | cons y l =>
            obtain ⟨rfl, -⟩ := List.cons_eq_cons.1 hr
            exact k.fair before x l hl }

end Courier.EventStream
