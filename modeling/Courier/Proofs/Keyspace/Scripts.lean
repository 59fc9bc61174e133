import Courier.Keyspace.Tokens
import Courier.Proofs.Dialogue
import Courier.Proofs.Table

/-!
# What rows of commands do

A row of commands runs as one, so it is a function of the keyspace that it finds: `Work.on` carries
it out. Each of the three rows about tokens is put in closed form here: it reads the fields under
its key with their end, and puts others in their place with an end of their own.
-/

namespace Courier.Keyspace

variable {α β : Type} (now : Int) (key : String) (k : Keyspace)

/-- Carries out work on a keyspace. -/
def Work.on (w : Work α) (k : Keyspace) : Except Refusal α × Keyspace :=
  w.run.run k

@[simp] theorem on_pure (a : α) : Work.on (pure a) k = (.ok a, k) := rfl

@[simp] theorem on_throw (r : Refusal) : Work.on (throw r : Work α) k = (.error r, k) := rfl

@[simp] theorem on_modify (f : Keyspace → Keyspace) : Work.on (modify f) k = (.ok (), f k) := rfl

@[simp] theorem on_find : Work.on (find now key) k = (.ok (k.live? now key), k) := rfl

/-- What follows some work is done on what the work leaves, unless it is refused. -/
theorem on_bind (w : Work α) (f : α → Work β) (k : Keyspace) :
    Work.on (w >>= f) k =
      match w.on k with
      | (.ok a, l) => (f a).on l
      | (.error r, l) => (.error r, l) := by
  simp only [Work.on, ExceptT.run_bind, StateT.run_bind]
  rcases w.run.run k with ⟨_ | _, _⟩ <;> rfl

theorem on_unexplained (w : Work α) (k : Keyspace) :
    w.unexplained.on k = ((w.on k).1.mapError fun _ => .within, (w.on k).2) := by
  unfold Work.unexplained Work.on
  simp only [tryCatch, tryCatchThe, MonadExceptOf.tryCatch, ExceptT.tryCatch, ExceptT.run_mk,
    StateT.run_bind]
  rcases h : StateT.run w k with ⟨_ | _, _⟩
  · rw [show w.run.run k = _ from h]
    rfl
  · rw [show w.run.run k = _ from h]
    rfl

/-! ### Fields under a key -/

/-- The fields that stand under a key at a time, and their end. -/
def shelf (k : Keyspace) (now : Int) (key : String) : Table String String × Option Int :=
  match k.live? now key with
  | some ⟨.fields t, expires⟩ => (t, expires)
  | _ => (∅, none)

/-- Whether no text stands under a key at a time. -/
def IsFielded (k : Keyspace) (now : Int) (key : String) : Prop :=
  ∀ e, k.live? now key = some e → ∃ t, e.content = .fields t

variable {k : Keyspace} {now : Int} {key : String}

theorem live?_of_isFielded (h : k.IsFielded now key) :
    (k.live? now key = none ∧ k.shelf now key = (∅, none)) ∨
      k.live? now key = some ⟨.fields (k.shelf now key).1, (k.shelf now key).2⟩ := by
  cases hl : k.live? now key with
  | none => simp [shelf, hl]
  | some e =>
      obtain ⟨t, ht⟩ := h e hl
      obtain ⟨content, expires⟩ := e
      cases ht
      simp [shelf, hl]

theorem shelf_of_get? {t : Table String String} {expires : Option Int}
    (h : k.entries.get? key = some ⟨.fields t, expires⟩)
    (hn : ∀ second, expires = some second → now < second) : k.shelf now key = (t, expires) := by
  have live : Entry.isLive now ⟨.fields t, expires⟩ = true := by
    cases expires with
    | none => rfl
    | some second => exact decide_eq_true (hn second rfl)
  rw [shelf, live?, h, Option.filter_some, if_pos live]

/-- Fields that have come to their end do not stand any more. -/
theorem lt_of_shelf {second : Int} (h : (k.shelf now key).2 = some second) : now < second := by
  rw [shelf] at h
  split at h
  · rename_i t expires hl
    dsimp only at h
    subst h
    simpa [Entry.isLive] using (Option.filter_eq_some_iff.1 hl).2
  · cases h

/-- What is found standing under a key was put there. -/
theorem shelf_cases (k : Keyspace) (now : Int) (key : String) :
    k.shelf now key = (∅, none) ∨
      k.entries.get? key = some ⟨.fields (k.shelf now key).1, (k.shelf now key).2⟩ := by
  rw [shelf]
  split
  · rename_i hl
    exact .inr (Option.filter_eq_some_iff.1 hl).1
  · exact .inl rfl

/-- What stands under a key stood there before, if nothing was done. -/
theorem get?_shelf_of_le {m : Int} (h : m ≤ now) {token value : String}
    (hv : (k.shelf now key).1.get? token = some value) :
    (k.shelf m key).1.get? token = some value := by
  rcases shelf_cases k now key with hs | hg
  · rw [hs] at hv
    cases hv
  · rw [shelf_of_get? hg fun second hs => Int.lt_of_le_of_lt h (lt_of_shelf hs)]
    exact hv

theorem isLive_shelf (h : k.IsFielded now key) (t : Table String String) :
    Entry.isLive now ⟨.fields t, (k.shelf now key).2⟩ = true := by
  rcases live?_of_isFielded h with ⟨-, hs⟩ | hl
  · rw [hs]
    rfl
  · exact (Option.filter_eq_some_iff.1 hl).2

theorem on_fields (h : k.IsFielded now key) :
    (fields now key).on k = (.ok (k.shelf now key).1, k) := by
  rw [fields, on_bind, on_find]
  rcases live?_of_isFielded h with ⟨hl, hs⟩ | hl
  · rw [hl, hs]
    rfl
  · rw [hl]
    rfl

theorem on_setFields (h : k.IsFielded now key) (t : Table String String) :
    (setFields now key t).on k = (.ok (), k.put key ⟨.fields t, (k.shelf now key).2⟩) := by
  simp only [setFields, on_bind, on_find, on_modify]
  rcases live?_of_isFielded h with ⟨hl, hs⟩ | hl
  · rw [hl, hs]
    rfl
  · rw [hl]
    rfl

theorem get?_entries_put (e : Entry) (key other : String) :
    (k.put key e).entries.get? other = if other = key then some e else k.entries.get? other :=
  Table.get?_insert _ _ _ _

theorem shelf_put_of_ne {other : String} (h : other ≠ key) (e : Entry) :
    (k.put key e).shelf now other = k.shelf now other := by
  rw [shelf, live?_put, if_neg h, ← shelf]

theorem shelf_put_self (t : Table String String) (second : Int) :
    (k.put key ⟨.fields t, some second⟩).shelf now key =
      if now < second then (t, some second) else (∅, none) := by
  by_cases h : now < second <;> simp [shelf, live?_put, Entry.isLive, h, Option.filter]

theorem put_put (e f : Entry) : (k.put key e).put key f = k.put key f :=
  congrArg Keyspace.mk (Table.insert_insert k.entries key e f)

theorem live?_put_self {e : Entry} (h : e.isLive now = true) :
    (k.put key e).live? now key = some e := by
  rw [live?_put, if_pos rfl, Option.filter_some, if_pos h]

/-! ### Ends -/

/-- The seconds that are left until an end, or -1 where there is none. -/
def left (now : Int) (expires : Option Int) : Int :=
  (expires.map (· - now)).getD (-1)

/-- The end of a key that is to stay for a span if less than a bound is left of it. -/
def prolonged (now bound span : Int) (expires : Option Int) : Option Int :=
  if left now expires < bound ∧ accepts now span = true then some (now + span) else expires

/-- A span that is taken is not refused. -/
theorem not_refused {span : Int} (taken : accepts now span = true) {p : Prop} :
    ¬ (p ∧ accepts now span = false) := by
  rintro ⟨-, refused⟩
  exact Bool.false_ne_true (refused.symm.trans taken)

theorem on_ttl {e : Entry} (h : e.isLive now = true) :
    (ttl now key).on (k.put key e) = (.ok (left now e.expires), k.put key e) := by
  rw [ttl, on_bind, on_find, live?_put_self h]
  obtain ⟨content, _ | second⟩ := e <;> rfl

theorem on_expire {e : Entry} (h : e.isLive now = true) (span : Int) :
    (expire now key span).on (k.put key e) =
      if accepts now span = true then (.ok (), k.put key { e with expires := some (now + span) })
      else (.error (.badSpan "expire"), k.put key e) := by
  rw [expire]
  cases ha : accepts now span with
  | false => rfl
  | true =>
      simp only [Bool.not_true, Bool.false_eq_true, if_false, on_bind, on_find]
      rw [live?_put_self h]
      simp only [on_modify, put_put]
      rfl

/-- The end of both rows that give a key an end. What was put before the refusal stays. -/
theorem on_prolong {e : Entry} (h : e.isLive now = true) (bound span : Int) (b : β) :
    Work.on (ttl now key >>= fun n =>
        if n < bound then expire now key span >>= fun _ => pure b else pure b) (k.put key e) =
      (if left now e.expires < bound ∧ accepts now span = false then .error (.badSpan "expire")
        else .ok b,
        k.put key { e with expires := prolonged now bound span e.expires }) := by
  rw [on_bind, on_ttl h, prolonged]
  by_cases hl : left now e.expires < bound
  · simp only [hl, if_true, on_bind, on_expire h]
    cases ha : accepts now span <;> simp
  · simp [hl]

/-! ### The rows about tokens -/

theorem kicked_ne_usable : kicked ≠ usable := by
  decide

theorem on_kick (h : k.IsFielded now key) (token : String) (span : Int) :
    ((Script.kick key token span).work now).on k =
      (if left now (k.shelf now key).2 < 0 ∧ accepts now span = false then
          .error (.badSpan "expire")
        else .ok 2,
        k.put key ⟨.fields ((k.shelf now key).1.insert token kicked),
          prolonged now 0 span (k.shelf now key).2⟩) := by
  rw [Script.work, on_bind, on_fields h]
  dsimp only
  rw [on_bind, on_setFields h]
  exact on_prolong (isLive_shelf h _) 0 span 2

theorem on_issue (h : k.IsFielded now key) (token : String) (span : Int) :
    ((Script.issue key token span).work now).on k =
      (if left now (k.shelf now key).2 < span ∧ accepts now span = false then
          .error (.badSpan "expire")
        else .ok ((k.shelf now key).1.filter (isOther token)).size,
        k.put key ⟨.fields (issued (k.shelf now key).1 token),
          prolonged now span span (k.shelf now key).2⟩) := by
  rw [Script.work, on_bind, on_fields h]
  dsimp only
  rw [on_bind, on_setFields h]
  exact on_prolong (isLive_shelf h _) span span _

theorem on_kickAll (h : k.IsFielded now key) :
    ((Script.kickAll key).work now).on k =
      (.ok ((k.shelf now key).1.filter fun _ value => value = usable).size,
        if (k.shelf now key).1.isEmpty then k else
          k.put key ⟨.fields ((k.shelf now key).1.mapValues fun _ value =>
            if value = usable then kicked else value), (k.shelf now key).2⟩) := by
  simp only [Script.work, on_bind, on_fields h]
  cases he : (k.shelf now key).1.isEmpty with
  | true =>
      have : (k.shelf now key).1.entries = [] := by simpa [Table.isEmpty] using he
      simp [Table.filter, Table.size, this]
  | false => simp [on_bind, on_setFields h, -bind_pure_comp]

/-! ### Sending -/

theorem Shared.on_bind (s : Shared α) (f : α → Shared β) (k : Keyspace) :
    (s >>= f).on now k =
      match s.on now k with
      | (.ok a, l) => (f a).on now l
      | (.error e, l) => (.error e, l) := by
  refine (Dialogue.run_except_bind (answer now) s f k).trans ?_
  rw [← show s.on now k = s.run.run (answer now) k from rfl]
  rcases s.on now k with ⟨_ | _, _⟩ <;> rfl

theorem Shared.on_send (c : Command) (k : Keyspace) :
    (send c).on now k = (((c.work now).on k).1.mapError Refusal.error, ((c.work now).on k).2) := rfl

/-- Of a row that is refused the service hears only that it was. -/
theorem Shared.on_run (s : Script) (k : Keyspace) :
    (send (.run s)).on now k =
      (((s.work now).on k).1.mapError fun _ => Refusal.within.error, ((s.work now).on k).2) := by
  change ((((s.work now).unexplained).on k).1.mapError Refusal.error,
    (((s.work now).unexplained).on k).2) = _
  rw [on_unexplained]
  cases ((s.work now).on k).1 <;> rfl

end Courier.Keyspace
