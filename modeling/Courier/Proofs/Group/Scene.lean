import Courier.Proofs.Group.LookUp
import Courier.Service.Server
import Mathlib.Logic.Function.Basic

/-!
# The cache among those who ask it

Around the membership cache many things go on in any order: groups are asked for, the source changes
and replies to look-ups, look-ups end with the reply or come too late, those who wait hear of it,
groups are dropped at once or by the listener, and what is kept may lapse. Main statement: whatever
move comes next, it is one of nine steps, and each is told by what it does to the cache and to those
who ask.
-/

namespace Courier.Group

/-- Where one stands who has asked for a group: waiting for a look-up, or told what it has
brought. -/
inductive Stage where
  | waiting (load : Nat)
  | told (load : Nat) (members : Members)

/-- The look-up that one who has asked depends on. -/
def Stage.load : Stage → Nat
  | .waiting load | .told load _ => load

/-- One who has asked for a group. -/
structure Inquiry where
  group : String
  stage : Stage

/-- A service with its cache, the source of members and all who have asked. -/
structure Scene where
  server : Server
  /-- What the source holds. -/
  source : String → Members
  /-- What the source has replied to look-ups. -/
  replies : Table Nat Members
  /-- The look-ups that have brought what is kept. -/
  origin : String → Nat
  /-- All who ever asked, in their order. -/
  inquiries : List Inquiry

/-- What can go on. -/
inductive Move where
  /-- Someone asks for a group. -/
  | ask (group : String)
  /-- The source replies to a look-up that is under way with what it holds by then. -/
  | reply (load : Nat)
  /-- A look-up that is under way ends with the reply. -/
  | finish (load : Nat)
  /-- A look-up that is under way takes too long. -/
  | expire (load : Nat)
  /-- One who waits hears what the look-up has brought. -/
  | hear (number : Nat)
  /-- A group is dropped at once. -/
  | drop (group : String)
  /-- It is noted that a group has changed. -/
  | note (group : String)
  /-- The listener drops the first group that is noted. -/
  | heed
  /-- What is kept of a group lapses. -/
  | lapse (group : String)
  | change (source : String → Members)

namespace Scene

/-- A service that knows no group yet and has not been asked. -/
def new (server : Server) (keeps : Bool) (source : String → Members) : Scene where
  server := { server with groups := .new keeps }
  source := source
  replies := ∅
  origin := fun _ => 0
  inquiries := []

/-- The membership cache. -/
def cache (p : Scene) : Cache :=
  p.server.groups

/-- The scene with another cache. -/
def withCache (p : Scene) (c : Cache) : Scene :=
  { p with server := { p.server with groups := c } }

/-- Whether a look-up of a group is under way. -/
def IsUnderWay (p : Scene) (load : Nat) (group : String) : Prop :=
  p.cache.loads.get? load = some ⟨group, none⟩

/-- Someone asks for a group. -/
def ask (p : Scene) (group : String) : Scene :=
  let asked := p.cache.ask group
  let stage := match asked.1 with
    | .kept members => Stage.told (p.origin group) (.ok members)
    | .await load | .load load => .waiting load
  { p.withCache asked.2 with inquiries := p.inquiries ++ [⟨group, stage⟩] }

/-- The source replies to a look-up. -/
def reply (p : Scene) (load : Nat) : Scene :=
  match p.cache.loads.get? load, p.replies.get? load with
  | some ⟨group, none⟩, none => { p with replies := p.replies.insert load (p.source group) }
  | _, _ => p

/-- A look-up of a group ends. -/
def close (p : Scene) (load : Nat) (group : String) (result : Members) : Scene :=
  { p.withCache (p.cache.settle load result) with
    origin :=
      if result.isOk && p.cache.keeps then Function.update p.origin group load else p.origin }

/-- A look-up ends with the reply. -/
def finish (p : Scene) (load : Nat) : Scene :=
  match p.cache.loads.get? load, p.replies.get? load with
  | some ⟨group, none⟩, some result => p.close load group result
  | _, _ => p

/-- A look-up takes too long. -/
def expire (p : Scene) (load : Nat) : Scene :=
  match p.cache.loads.get? load with
  | some ⟨group, none⟩ => p.close load group (.error (Cache.tooSlow group))
  | _ => p

/-- One who waits hears what the look-up has brought. -/
def hear (p : Scene) (number : Nat) : Scene :=
  match p.inquiries[number]? with
  | some ⟨group, .waiting load⟩ =>
    match p.cache.result? load with
    | some members => { p with inquiries := p.inquiries.set number ⟨group, .told load members⟩ }
    | none => p
  | _ => p

/-- Makes a move. One that is not possible changes nothing. -/
def move (p : Scene) : Move → Scene
  | .ask group => p.ask group
  | .reply load => p.reply load
  | .finish load => p.finish load
  | .expire load => p.expire load
  | .hear number => p.hear number
  | .drop group | .lapse group => p.withCache (p.cache.invalidate group)
  | .note group => { p with server := (Server.note group p.server).2 }
  | .heed => { p with server := p.server.heed }
  | .change source => { p with source }

/-- Makes moves. -/
def run (p : Scene) (moves : List Move) : Scene :=
  moves.foldl move p

/-- What a move does. -/
inductive Step (p : Scene) : Scene → Prop where
  /-- The source changes, or the service beside the cache. -/
  | aside (server : Server) (source : String → Members) :
    Step p ({ p with server, source }.withCache p.cache)
  /-- One who asks is told at once. -/
  | answered {group : String} {members : List String} : p.cache.kept.get? group = some members →
    Step p { p with inquiries := p.inquiries ++ [⟨group, .told (p.origin group) (.ok members)⟩] }
  /-- One who asks waits with others. -/
  | joined {group : String} {load : Nat} : p.IsUnderWay load group →
    Step p { p with inquiries := p.inquiries ++ [⟨group, .waiting load⟩] }
  /-- One who asks waits for a new look-up. -/
  | begun {group : String} : (∀ load, ¬ p.IsUnderWay load group) →
    Step p { p.withCache { p.cache with
        loads := p.cache.loads.insert p.cache.loads.size ⟨group, none⟩ } with
      inquiries := p.inquiries ++ [⟨group, .waiting p.cache.loads.size⟩] }
  | replied {load : Nat} {group : String} : p.IsUnderWay load group → p.replies.get? load = none →
    Step p { p with replies := p.replies.insert load (p.source group) }
  /-- A look-up brings members. -/
  | brought {load : Nat} {group : String} {members : List String} : p.IsUnderWay load group →
    p.replies.get? load = some (.ok members) →
    Step p { p.withCache { p.cache with
        kept := if p.cache.keeps then p.cache.kept.insert group members else p.cache.kept
        loads := p.cache.loads.insert load ⟨group, some (.ok members)⟩ } with
      origin := if p.cache.keeps then Function.update p.origin group load else p.origin }
  /-- A look-up fails. -/
  | failed {load : Nat} {group : String} {fault : ServiceError} : p.IsUnderWay load group →
    p.replies.get? load = some (.error fault) ∨ fault = Cache.tooSlow group →
    Step p (p.withCache { p.cache with
      loads := p.cache.loads.insert load ⟨group, some (.error fault)⟩ })
  | heard {number load : Nat} {group : String} {members : Members} :
    p.inquiries[number]? = some ⟨group, .waiting load⟩ → p.cache.result? load = some members →
    Step p { p with inquiries := p.inquiries.set number ⟨group, .told load members⟩ }
  | dropped (server : Server) (group : String) :
    Step p ({ p with server }.withCache (p.cache.invalidate group))

variable {p q : Scene} {group : String} {load : Nat}

theorem loading?_eq_none {c : Cache} (h : c.loading? group = none) (load : Nat) :
    c.loads.get? load ≠ some ⟨group, none⟩ := by
  intro hl
  have hm := Table.get?_eq_some_iff.1 hl
  have hn := List.find?_eq_none.1 (Option.map_eq_none_iff.1 h) _ hm
  simp at hn

theorem step_ask (p : Scene) (group : String) : Step p (p.ask group) := by
  unfold ask Cache.ask
  cases hk : p.cache.kept.get? group with
  | some members => exact .answered hk
  | none =>
      cases hl : p.cache.loading? group with
      | some load => exact .joined (Cache.loading?_eq_some hl)
      | none => exact .begun (loading?_eq_none hl)

theorem Step.idle (p : Scene) : Step p p :=
  .aside p.server p.source

theorem step_reply (p : Scene) (load : Nat) : Step p (p.reply load) := by
  unfold reply
  split
  · exact .replied ‹_› ‹_›
  · exact .idle p

theorem step_close {result : Members} (h : p.IsUnderWay load group)
    (hr : p.replies.get? load = some result ∨ result = .error (Cache.tooSlow group)) :
    Step p (p.close load group result) := by
  unfold close
  rw [Cache.settle, h]
  cases result with
  | ok members => exact .brought h (hr.resolve_right (by simp))
  | error fault => exact .failed h (hr.imp_right Except.error.inj)

theorem step_finish (p : Scene) (load : Nat) : Step p (p.finish load) := by
  unfold finish
  split
  · exact step_close ‹_› (.inl ‹_›)
  · exact .idle p

theorem step_expire (p : Scene) (load : Nat) : Step p (p.expire load) := by
  unfold expire
  split
  · exact step_close ‹_› (.inr rfl)
  · exact .idle p

theorem step_hear (p : Scene) (number : Nat) : Step p (p.hear number) := by
  unfold hear
  split
  · split
    · exact .heard ‹_› ‹_›
    · exact .idle p
  · exact .idle p

theorem step_note (p : Scene) (group : String) :
    Step p { p with server := (Server.note group p.server).2 } := by
  unfold Server.note
  split
  · exact .aside { p.server with invalidations := p.server.invalidations ++ [group] } p.source
  · exact .idle p

theorem step_heed (p : Scene) : Step p { p with server := p.server.heed } := by
  unfold Server.heed
  split
  · exact .idle p
  · rename_i group rest _
    exact .dropped { p.server with invalidations := rest } group

/-- Every move is one of the steps. -/
theorem step_move (p : Scene) (m : Move) : Step p (p.move m) := by
  cases m with
  | ask group => exact step_ask p group
  | reply load => exact step_reply p load
  | finish load => exact step_finish p load
  | expire load => exact step_expire p load
  | hear number => exact step_hear p number
  | drop group => exact .dropped p.server group
  | note group => exact step_note p group
  | heed => exact step_heed p
  | lapse group => exact .dropped p.server group
  | change source => exact .aside p.server source

/-! ### Single moves -/

section Moves

variable {members : List String} {result : Members}

theorem ask_eq_kept (hk : p.cache.kept.get? group = some members) :
    p.cache.ask group = (.kept members, p.cache) := by
  rw [Cache.ask, hk]

theorem ask_eq_load (hk : p.cache.kept.get? group = none) (hn : ∀ load, ¬ p.IsUnderWay load group) :
    p.cache.ask group = (.load p.cache.loads.size, { p.cache with
      loads := p.cache.loads.insert p.cache.loads.size ⟨group, none⟩ }) := by
  have hl : p.cache.loading? group = none :=
    Option.eq_none_iff_forall_ne_some.2 fun load hl => hn load (Cache.loading?_eq_some hl)
  rw [Cache.ask, hk]
  simp only [hl]

theorem ask_of_kept (hk : p.cache.kept.get? group = some members) :
    p.ask group =
      { p with inquiries := p.inquiries ++ [⟨group, .told (p.origin group) (.ok members)⟩] } := by
  unfold ask
  rw [ask_eq_kept hk]
  rfl

theorem ask_of_load (hk : p.cache.kept.get? group = none)
    (hn : ∀ load, ¬ p.IsUnderWay load group) :
    p.ask group = { p.withCache { p.cache with
        loads := p.cache.loads.insert p.cache.loads.size ⟨group, none⟩ } with
      inquiries := p.inquiries ++ [⟨group, .waiting p.cache.loads.size⟩] } := by
  unfold ask
  rw [ask_eq_load hk hn]

theorem reply_eq (hu : p.IsUnderWay load group) (hr : p.replies.get? load = none) :
    p.reply load = { p with replies := p.replies.insert load (p.source group) } := by
  unfold reply
  rw [hu, hr]

theorem finish_eq (hu : p.IsUnderWay load group) (hr : p.replies.get? load = some result) :
    p.finish load = p.close load group result := by
  unfold finish
  rw [hu, hr]

theorem expire_eq (hu : p.IsUnderWay load group) :
    p.expire load = p.close load group (.error (Cache.tooSlow group)) := by
  unfold expire
  rw [hu]

theorem result?_close (hu : p.IsUnderWay load group) (result : Members) :
    (p.close load group result).cache.result? load = some result := by
  change (p.cache.settle load result).result? load = some result
  rw [Cache.settle, hu]
  exact (Cache.result?_insert ..).trans (if_pos rfl)

theorem kept_close (hu : p.IsUnderWay load group) (members : List String) :
    (p.close load group (.ok members)).cache.kept =
      if p.cache.keeps then p.cache.kept.insert group members else p.cache.kept := by
  change (p.cache.settle load (.ok members)).kept = _
  rw [Cache.settle, hu]

end Moves

/-! ### Runs -/

theorem run_cons (p : Scene) (m : Move) (moves : List Move) :
    p.run (m :: moves) = (p.move m).run moves :=
  rfl

theorem run_append (p : Scene) (moves more : List Move) :
    p.run (moves ++ more) = (p.run moves).run more :=
  List.foldl_append

theorem run_concat (p : Scene) (moves : List Move) (m : Move) :
    p.run (moves ++ [m]) = (p.run moves).move m :=
  run_append p moves [m]

/-- What every step keeps holds after moves. -/
theorem run_of_step {I : Scene → Prop} (hs : ∀ {p q}, I p → Step p q → I q) (h : I p)
    (moves : List Move) : I (p.run moves) := by
  induction moves generalizing p with
  | nil => exact h
  | cons m moves ih => exact ih (hs h (step_move p m))

end Scene

end Courier.Group
