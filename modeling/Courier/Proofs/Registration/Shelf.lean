import Courier.Proofs.Keyspace.Registered
import Courier.Proofs.Registration.Book
import Courier.Proofs.Service.Host
import Mathlib.Data.List.Sort

/-!
# Registrations on different shelves

The service keeps the registrations of its clients itself or in a keyspace. Main statement: either
way they are the same book of push tokens, so whatever calls are made on both, they are told the
same, and each is told what follows from the calls before it.
-/

namespace Courier

/-- A host of the service, and how the registrations of a user are read there. -/
structure Shelf (σ : Type) extends Host σ where
  read : Collaborators → String → StateM σ (Push.Timely (List Registration))
  /-- The moment of a call is that of the world outside. -/
  nowMs : ∀ outside s, answer outside .nowMs s = (outside.milliseconds, s)

namespace Shelf

/-- The service that keeps the registrations itself. -/
def server : Shelf Server where
  toHost := Host.server
  read outside user := Server.answerDelivery outside (.registrations user)
  nowMs _ _ := rfl

/-- The service that keeps the registrations in a keyspace. -/
def shared : Shelf Keyspace.SharedServer where
  toHost := Host.shared
  read outside user := Keyspace.SharedServer.answerDelivery outside (.registrations user)
  nowMs _ _ := rfl

variable {σ : Type} (shelf : Shelf σ) (outside : Collaborators)

open RegistrationCall (Reply)

/-- Carries out a call. -/
def perform : RegistrationCall → StateM σ Reply
  | .update c pushToken => .done <$> shelf.run outside (Push.updateRegistration c pushToken)
  | .delete c => .done <$> shelf.run outside (Push.deleteRegistration c)
  | .list user => fun s =>
    let found := shelf.read outside user s
    (.listed (found.1.map (Except.map (List.map Push.Target.ofRegistration))), found.2)

/-- Carries out calls in order, each in the world outside as it is by then. -/
def transcript : List (Collaborators × RegistrationCall) → σ → Transcript × σ
  | [], s => ([], s)
  | x :: calls, s =>
    let first := shelf.perform x.1 x.2 s
    let rest := transcript calls first.2
    ((x.2, first.1) :: rest.1, rest.2)

/-! ### Calls -/

/-- The registration that an update makes. -/
def registered (c : Client) (pushToken : String) : Registration :=
  ⟨c.user, c.platform, pushToken, Int64.ofInt outside.milliseconds⟩

/-- Carries out a call that is not refused. -/
def carryOut : RegistrationCall → StateM σ Reply
  | .update c pushToken =>
    .done <$> shelf.answer outside (.register (registered outside c pushToken))
  | .delete c => (fun r => .done (r.map fun _ => ())) <$> shelf.answer outside (.unregister c)
  | .list user => shelf.perform outside (.list user)

theorem run_nowMs (s : σ) :
    shelf.run outside Service.nowMs s = (.ok outside.milliseconds, s) :=
  congrArg (fun r : Int × σ => (Except.ok r.1, r.2)) (shelf.nowMs outside s)

theorem run_updateRegistration (c : Client) (pushToken : String) (s : σ) :
    shelf.run outside (Push.updateRegistration c pushToken) s =
      match (RegistrationCall.update c pushToken).check with
      | .error e => (.error e, s)
      | .ok _ => shelf.answer outside (.register (registered outside c pushToken)) s := by
  rw [Push.updateRegistration, Host.run_bind, Host.run_ofExcept, checkPlatform,
    RegistrationCall.check]
  cases hp : Platform.ofId? c.platform with
  | none => rfl
  | some p =>
      by_cases ht : pushToken = ""
      · simp only [ht, if_true]
        rfl
      · simp only [ht, if_false]
        refine (shelf.run_bind outside Service.nowMs _ s).trans ?_
        rw [run_nowMs]
        rfl

theorem run_deleteRegistration (c : Client) (s : σ) :
    shelf.run outside (Push.deleteRegistration c) s =
      match (RegistrationCall.delete c).check with
      | .error e => (.error e, s)
      | .ok _ =>
        let r := shelf.answer outside (.unregister c) s
        (r.1.map fun _ => (), r.2) := by
  rw [Push.deleteRegistration, Host.run_bind, Host.run_ofExcept, checkUser, RegistrationCall.check]
  by_cases hu : c.user = ""
  · rw [if_pos hu, if_pos hu]
  · rw [if_neg hu, if_neg hu]
    dsimp only
    rw [Host.run_bind, Host.run_ofExcept, checkPlatform]
    cases hp : Platform.ofId? c.platform with
    | none => rfl
    | some p =>
        refine (shelf.run_bind outside (Service.unregister c) _ s).trans ?_
        have ha : shelf.run outside (Service.unregister c) s =
          shelf.answer outside (.unregister c) s := rfl
        rw [ha]
        change _ = ((shelf.answer outside (.unregister c) s).1.map fun _ => (),
          (shelf.answer outside (.unregister c) s).2)
        rcases shelf.answer outside (.unregister c) s with ⟨_ | _, _⟩ <;> rfl

/-- Whether a call is carried out has nothing to do with what is kept. -/
theorem perform_eq (call : RegistrationCall) (s : σ) :
    shelf.perform outside call s =
      match call.check with
      | .error e => (.done (.error e), s)
      | .ok _ => shelf.carryOut outside call s := by
  cases call with
  | update c pushToken =>
      have hr : shelf.perform outside (.update c pushToken) s =
          (.done (shelf.run outside (Push.updateRegistration c pushToken) s).1,
            (shelf.run outside (Push.updateRegistration c pushToken) s).2) := rfl
      rw [hr, run_updateRegistration]
      cases (RegistrationCall.update c pushToken).check <;> rfl
  | delete c =>
      have hr : shelf.perform outside (.delete c) s =
          (.done (shelf.run outside (Push.deleteRegistration c) s).1,
            (shelf.run outside (Push.deleteRegistration c) s).2) := rfl
      rw [hr, run_deleteRegistration]
      cases (RegistrationCall.delete c).check <;> rfl
  | list user => rfl

/-! ### Shelves that are books -/

/-- Whether a shelf is a book, where a state keeps some book at first: every call comes back with
what the book says and leaves what is then in the book, and it is told rightly who is registered. -/
structure IsBook (Keeps : σ → Book → Prop) : Prop where
  carryOut : ∀ {s book}, Keeps s book → ∀ outside {call : RegistrationCall}, call.check = .ok () →
    (shelf.carryOut outside call s).1 = (book.answer call).1 ∧
      Keeps (shelf.carryOut outside call s).2 (book.answer call).2
  unregister : ∀ {s book}, Keeps s book → ∀ outside c,
    (shelf.answer outside (.unregister c) s).1 = .ok (book c).isSome

variable {shelf} {Keeps : σ → Book → Prop} {book : Book} {s : σ}

theorem IsBook.perform (h : shelf.IsBook Keeps) (hk : Keeps s book) (call : RegistrationCall) :
    (shelf.perform outside call s).1 = (book.perform call).1 ∧
      Keeps (shelf.perform outside call s).2 (book.perform call).2 := by
  rw [perform_eq, Book.perform]
  cases hc : call.check with
  | error e => exact ⟨rfl, hk⟩
  | ok _ => exact h.carryOut hk outside hc

theorem IsBook.transcript (h : shelf.IsBook Keeps) (hk : Keeps s book)
    (calls : List (Collaborators × RegistrationCall)) :
    (shelf.transcript calls s).1 = (book.transcript (calls.map Prod.snd)).1 ∧
      Keeps (shelf.transcript calls s).2 (book.transcript (calls.map Prod.snd)).2 := by
  induction calls generalizing s book with
  | nil => exact ⟨rfl, hk⟩
  | cons x calls ih =>
      obtain ⟨hr, hn⟩ := h.perform x.1 hk x.2
      obtain ⟨ht, hl⟩ := ih hn
      rw [List.map_cons, Shelf.transcript, Book.transcript]
      exact ⟨by rw [hr, ht], hl⟩

/-! ### What is found and what is in the book -/

/-- Whether what was found for clients are the push tokens of a book. -/
def AreFound (found : Client → Option Registration) (book : Book) : Prop :=
  ∀ c, (found c).map Push.Target.ofRegistration = (book c).map (Push.Target.mk c)

namespace AreFound

variable {found : Client → Option Registration}

theorem update (h : AreFound found book) {c : Client} {r : Option Registration}
    {pushToken : Option String}
    (hr : r.map Push.Target.ofRegistration = pushToken.map (Push.Target.mk c)) :
    AreFound (Function.update found c r) (Function.update book c pushToken) := by
  intro d
  by_cases hd : d = c
  · subst hd
    rw [Function.update_self, Function.update_self, hr]
  · rw [Function.update_of_ne hd, Function.update_of_ne hd, h d]

theorem pushToken_eq (h : AreFound found book) (c : Client) :
    (found c).map Registration.pushToken = book c := by
  have ht := congrArg (Option.map Push.Target.pushToken) (h c)
  rw [Option.map_map, Option.map_map] at ht
  exact ht.trans Option.map_id'

theorem isSome_eq (h : AreFound found book) (c : Client) : (found c).isSome = (book c).isSome := by
  rw [← h.pushToken_eq c, Option.isSome_map]

end AreFound

/-! ### The shelf of the service itself -/

/-- Whether the registrations of the service are a book. -/
structure ServerKeeps (s : Server) (book : Book) : Prop where
  ordered : s.registrations.IsOrdered
  filed : s.registrations.IsFiled
  known : book.IsKnown
  found : AreFound s.registrations.registration? book

/-- The registrations of a user are listed as they stand in the book: both rows are in the order of
the platforms, and both have the same members. -/
theorem ServerKeeps.listed {s : Server} (h : ServerKeeps s book) (user : String) :
    (s.registrations.ofUser user).map Push.Target.ofRegistration = book.targets user := by
  let before : Push.Target → Push.Target → Prop := fun a b => a.client.platform < b.client.platform
  have : Std.Antisymm before := ⟨fun _ _ hab hba => absurd hba (Int32.lt_asymm hab)⟩
  have : Std.Irrefl before := ⟨fun _ => Int32.lt_irrefl⟩
  have order : ((s.registrations.ofUser user).map Push.Target.ofRegistration).Pairwise before :=
    List.pairwise_map.2 (h.ordered user)
  refine order.eq_of_mem_iff (book.pairwise_targets user) fun t => ?_
  rw [Book.mem_targets_iff h.known, ← h.found.pushToken_eq, List.mem_map]
  constructor
  · rintro ⟨r, hr, rfl⟩
    obtain ⟨hu, hs⟩ := (h.ordered.mem_ofUser_iff h.filed).1 hr
    exact ⟨hu, congrArg (Option.map Registration.pushToken) hs⟩
  · rintro ⟨rfl, ht⟩
    obtain ⟨r, hr, ht⟩ := Option.map_eq_some_iff.1 ht
    have hc : r.client = t.client := h.filed.client_eq hr
    exact ⟨r, (h.ordered.mem_ofUser_iff h.filed).2 ⟨congrArg Client.user hc, hc ▸ hr⟩,
      congrArg₂ Push.Target.mk hc ht⟩

theorem isBook_server : server.IsBook ServerKeeps where
  carryOut {s book} h outside call hc := by
    cases call with
    | update c pushToken =>
        let r := registered outside c pushToken
        have hr : (s.registrations.register r).registration? =
            Function.update s.registrations.registration? c (some r) := by
          funext d
          rw [RegistrationStore.registration?_register, Function.update_apply]
          exact if_congr eq_comm rfl rfl
        refine ⟨rfl, h.ordered.operate (.register r), h.filed.operate (.register r),
          h.known.answer hc, ?_⟩
        change AreFound (s.registrations.register r).registration? _
        rw [hr]
        exact h.found.update rfl
    | delete c =>
        have hr : ((s.registrations.strike c).tidy c.user).registration? =
            Function.update s.registrations.registration? c none := by
          funext d
          rw [RegistrationStore.registration?_tidy, RegistrationStore.registration?_strike,
            Function.update_apply]
          exact if_congr eq_comm rfl rfl
        refine ⟨rfl, (h.ordered.operate (.strike c)).operate (.tidy c.user),
          (h.filed.operate (.strike c)).operate (.tidy c.user), h.known.answer hc, ?_⟩
        change AreFound ((s.registrations.strike c).tidy c.user).registration? _
        rw [hr]
        exact h.found.update rfl
    | list user => exact ⟨congrArg (fun l => Reply.listed (some (.ok l))) (h.listed user), h⟩
  unregister {s book} h _ c := by
    change Except.ok (s.registrations.contains c) = _
    rw [RegistrationStore.contains_eq, h.found.isSome_eq]

theorem serverKeeps_of_empty {s : Server} (h : s.registrations = ∅) :
    ServerKeeps s fun _ => none where
  ordered := h ▸ .empty
  filed := h ▸ .empty
  known := nofun
  found c := by
    rw [h, RegistrationStore.registration?_empty]
    rfl

/-! ### The shelf in a keyspace -/

open Keyspace Keyspace.Registrations

/-- Whether what stands under the keys of registrations is a book. -/
def SharedKeeps (w : SharedServer) (book : Book) : Prop :=
  ∃ found, Holds found w.keyspace ∧ AreFound found book

theorem isBook_shared : shared.IsBook SharedKeeps where
  carryOut {w book} h outside call _ := by
    obtain ⟨found, hf, ha⟩ := h
    cases call with
    | update c pushToken =>
        let r := registered outside c pushToken
        have hr : shared.carryOut outside (.update c pushToken) w =
            (.done ((register r).on outside.seconds w.keyspace).1,
              { w with keyspace := ((register r).on outside.seconds w.keyspace).2 }) := rfl
        rw [hr, register_on]
        exact ⟨rfl, _, hf.register r, ha.update rfl⟩
    | delete c =>
        have hr : shared.carryOut outside (.delete c) w =
            (.done (((unregister c).on outside.seconds w.keyspace).1.map fun _ => ()),
              { w with keyspace := ((unregister c).on outside.seconds w.keyspace).2 }) := rfl
        rw [hr, unregister_on]
        exact ⟨rfl, _, hf.unregister c, ha.update rfl⟩
    | list user =>
        have hr : shared.carryOut outside (.list user) w =
            (.listed (some (((ofUser user).on outside.seconds w.keyspace).1.map
              (List.map Push.Target.ofRegistration))),
              { w with keyspace := ((ofUser user).on outside.seconds w.keyspace).2 }) := rfl
        have targets : (Platform.all.filterMap fun p => found ⟨user, p.id⟩).map
            Push.Target.ofRegistration = book.targets user := by
          rw [List.map_filterMap]
          exact congrArg (fun f => Platform.all.filterMap f) (funext fun p => ha ⟨user, p.id⟩)
        rw [hr, hf.ofUser_on]
        exact ⟨congrArg (fun l => Reply.listed (some (.ok l))) targets, found, hf, ha⟩
  unregister {w book} h outside c := by
    obtain ⟨found, hf, ha⟩ := h
    have hr : (shared.answer outside (.unregister c) w).1 =
      ((unregister c).on outside.seconds w.keyspace).1 := rfl
    rw [hr, unregister_on, hf.live?, Option.isSome_map, ha.isSome_eq]

theorem sharedKeeps_of_empty {w : SharedServer}
    (h : ∀ c, w.keyspace.entries.get? (registrationKey c) = none) :
    SharedKeeps w fun _ => none :=
  ⟨fun _ => none, h, fun _ => rfl⟩

/-! ### Calls that fail -/

/-- Whether a call only fails as one that does not say what it must, and changes nothing then. -/
def FailsStill (shelf : Shelf σ) : Prop :=
  ∀ outside call s e, (shelf.perform outside call s).1 = .done (.error e) →
    (∃ text, e = .invalidArgument text) ∧ (shelf.perform outside call s).2 = s

/-- A call that is not refused does not fail. -/
theorem failsStill_of_carryOut
    (h : ∀ outside call s e, (shelf.carryOut outside call s).1 ≠ .done (.error e)) :
    shelf.FailsStill := by
  intro outside call s e he
  rw [perform_eq] at he ⊢
  cases hc : call.check with
  | error e' =>
      rw [hc] at he
      cases he
      exact ⟨RegistrationCall.exists_of_check hc, rfl⟩
  | ok _ =>
      rw [hc] at he
      exact absurd he (h outside call s e)

theorem failsStill_server : server.FailsStill :=
  failsStill_of_carryOut fun outside call s e => by cases call <;> exact nofun

theorem failsStill_shared : shared.FailsStill := by
  refine failsStill_of_carryOut fun outside call w e => ?_
  cases call with
  | update c pushToken => exact nofun
  | delete c =>
      have hr : (shared.carryOut outside (.delete c) w).1 =
        .done (((unregister c).on outside.seconds w.keyspace).1.map fun _ => ()) := rfl
      rw [hr, unregister_on]
      exact nofun
  | list user => exact nofun

/-! ### The same book -/

/-- Whatever calls are made, from nothing on, with whatever users, platforms and push tokens, and at
whatever times: the service that keeps the registrations itself and the one that keeps them in a
keyspace tell the same, and what they tell follows from the calls before. Where a client is then
taken out, they tell alike whether it was registered. A call that fails changes nothing. -/
theorem transcripts_eq {s : Server} {w : SharedServer} (hs : s.registrations = ∅)
    (hw : ∀ c, w.keyspace.entries.get? (registrationKey c) = none)
    {run run' : List (Collaborators × RegistrationCall)}
    (same : run'.map Prod.snd = run.map Prod.snd) :
    (server.transcript run s).1.IsTrue ∧
      (shared.transcript run' w).1 = (server.transcript run s).1 ∧
      (∀ outside outside' c,
        (shared.answer outside' (.unregister c) (shared.transcript run' w).2).1 =
          (server.answer outside (.unregister c) (server.transcript run s).2).1) ∧
      server.FailsStill ∧ shared.FailsStill := by
  obtain ⟨hr, hk⟩ := isBook_server.transcript (serverKeeps_of_empty hs) run
  obtain ⟨hr', hk'⟩ := isBook_shared.transcript (sharedKeeps_of_empty hw) run'
  rw [same] at hr' hk'
  refine ⟨?_, hr'.trans hr.symm, fun outside outside' c => ?_, failsStill_server, failsStill_shared⟩
  · rw [hr]
    exact Book.isTrue_transcript (run.map Prod.snd)
  · rw [isBook_shared.unregister hk', isBook_server.unregister hk]

/-- One user registers two clients and gives one up, another registers a client that is written much
like the first; a platform that nobody knows is refused. -/
theorem transcripts_of_two_users :
    let world : Int → Collaborators := fun n => {
      seconds := n, milliseconds := 1000 * n, fresh := "x"
      members := fun _ => .ok [], vendors := [], notify := fun _ _ _ => .ok () }
    let c : Client := ⟨"u", 2⟩
    let d : Client := ⟨"u", 1⟩
    let calls : List RegistrationCall := [.update c "a", .update d "b", .update ⟨"u:2", 1⟩ "c",
      .update ⟨"u", 11⟩ "d", .list "u", .delete d, .update c "e", .list "u"]
    let start : Server := .new {}
    (shared.transcript (calls.map (world 7, ·)) ⟨start, ∅⟩).1 = calls.zip
      [.done (.ok ()), .done (.ok ()), .done (.ok ()),
        .done (.error (.invalidArgument "unknown platform_id 11")),
        .listed (some (.ok [⟨d, "b"⟩, ⟨c, "a"⟩])), .done (.ok ()), .done (.ok ()),
        .listed (some (.ok [⟨c, "e"⟩]))] := by
  intro world c d calls start
  have same : (calls.map (world 7, ·)).map Prod.snd = (calls.map (world 3, ·)).map Prod.snd := rfl
  rw [(transcripts_eq (s := start) (w := ⟨start, ∅⟩) rfl (fun _ => rfl) same).2.1]
  decide +kernel

end Shelf

end Courier
