import Courier.Push.Delivery
import Courier.Push.Rpc
import Mathlib.Control.Monad.Basic
import Mathlib.Logic.Function.Basic

/-!
# A book of push tokens

What is kept of the clients is a book: the push token of each client that has one. Calls write in it
and read it. Main statement: as long as calls are told what stands in the book, each is told what
follows from the calls before it.
-/

namespace Courier

/-- A call about the registrations of clients. -/
inductive RegistrationCall where
  | update (c : Client) (pushToken : String)
  | delete (c : Client)
  | list (user : String)
  deriving DecidableEq

namespace RegistrationCall

/-- What a call comes back with. A registration is told without the moment at which it was made. -/
inductive Reply where
  | done (result : Except ServiceError Unit)
  | listed (found : Push.Timely (List Push.Target))
  deriving DecidableEq

/-- Refuses a call that names no client, or no push token. -/
def check : RegistrationCall → Except ServiceError Unit
  | .update c pushToken =>
    if (Platform.ofId? c.platform).isNone then .error (unknownPlatform c.platform)
    else if pushToken = "" then .error (.invalidArgument "push token is empty")
    else .ok ()
  | .delete c =>
    if c.user = "" then .error (.invalidArgument "user_id is empty")
    else if (Platform.ofId? c.platform).isNone then .error (unknownPlatform c.platform)
    else .ok ()
  | .list _ => .ok ()

/-- The client whose registration a call changes. -/
def client? : RegistrationCall → Option Client
  | .update c _ | .delete c => some c
  | .list _ => none

/-- The platform of a client that is registered is known. -/
theorem known_of_check {c : Client} {pushToken : String}
    (h : (update c pushToken).check = .ok ()) : (Platform.ofId? c.platform).isSome := by
  rw [check] at h
  split at h
  · cases h
  · rename_i hp
    exact Option.isSome_iff_ne_none.2 (mt Option.isNone_iff_eq_none.2 hp)

/-- A call is refused as one that does not say what it must. -/
theorem exists_of_check {call : RegistrationCall} {e : ServiceError} (h : call.check = .error e) :
    ∃ text, e = .invalidArgument text := by
  cases call with
  | update c pushToken =>
      rw [check] at h
      split at h
      · exact ⟨_, (Except.error.inj h).symm⟩
      · split at h
        · exact ⟨_, (Except.error.inj h).symm⟩
        · cases h
  | delete c =>
      rw [check] at h
      split at h
      · exact ⟨_, (Except.error.inj h).symm⟩
      · split at h
        · exact ⟨_, (Except.error.inj h).symm⟩
        · cases h
  | list user => cases h

end RegistrationCall

open RegistrationCall (Reply)

/-- The calls that were made, in order, with what they came back with. -/
abbrev Transcript := List (RegistrationCall × Reply)

namespace Transcript

/-- The last call about a client that was not refused. -/
def last? (past : Transcript) (c : Client) : Option RegistrationCall :=
  ((past.filter fun x => x.1.client? = some c ∧ x.2 = .done (.ok ())).map Prod.fst).getLast?

theorem last?_append (past : Transcript) (call : RegistrationCall) (reply : Reply) (c : Client) :
    last? (past ++ [(call, reply)]) c =
      if call.client? = some c ∧ reply = .done (.ok ()) then some call else last? past c := by
  rw [last?, List.filter_append, List.map_append]
  by_cases h : call.client? = some c ∧ reply = .done (.ok ())
  · simp [h]
  · simp [h, last?]

/-- Whether a call comes back with what follows from the calls before it. A change is made unless
the call is refused, and the registrations of a user are listed in the order of their platforms,
those of the clients for whom the last change was an update, with the push tokens of these. -/
def Tells (past : Transcript) : RegistrationCall → Reply → Prop
  | .list user, reply =>
    ∃ targets, reply = .listed (some (.ok targets)) ∧
      targets.Pairwise (fun a b => a.client.platform < b.client.platform) ∧
      ∀ t, t ∈ targets ↔
        t.client.user = user ∧ past.last? t.client = some (.update t.client t.pushToken)
  | call, reply => reply = .done call.check

/-- Whether each call comes back with what follows from the calls before it. -/
def IsTrue (log : Transcript) : Prop :=
  ∀ past call reply later, log = past ++ (call, reply) :: later → Tells past call reply

end Transcript

/-- The push tokens that are kept of clients. -/
abbrev Book := Client → Option String

namespace Book

/-- Where the notifications of a user go, in the order of the platforms. -/
def targets (book : Book) (user : String) : List Push.Target :=
  Platform.all.filterMap fun p => (book ⟨user, p.id⟩).map (Push.Target.mk ⟨user, p.id⟩)

/-- Answers a call that is not refused. -/
def answer (book : Book) : RegistrationCall → Reply × Book
  | .update c pushToken => (.done (.ok ()), Function.update book c (some pushToken))
  | .delete c => (.done (.ok ()), Function.update book c none)
  | .list user => (.listed (some (.ok (book.targets user))), book)

/-- Carries out a call. -/
def perform (book : Book) (call : RegistrationCall) : Reply × Book :=
  match call.check with
  | .error e => (.done (.error e), book)
  | .ok _ => book.answer call

/-- Carries out calls in order. -/
def transcript (book : Book) : List RegistrationCall → Transcript × Book
  | [] => ([], book)
  | call :: calls =>
    let first := book.perform call
    let rest := transcript first.2 calls
    ((call, first.1) :: rest.1, rest.2)

variable {book : Book} {past : Transcript} {c : Client} {pushToken user : String}

/-- Whether only clients on known platforms stand in a book. -/
def IsKnown (book : Book) : Prop :=
  ∀ c pushToken, book c = some pushToken → (Platform.ofId? c.platform).isSome

theorem IsKnown.answer (h : book.IsKnown) {call : RegistrationCall} (hc : call.check = .ok ()) :
    (book.answer call).2.IsKnown := by
  intro c pushToken hb
  cases call with
  | update d token =>
      change Function.update book d (some token) c = some pushToken at hb
      by_cases hd : c = d
      · exact hd ▸ RegistrationCall.known_of_check hc
      · rw [Function.update_of_ne hd] at hb
        exact h c pushToken hb
  | delete d =>
      change Function.update book d none c = some pushToken at hb
      by_cases hd : c = d
      · rw [hd, Function.update_self] at hb
        cases hb
      · rw [Function.update_of_ne hd] at hb
        exact h c pushToken hb
  | list user => exact h c pushToken hb

theorem IsKnown.perform (h : book.IsKnown) (call : RegistrationCall) :
    (book.perform call).2.IsKnown := by
  rw [Book.perform]
  cases hc : call.check with
  | error e => exact h
  | ok _ => exact h.answer hc

/-! ### What is read -/

theorem pairwise_targets (book : Book) (user : String) :
    (book.targets user).Pairwise fun a b => a.client.platform < b.client.platform := by
  have hp : Platform.all.Pairwise fun p q => p.id < q.id := by decide
  refine List.pairwise_filterMap.2 (hp.imp fun {p q} hpq a ha b hb => ?_)
  obtain ⟨_, -, rfl⟩ := Option.map_eq_some_iff.1 ha
  obtain ⟨_, -, rfl⟩ := Option.map_eq_some_iff.1 hb
  exact hpq

theorem mem_targets_iff (h : book.IsKnown) {t : Push.Target} :
    t ∈ book.targets user ↔ t.client.user = user ∧ book t.client = some t.pushToken := by
  obtain ⟨⟨other, n⟩, pushToken⟩ := t
  constructor
  · intro ht
    obtain ⟨p, -, hb⟩ := List.mem_filterMap.1 ht
    obtain ⟨_, hb, he⟩ := Option.map_eq_some_iff.1 hb
    cases he
    exact ⟨rfl, hb⟩
  · rintro ⟨rfl, hb⟩
    obtain ⟨p, hp⟩ := Option.isSome_iff_exists.1 (h _ _ hb)
    obtain rfl := Platform.id_of_ofId? hp
    exact List.mem_filterMap.2
      ⟨p, List.mem_of_find?_eq_some hp, Option.map_eq_some_iff.2 ⟨_, hb, rfl⟩⟩

/-! ### What a book follows from -/

/-- Whether a book follows from the calls that were made. -/
structure Records (book : Book) (past : Transcript) : Prop where
  known : book.IsKnown
  last : ∀ c pushToken, book c = some pushToken ↔ past.last? c = some (.update c pushToken)

namespace Records

theorem empty : Records (fun _ => none) [] :=
  ⟨nofun, fun _ _ => iff_of_false nofun nofun⟩

/-- A call comes back with what follows from the calls before it. -/
theorem tells (h : Records book past) (call : RegistrationCall) :
    past.Tells call (book.perform call).1 := by
  cases call with
  | update c token =>
      change (book.perform _).1 = _
      rw [perform]
      cases (RegistrationCall.update c token).check <;> rfl
  | delete c =>
      change (book.perform _).1 = _
      rw [perform]
      cases (RegistrationCall.delete c).check <;> rfl
  | list user =>
      refine ⟨book.targets user, rfl, book.pairwise_targets user, fun t => ?_⟩
      rw [mem_targets_iff h.known, h.last]

/-- What a call leaves in the book follows from the calls up to it. -/
theorem perform (h : Records book past) (call : RegistrationCall) :
    Records (book.perform call).2 (past ++ [(call, (book.perform call).1)]) := by
  refine ⟨h.known.perform call, fun c pushToken => ?_⟩
  rw [Transcript.last?_append, Book.perform]
  cases call.check with
  | error e => simpa using h.last c pushToken
  | ok _ =>
      cases call with
      | update d token =>
          by_cases hd : c = d
          · subst hd
            simp [answer, RegistrationCall.client?]
          · simpa [answer, RegistrationCall.client?, hd, Ne.symm hd] using
              h.last c pushToken
      | delete d =>
          by_cases hd : c = d
          · subst hd
            simp [answer, RegistrationCall.client?]
          · simpa [answer, RegistrationCall.client?, hd, Ne.symm hd] using
              h.last c pushToken
      | list user => simpa [answer, RegistrationCall.client?] using h.last c pushToken

/-- Calls come back with what follows from those before them. -/
theorem tells_of_mem (h : Records book past) {calls : List RegistrationCall}
    {pre later : Transcript} {call : RegistrationCall} {reply : Reply}
    (hc : (book.transcript calls).1 = pre ++ (call, reply) :: later) :
    (past ++ pre : Transcript).Tells call reply := by
  induction calls generalizing book past pre with
  | nil => exact absurd hc (by simp [transcript])
  | cons first calls ih =>
      cases pre with
      | nil =>
          cases (List.cons.inj hc).1
          rw [List.append_nil]
          exact h.tells _
      | cons x pre =>
          obtain ⟨rfl, ht⟩ := List.cons.inj hc
          rw [List.append_cons]
          exact ih (h.perform first) ht

end Records

/-- From an empty book on, each call comes back with what follows from the calls before it. -/
theorem isTrue_transcript (calls : List RegistrationCall) :
    (transcript (fun _ => none) calls).1.IsTrue :=
  fun _ _ _ _ hc => Records.empty.tells_of_mem hc

end Book

end Courier
