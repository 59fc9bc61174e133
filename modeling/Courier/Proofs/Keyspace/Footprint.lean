import Courier.Keyspace.Registrations
import Courier.Proofs.Keyspace.Keys
import Courier.Proofs.Keyspace.Tombstone

/-!
# What an operation on a keyspace can reach

A computation stays within certain keys if it changes nothing under the others, and what comes of it
depends on those keys alone. Every command stays within the keys that it names, refused or not, and
whatever stands under them. Main statement: no two keys of clients are the same, so nothing that is
done for one client is noticed where the tokens of another or the registrations of another user are
read.
-/

namespace Courier.Keyspace

/-- The key under which a row of commands works. -/
def Script.key : Script → String
  | .issue key _ _ | .kick key _ _ | .kickAll key => key

/-- The keys that a command names. -/
def Command.keys : Command → List String
  | .texts keys => keys
  | .setText key .. | .delete key | .field key _ | .allFields key => [key]
  | .run s => [s.key]

variable {α β : Type} {keys : List String} {key : String} {now : Int}

/-- Whether two keyspaces have the same under some keys. -/
def AgreeOn (keys : List String) (k l : Keyspace) : Prop :=
  ∀ key ∈ keys, k.entries.get? key = l.entries.get? key

theorem get?_entries_erase (k : Keyspace) (key other : String) :
    (k.erase key).entries.get? other = if other = key then none else k.entries.get? other :=
  Table.get?_erase _ _ _

/-- Whether a computation stays within some keys. -/
structure Within (keys : List String) (f : Keyspace → α × Keyspace) : Prop where
  /-- Under other keys nothing changes. -/
  rest : ∀ k key, key ∉ keys → (f k).2.entries.get? key = k.entries.get? key
  /-- What comes of it, and what it leaves under its keys, depends on what stands there. -/
  own : ∀ k l, AgreeOn keys k l → (f k).1 = (f l).1 ∧ AgreeOn keys (f k).2 (f l).2

namespace Within

theorem still (a : α) : Within keys fun k => (a, k) where
  rest _ _ _ := rfl
  own _ _ h := ⟨rfl, h⟩

theorem map {f : Keyspace → α × Keyspace} (hf : Within keys f) (g : α → β) :
    Within keys fun k => (g (f k).1, (f k).2) where
  rest := hf.rest
  own k l h := ⟨congrArg g (hf.own k l h).1, (hf.own k l h).2⟩

/-- One computation after another, which is left out if the first fails. -/
theorem andThen {ε : Type} {f : Keyspace → Except ε α × Keyspace}
    {g : α → Keyspace → Except ε β × Keyspace} {both : Keyspace → Except ε β × Keyspace}
    (hf : Within keys f) (hg : ∀ a, Within keys (g a))
    (hok : ∀ k a l, f k = (.ok a, l) → both k = g a l)
    (herror : ∀ k e l, f k = (.error e, l) → both k = (.error e, l)) : Within keys both where
  rest k key hk := by
    have hr := hf.rest k key hk
    rcases hfk : f k with ⟨e | a, l⟩
    · rw [herror k e l hfk]
      rwa [hfk] at hr
    · rw [hok k a l hfk]
      rw [hfk] at hr
      exact ((hg a).rest l key hk).trans hr
  own k l h := by
    obtain ⟨hv, hs⟩ := hf.own k l h
    rcases hk : f k with ⟨r, k'⟩
    rcases hl : f l with ⟨r', l'⟩
    rw [hk, hl] at hv hs
    cases hv
    cases r with
    | ok a =>
        rw [hok k a k' hk, hok l a l' hl]
        exact (hg a).own k' l' hs
    | error e =>
        rw [herror k e k' hk, herror l e l' hl]
        exact ⟨rfl, hs⟩

/-! ### Work -/

theorem bind {w : Work α} {f : α → Work β} (hw : Within keys w.on)
    (hf : ∀ a, Within keys (f a).on) : Within keys (w >>= f).on :=
  hw.andThen hf (fun k a l h => by rw [on_bind, h]) fun k e l h => by rw [on_bind, h]

theorem pure (a : α) : Within keys (Pure.pure a : Work α).on :=
  .still _

theorem throw (r : Refusal) : Within keys (MonadExcept.throw r : Work α).on :=
  .still _

theorem find (hk : key ∈ keys) : Within keys (find now key).on where
  rest _ _ _ := rfl
  own k l h := by
    refine ⟨?_, h⟩
    rw [on_find, on_find, live?, live?, h key hk]

theorem put (hk : key ∈ keys) (e : Entry) :
    Within keys (modify fun k => k.put key e : Work Unit).on where
  rest k other ho := by
    have hne : other ≠ key := fun he => ho (he ▸ hk)
    rw [on_modify, get?_entries_put, if_neg hne]
  own k l h := by
    refine ⟨rfl, fun other ho => ?_⟩
    rw [on_modify, on_modify, get?_entries_put, get?_entries_put, h other ho]

theorem erase (hk : key ∈ keys) : Within keys (modify fun k => k.erase key : Work Unit).on where
  rest k other ho := by
    have hne : other ≠ key := fun he => ho (he ▸ hk)
    rw [on_modify, get?_entries_erase, if_neg hne]
  own k l h := by
    refine ⟨rfl, fun other ho => ?_⟩
    rw [on_modify, on_modify, get?_entries_erase, get?_entries_erase, h other ho]

theorem mapM {f : β → Work α} {row : List β} (h : ∀ b ∈ row, Within keys (f b).on) :
    Within keys (row.mapM f).on := by
  induction row with
  | nil => exact .pure []
  | cons b row ih =>
      rw [List.mapM_cons]
      simp only [List.forall_mem_cons] at h
      exact h.1.bind fun a => (ih h.2).bind fun as => .pure (a :: as)

/-! ### The parts of commands -/

theorem text? (hk : key ∈ keys) : Within keys (text? now key).on := by
  refine (find hk).bind fun e => ?_
  split
  · exact .pure _
  · exact .pure _
  · exact .pure _

theorem fields (hk : key ∈ keys) : Within keys (fields now key).on := by
  refine (find hk).bind fun e => ?_
  split
  · exact .pure _
  · exact .throw _
  · exact .pure _

theorem setFields (hk : key ∈ keys) (t : Table String String) :
    Within keys (setFields now key t).on :=
  (find hk).bind fun _ => .put hk _

theorem ttl (hk : key ∈ keys) : Within keys (ttl now key).on := by
  refine (find hk).bind fun e => ?_
  split
  · exact .pure _
  · exact .pure _
  · exact .pure _

theorem expire (hk : key ∈ keys) (span : Int) : Within keys (expire now key span).on := by
  unfold Keyspace.expire
  cases accepts now span
  · exact .throw _
  · refine (find hk).bind fun e => ?_
    split
    · exact .pure _
    · exact .put hk _

/-- The end of both rows that give a key an end. -/
theorem prolong (hk : key ∈ keys) (bound span : Int) (a : α) :
    Within keys (Work.on (Keyspace.ttl now key >>= fun n =>
      if n < bound then Keyspace.expire now key span >>= fun _ => Pure.pure a
      else Pure.pure a)) := by
  refine (ttl hk).bind fun n => ?_
  split
  · exact (expire hk span).bind fun _ => .pure a
  · exact .pure a

/-! ### Commands -/

theorem script (s : Script) (now : Int) : Within [s.key] (s.work now).on := by
  have hk : s.key ∈ [s.key] := List.mem_singleton_self _
  cases s with
  | issue key token span =>
      exact (fields hk).bind fun t => (setFields hk _).bind fun _ => .prolong hk span span _
  | kick key token span =>
      exact (fields hk).bind fun t => (setFields hk _).bind fun _ => .prolong hk 0 span _
  | kickAll key =>
      refine (fields hk).bind fun t => ?_
      split
      · exact .pure _
      · exact (setFields hk _).bind fun _ => .pure _

/-- A command stays within the keys that it names. -/
theorem command (c : Command) (now : Int) : Within c.keys (c.work now).on := by
  cases c with
  | texts keys => exact .mapM fun key hk => .text? hk
  | setText key value seconds =>
      have hk : key ∈ [key] := List.mem_singleton_self key
      cases seconds with
      | none => exact .put hk _
      | some seconds =>
          simp only [Command.work, Command.keys]
          cases accepts now seconds
          · exact .throw _
          · exact .put hk _
  | delete key =>
      have hk : key ∈ [key] := List.mem_singleton_self key
      exact (find hk).bind fun e => (erase hk).bind fun _ => .pure _
  | field key name => exact (fields (List.mem_singleton_self key)).bind fun t => .pure _
  | allFields key => exact fields (List.mem_singleton_self key)
  | run s =>
      have h : ((Command.run s).work now).on =
          fun k => (((s.work now).on k).1.mapError fun _ => .within, ((s.work now).on k).2) :=
        funext (on_unexplained _)
      rw [h]
      exact (script s now).map _

/-! ### Computations of the service -/

theorem send (c : Command) (now : Int) : Within c.keys ((send c).on now) :=
  (command c now).map _

theorem shared_bind {s : Shared α} {f : α → Shared β} (hs : Within keys (s.on now))
    (hf : ∀ a, Within keys ((f a).on now)) : Within keys ((s >>= f).on now) :=
  hs.andThen hf (fun k a l h => by rw [Shared.on_bind, h]) fun k e l h => by
    rw [Shared.on_bind, h]

theorem lookup (c : Client) (token : String) (now : Int) :
    Within [tokenKey c] ((Tokens.lookup c token).on now) := by
  refine shared_bind (send (.field (tokenKey c) token) now) fun found => ?_
  cases found with
  | none => exact .still _
  | some value => exact .still _

theorem tokens (c : Client) (now : Int) : Within [tokenKey c] ((Tokens.tokens c).on now) :=
  shared_bind (send (.allFields (tokenKey c)) now) fun _ => .still _

theorem issue (m : Int) (c : Client) (token : String) (expires : Int) (now : Int) :
    Within [tokenKey c] ((Tokens.issue m c token expires).on now) :=
  shared_bind (send (.run (.issue (tokenKey c) token _)) now) fun _ => .still _

theorem kick (tombstone : UInt64) (c : Client) (token : String) (now : Int) :
    Within [tokenKey c] ((Tokens.kick tombstone c token).on now) :=
  shared_bind (send (.run (.kick (tokenKey c) token _)) now) fun _ => .still _

theorem kickAll (c : Client) (now : Int) : Within [tokenKey c] ((Tokens.kickAll c).on now) :=
  shared_bind (send (.run (.kickAll (tokenKey c))) now) fun _ => .still _

end Within

/-! ### What is kept for a client -/

/-- The keys of a user's registrations. -/
def registrationKeys (user : String) : List String :=
  Platform.all.map fun p => registrationKey ⟨user, p.id⟩

namespace Within

theorem register (r : Registration) (now : Int) :
    Within [registrationKey ⟨r.user, r.platform⟩] ((Registrations.register r).on now) :=
  send (.setText (registrationKey ⟨r.user, r.platform⟩) _ _) now

theorem unregister (c : Client) (now : Int) :
    Within [registrationKey c] ((Registrations.unregister c).on now) :=
  shared_bind (send (.delete (registrationKey c)) now) fun _ => .still _

theorem ofUser (user : String) (now : Int) :
    Within (registrationKeys user) ((Registrations.ofUser user).on now) :=
  shared_bind (send (.texts (registrationKeys user)) now) fun _ => .still _

end Within

/-- What the service does with a keyspace. -/
inductive SharedOperation where
  | onTokens (op : TokenOperation)
  | register (r : Registration)
  | unregister (c : Client)
  | registrations (user : String)

namespace SharedOperation

/-- What an operation at a time leaves of a keyspace in which tombstones are to stay for a span. -/
def leave (tombstone : UInt64) (k : Keyspace) (now : Int) : SharedOperation → Keyspace
  | .onTokens op => Tokens.operate tombstone k now op
  | .register r => ((Registrations.register r).on now k).2
  | .unregister c => ((Registrations.unregister c).on now k).2
  | .registrations user => ((Registrations.ofUser user).on now k).2

/-- The client whose tokens an operation is about. -/
def tokensOf? : SharedOperation → Option Client
  | .onTokens (.issue c ..) | .onTokens (.kick c _) | .onTokens (.kickAll c)
  | .onTokens (.lookup c _) | .onTokens (.tokens c) => some c
  | .onTokens .purge | .register _ | .unregister _ | .registrations _ => none

/-- The user whose registrations an operation is about. -/
def registrationsOf? : SharedOperation → Option String
  | .onTokens _ => none
  | .register r => some r.user
  | .unregister c => some c.user
  | .registrations user => some user

/-- An operation changes nothing but under the key of the tokens and the keys of the registrations
that it is about. -/
theorem get?_leave (op : SharedOperation) (tombstone : UInt64) (k : Keyspace) (now : Int)
    (ht : ∀ c, op.tokensOf? = some c → key ≠ tokenKey c)
    (hr : ∀ c, op.registrationsOf? = some c.user → key ≠ registrationKey c) :
    (op.leave tombstone k now).entries.get? key = k.entries.get? key := by
  have one : ∀ {other : String}, key ≠ other → key ∉ [other] :=
    fun h hm => h (List.mem_singleton.1 hm)
  cases op with
  | onTokens op =>
      cases op with
      | issue c token expires =>
          exact (Within.issue now c token expires now).rest k key (one (ht c rfl))
      | kick c token => exact (Within.kick tombstone c token now).rest k key (one (ht c rfl))
      | kickAll c => exact (Within.kickAll c now).rest k key (one (ht c rfl))
      | lookup c token => exact (Within.lookup c token now).rest k key (one (ht c rfl))
      | tokens c => exact (Within.tokens c now).rest k key (one (ht c rfl))
      | purge => rfl
  | register r => exact (Within.register r now).rest k key (one (hr ⟨r.user, r.platform⟩ rfl))
  | unregister c => exact (Within.unregister c now).rest k key (one (hr c rfl))
  | registrations user =>
      refine (Within.ofUser user now).rest k key fun hm => ?_
      obtain ⟨p, -, rfl⟩ := List.mem_map.1 hm
      exact hr ⟨user, p.id⟩ rfl rfl

end SharedOperation

/-- No two clients have the same key of tokens, or the same key of a registration, and no key is of
both kinds. So no operation, whatever stands in the keyspace and whether or not a command of it is
refused, changes what is read at any time of the tokens of another client or of the registrations
of another user. -/
theorem reads_apart :
    Function.Injective tokenKey ∧ Function.Injective registrationKey ∧
      (∀ c d, tokenKey c ≠ registrationKey d) ∧
      ∀ (tombstone : UInt64) (k : Keyspace) (now : Int) (op : SharedOperation) (later : Int),
        let l := op.leave tombstone k now
        (∀ c, op.tokensOf? ≠ some c →
          (∀ token, ((Tokens.lookup c token).on later l).1 =
            ((Tokens.lookup c token).on later k).1) ∧
          ((Tokens.tokens c).on later l).1 = ((Tokens.tokens c).on later k).1) ∧
        ∀ user, op.registrationsOf? ≠ some user →
          ((Registrations.ofUser user).on later l).1 =
            ((Registrations.ofUser user).on later k).1 := by
  refine ⟨fun c d => tokenKey_injective, fun c d => registrationKey_injective,
    tokenKey_ne_registrationKey, ?_⟩
  intro tombstone k now op later l
  constructor
  · intro c hc
    have agree : AgreeOn [tokenKey c] l k := by
      intro key hk
      obtain rfl := List.mem_singleton.1 hk
      apply op.get?_leave tombstone k now
      · intro d hd he
        exact hc (tokenKey_injective he ▸ hd)
      · intro d _
        exact tokenKey_ne_registrationKey c d
    exact ⟨fun token => ((Within.lookup c token later).own l k agree).1,
      ((Within.tokens c later).own l k agree).1⟩
  · intro user hu
    have agree : AgreeOn (registrationKeys user) l k := by
      intro key hk
      obtain ⟨p, -, rfl⟩ := List.mem_map.1 hk
      apply op.get?_leave tombstone k now
      · intro d _
        exact (tokenKey_ne_registrationKey d ⟨user, p.id⟩).symm
      · intro d hd he
        obtain rfl := registrationKey_injective he
        exact hu hd
    exact ((Within.ofUser user later).own l k agree).1

end Courier.Keyspace
