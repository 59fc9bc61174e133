import Courier.Client
import Courier.Clock
import Courier.Table
import Courier.Token.State

/-!
# The token store

For each client the store keeps the tokens that were issued or kicked, each with the second at which
its record ends. A client has one usable token: issuing another kicks the one before. A record that
has ended counts as none, whether or not it is still there.

The view of a store is `record?`; each operation is described by what it does to the view.
-/

namespace Courier

/-- What is kept about a token. -/
structure TokenRecord where
  kicked : Bool
  /-- The second at which the record ends. -/
  expires : Int
  deriving DecidableEq, Repr, Inhabited

namespace TokenRecord

/-- Whether a record has not ended. -/
def isLive (now : Int) (r : TokenRecord) : Bool :=
  now < r.expires

/-- The state that a record keeps. -/
def state (r : TokenRecord) : TokenState :=
  if r.kicked then .kicked else .normal

/-- Whether a record keeps a usable token at a time. -/
def isUsable (now : Int) (r : TokenRecord) : Bool :=
  r.isLive now && !r.kicked

/-- The record of a token that is kicked. -/
def kick (r : TokenRecord) : TokenRecord :=
  { r with kicked := true }

/-- The record of a token that is issued. It stays kicked, and never ends earlier than before. -/
def issue (old : Option TokenRecord) (expires : Int) : TokenRecord where
  kicked := old.any kicked
  expires := max expires ((old.map TokenRecord.expires).getD 0)

/-- Kicks a usable token. -/
def kickUsable (now : Int) (r : TokenRecord) : TokenRecord :=
  if r.isUsable now then r.kick else r

theorem state_kick (r : TokenRecord) : r.kick.state = r.state.onKick := by
  cases h : r.kicked <;> simp [kick, state, TokenState.onKick, h]

theorem state_issue (old : Option TokenRecord) (expires : Int) :
    (issue old expires).state = ((old.map state).getD .absent).onIssue := by
  cases old with
  | none => rfl
  | some r => cases h : r.kicked <;> simp [issue, state, TokenState.onIssue, h]

end TokenRecord

/-- The tokens of all clients. -/
structure TokenStore where
  clients : Table Client (Table String TokenRecord)

namespace TokenStore

instance : EmptyCollection TokenStore where
  emptyCollection := ⟨∅⟩

instance : Inhabited TokenStore where
  default := ∅

/-- The records of a client. -/
def records (s : TokenStore) (c : Client) : Table String TokenRecord :=
  (s.clients.get? c).getD ∅

/-- The record of a client's token. -/
def record? (s : TokenStore) (c : Client) (token : String) : Option TokenRecord :=
  (s.records c).get? token

/-- The state of a client's token at a time. -/
def lookup (s : TokenStore) (now : Int) (c : Client) (token : String) : TokenState :=
  (((s.record? c token).filter (·.isLive now)).map TokenRecord.state).getD .absent

/-- The records of a client after a token is issued: those that had ended are gone, and the other
tokens are kicked. -/
def issued (records : Table String TokenRecord) (now : Int) (token : String) (expires : Int) :
    Table String TokenRecord :=
  let live := records.filter fun _ r => r.isLive now
  (live.mapValues fun t r => if t = token then r else r.kick).insert token
    (.issue (live.get? token) expires)

/-- Issues a token to a client until a second, and counts the tokens that are kicked for it. -/
def issue (s : TokenStore) (now : Int) (c : Client) (token : String) (expires : Int) :
    Nat × TokenStore :=
  (((s.records c).filter fun t r => t ≠ token && r.isUsable now).size,
    ⟨s.clients.insert c (issued (s.records c) now token expires)⟩)

/-- Kicks a client's token. One that has no record, or whose record has ended, leaves a tombstone
that ends after a span. -/
def kick (s : TokenStore) (now : Int) (tombstone : UInt64) (c : Client) (token : String) :
    TokenState × TokenStore :=
  let record := (((s.record? c token).filter (·.isLive now)).map TokenRecord.kick).getD
    ⟨true, Clock.after now tombstone⟩
  (record.state, ⟨s.clients.insert c ((s.records c).insert token record)⟩)

/-- Kicks the usable tokens of a client and counts them. -/
def kickAll (s : TokenStore) (now : Int) (c : Client) : Nat × TokenStore :=
  (((s.records c).filter fun _ r => r.isUsable now).size,
    ⟨s.clients.modify c fun records => records.mapValues fun _ r => r.kickUsable now⟩)

/-- The states of a client's tokens. -/
def tokens (s : TokenStore) (now : Int) (c : Client) : Table String TokenState :=
  ((s.records c).filter fun _ r => r.isLive now).mapValues fun _ r => r.state

/-- Takes out the records that have ended, and the clients that have none left, and counts the
records. -/
def purge (s : TokenStore) (now : Int) : Nat × TokenStore :=
  let ended := s.clients.values.flatMap fun records =>
    (records.filter fun _ r => !r.isLive now).entries
  let live := s.clients.mapValues fun _ records => records.filter fun _ r => r.isLive now
  (ended.length, ⟨live.filter fun _ records => !records.isEmpty⟩)

variable (s : TokenStore) (now : Int) (c d : Client) (token other : String)

@[simp] theorem record?_empty : (∅ : TokenStore).record? c token = none := rfl

theorem get?_issued (records : Table String TokenRecord) (expires : Int) :
    (issued records now token expires).get? other =
      if other = token then
        some (.issue ((records.get? token).filter (·.isLive now)) expires)
      else ((records.get? other).filter (·.isLive now)).map TokenRecord.kick := by
  by_cases h : other = token <;> simp [issued, Table.get?_insert, h]

theorem record?_issue (expires : Int) :
    (s.issue now c token expires).2.record? d other =
      if d = c then
        if other = token then
          some (.issue ((s.record? c token).filter (·.isLive now)) expires)
        else ((s.record? c other).filter (·.isLive now)).map TokenRecord.kick
      else s.record? d other := by
  by_cases h : d = c
  · simp [issue, record?, records, get?_issued, h]
  · simp [issue, record?, records, Table.get?_insert, h]

theorem record?_kick (tombstone : UInt64) :
    (s.kick now tombstone c token).2.record? d other =
      if d = c ∧ other = token then
        some ((((s.record? c token).filter (·.isLive now)).map TokenRecord.kick).getD
          ⟨true, Clock.after now tombstone⟩)
      else s.record? d other := by
  by_cases h : d = c
  · by_cases ho : other = token
    · simp [kick, record?, records, h, ho]
    · simp [kick, record?, records, Table.get?_insert, h, ho]
  · simp [kick, record?, records, Table.get?_insert, h]

theorem record?_kickAll :
    (s.kickAll now c).2.record? d other =
      if d = c then (s.record? c other).map (·.kickUsable now) else s.record? d other := by
  by_cases h : d = c
  · cases hr : s.clients.get? c <;>
      simp [kickAll, record?, records, Table.get?_modify, h, hr]
  · simp [kickAll, record?, records, Table.get?_modify, h]

theorem record?_purge :
    (s.purge now).2.record? c token = (s.record? c token).filter (·.isLive now) := by
  cases hr : s.clients.get? c with
  | none => simp [purge, record?, records, hr]
  | some rs =>
    have key : ((rs.filter fun _ r => r.isLive now).get? token) =
        (rs.get? token).filter (·.isLive now) := by simp
    by_cases he : (rs.filter fun _ r => r.isLive now).isEmpty = true
    · have hn : (rs.filter fun _ r => r.isLive now).get? token = none :=
        Table.get?_of_isEmpty he token
      simp [purge, record?, records, hr, he, Option.filter] at hn ⊢
      simpa [key] using hn.symm
    · simp [purge, record?, records, hr, he, Option.filter] at key ⊢

end TokenStore

end Courier
