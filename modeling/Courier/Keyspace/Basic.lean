import Courier.ServiceError
import Courier.Table

/-!
# The keyspace

A Redis server that several services share keeps texts and tables of fields under keys, each until
a second that may be set. What has come to its end counts as gone. The view of a keyspace at a time
is `live?`.

A command may be refused. A row of commands that run as one is not undone when one of them is
refused: what the ones before have changed stays.
-/

namespace Courier

/-- What stands under a key. -/
inductive Keyspace.Content where
  | text (s : String)
  | fields (t : Table String String)

/-- What stands under a key, and the second from which on it is gone. -/
structure Keyspace.Entry where
  content : Keyspace.Content
  expires : Option Int

/-- All keys with what stands under them. -/
structure Keyspace where
  entries : Table String Keyspace.Entry

namespace Keyspace

instance : EmptyCollection Keyspace where
  emptyCollection := ⟨∅⟩

instance : Inhabited Keyspace where
  default := ∅

/-- Why a command is refused: a code, and mostly a text. -/
structure Refusal where
  code : String
  text : Option String
  deriving DecidableEq, Repr, Inhabited

namespace Refusal

/-- The kinds of refusals that are known by their codes. -/
def kinds : List (String × String) := [
  ("ERR", "ResponseError"), ("EXECABORT", "ExecAbortError"), ("LOADING", "BusyLoadingError"),
  ("NOSCRIPT", "NoScriptError"), ("MOVED", "Moved"), ("ASK", "Ask"), ("TRYAGAIN", "TryAgain"),
  ("CLUSTERDOWN", "ClusterDown"), ("CROSSSLOT", "CrossSlot"), ("MASTERDOWN", "MasterDown"),
  ("READONLY", "ReadOnly"), ("NOTBUSY", "NotBusy")]

/-- The sentence about a refusal. -/
def message (r : Refusal) : String :=
  match kinds.lookup r.code, r.text with
  | some kind, some text => "An error was signalled by the server - " ++ kind ++ ": " ++ text
  | some kind, none => "An error was signalled by the server- " ++ kind
  | none, text => r.code ++ ": " ++ text.getD "Unknown extension error encountered"

/-- The refusal that a server's line tells of. -/
def ofLine (line : String) : Refusal :=
  match line.toList.span (· ≠ ' ') with
  | (code, []) => ⟨String.ofList code, none⟩
  | (code, _ :: text) => ⟨String.ofList code, some (String.ofList text)⟩

/-- The refusal of a command on what is of the other kind. -/
def wrongKind : Refusal :=
  ⟨"WRONGTYPE", some "Operation against a key holding the wrong kind of value"⟩

/-- The refusal of a span of time that is too long. -/
def badSpan (command : String) : Refusal :=
  ⟨"ERR", some ("invalid expire time in '" ++ command ++ "' command")⟩

/-- What is heard of a refusal within a row of commands that run as one. -/
def within : Refusal :=
  ⟨"ERR", some "script failed"⟩

end Refusal

/-- Whether an entry has not come to its end. -/
def Entry.isLive (now : Int) (e : Entry) : Bool :=
  e.expires.all fun second => now < second

/-- The entry under a key at a time. -/
def live? (k : Keyspace) (now : Int) (key : String) : Option Entry :=
  (k.entries.get? key).filter (·.isLive now)

/-- Puts an entry under a key. -/
def put (k : Keyspace) (key : String) (e : Entry) : Keyspace :=
  ⟨k.entries.insert key e⟩

/-- Takes out what stands under a key. -/
def erase (k : Keyspace) (key : String) : Keyspace :=
  ⟨k.entries.erase key⟩

/-- The keys at a time. -/
def keys (k : Keyspace) (now : Int) : List String :=
  (k.entries.filter fun _ e => e.isLive now).keys

variable (k : Keyspace) (now : Int) (key other : String)

@[simp] theorem live?_empty : (∅ : Keyspace).live? now key = none := rfl

theorem live?_put (e : Entry) :
    (k.put key e).live? now other =
      if other = key then (some e).filter (·.isLive now) else k.live? now other := by
  by_cases h : other = key <;> simp [live?, put, Table.get?_insert, h]

theorem live?_erase :
    (k.erase key).live? now other = if other = key then none else k.live? now other := by
  by_cases h : other = key <;> simp [live?, erase, Table.get?_erase, h]

/-- An entry that is gone never comes back by itself. -/
theorem isLive_of_le {e : Entry} {earlier : Int} (h : earlier ≤ now) (live : e.isLive now = true) :
    e.isLive earlier = true := by
  cases he : e.expires with
  | none => simp [Entry.isLive, he]
  | some second =>
    simp only [Entry.isLive, he, Option.all_some, decide_eq_true_eq] at live ⊢
    omega

/-! ### Commands -/

/-- A command at work: it may be refused, and what it has changed by then stays changed. -/
abbrev Work (α : Type) := ExceptT Refusal (StateM Keyspace) α

/-- Whether a span of time ends at a number of milliseconds that a signed word of 64 bits holds. -/
def accepts (now : Int) (span : Int) : Bool :=
  (now + span) * 1000 < 9223372036854775808

/-- The entry under a key. -/
def find (now : Int) (key : String) : Work (Option Entry) := do
  return (← get).live? now key

/-- The text under a key. -/
def text? (now : Int) (key : String) : Work (Option String) := do
  match ← find now key with
  | some ⟨.text s, _⟩ => return some s
  | some _ | none => return none

/-- The fields under a key. Where nothing stands there are none. -/
def fields (now : Int) (key : String) : Work (Table String String) := do
  match ← find now key with
  | some ⟨.fields t, _⟩ => return t
  | some _ => throw .wrongKind
  | none => return ∅

/-- Changes the fields under a key, where they stay as long as they would have. -/
def setFields (now : Int) (key : String) (t : Table String String) : Work Unit := do
  let expires := (← find now key).bind Entry.expires
  modify fun k => k.put key ⟨.fields t, expires⟩

/-- The seconds for which a key stays: -1 if it has no end, -2 if nothing stands under it. -/
def ttl (now : Int) (key : String) : Work Int := do
  match ← find now key with
  | none => return -2
  | some ⟨_, none⟩ => return -1
  | some ⟨_, some second⟩ => return second - now

/-- Lets a key end after a span. -/
def expire (now : Int) (key : String) (span : Int) : Work Unit := do
  if !accepts now span then throw (.badSpan "expire")
  match ← find now key with
  | none => return ()
  | some e => modify fun k => k.put key { e with expires := some (now + span) }

end Keyspace

end Courier
