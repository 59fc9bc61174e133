import Courier.Dialogue
import Courier.Keyspace.Basic

/-!
# Commands to a keyspace

What the service asks of a keyspace. Three questions about tokens are rows of commands that run as
one, so that no other service comes between.
-/

namespace Courier.Keyspace

/-- The value that marks a usable token. -/
def usable : String := "0"

/-- The value that marks a kicked token. -/
def kicked : String := "2"

/-- A row of commands that run as one. -/
inductive Script where
  /-- Issues a token: the other usable tokens under the key are kicked and counted, and the key
  stays at least for a span. -/
  | issue (key token : String) (span : Int)
  /-- Kicks a token, and lets the key end after a span unless it has an end. -/
  | kick (key token : String) (span : Int)
  /-- Kicks all usable tokens under a key and counts them. -/
  | kickAll (key : String)
  deriving DecidableEq, Repr

/-- A command. -/
inductive Command where
  | texts (keys : List String)
  /-- Puts a text under a key, for some seconds or for good. -/
  | setText (key value : String) (seconds : Option Nat)
  | delete (key : String)
  | field (key name : String)
  | allFields (key : String)
  | run (s : Script)
  deriving DecidableEq, Repr

/-- What a command is answered by. -/
def Command.Reply : Command → Type
  | .texts _ => List (Option String)
  | .setText .. => Unit
  | .delete _ => Nat
  | .field .. => Option String
  | .allFields _ => Table String String
  | .run _ => Int

/-- The words of a command, unless it is a row of commands. -/
def Command.words? : Command → Option (List String)
  | .texts keys => some ("MGET" :: keys)
  | .setText key value none => some ["SET", key, value]
  | .setText key value (some seconds) => some ["SETEX", key, toString seconds, value]
  | .delete key => some ["DEL", key]
  | .field key name => some ["HGET", key, name]
  | .allFields key => some ["HGETALL", key]
  | .run _ => none

/-! ### Carrying out commands -/

/-- Whether a token other than one is usable. -/
def isOther (token : String) (t value : String) : Bool :=
  t ≠ token && value = usable

/-- The fields after a token is issued. -/
def issued (t : Table String String) (token : String) : Table String String :=
  let t := t.mapValues fun other value => if isOther token other value then kicked else value
  if t.get? token = some kicked then t else t.insert token usable

/-- Carries out a row of commands. -/
def Script.work (now : Int) : Script → Work Int
  | .issue key token span => do
    let t ← fields now key
    setFields now key (issued t token)
    if (← ttl now key) < span then expire now key span
    return (t.filter (isOther token)).size
  | .kick key token span => do
    setFields now key ((← fields now key).insert token kicked)
    if (← ttl now key) < 0 then expire now key span
    return 2
  | .kickAll key => do
    let t ← fields now key
    if t.isEmpty then return 0
    setFields now key (t.mapValues fun _ value => if value = usable then kicked else value)
    return (t.filter fun _ value => value = usable).size

/-- Tells of a refusal only that there was one. -/
def Work.unexplained {α : Type} (w : Work α) : Work α :=
  tryCatch w fun _ => throw .within

/-- Carries out a command. -/
def Command.work (now : Int) : (c : Command) → Work c.Reply
  | .texts keys => keys.mapM (text? now)
  | .setText key value none => modify fun k => k.put key ⟨.text value, none⟩
  | .setText key value (some seconds) => do
    if !accepts now seconds then throw (.badSpan "setex")
    modify fun k => k.put key ⟨.text value, some (now + seconds)⟩
  | .delete key => do
    let found ← find now key
    modify fun k => k.erase key
    return (if found.isSome then 1 else 0 : Nat)
  | .field key name => do return (← fields now key).get? name
  | .allFields key => fields now key
  | .run s => (s.work now).unexplained

/-- Carries out a command on a keyspace. -/
def execute (now : Int) (c : Command) (k : Keyspace) : Except Refusal c.Reply × Keyspace :=
  (c.work now).run.run k

/-! ### Asking -/

/-- What comes back for a command. -/
abbrev Answer (c : Command) := Except ServiceError c.Reply

/-- A computation that sends commands, and may fail. -/
abbrev Shared (α : Type) := ExceptT ServiceError (Dialogue Answer) α

/-- Sends a command. -/
def send (c : Command) : Shared c.Reply :=
  ExceptT.mk (.ask c .done)

/-- The error that a refusal is to the service. -/
def Refusal.error (r : Refusal) : ServiceError :=
  .cache r.message

/-- The error of a command that took longer than it may. -/
def tooSlow (limit : Nat) : ServiceError :=
  .timeout ("Redis command timeout (" ++ toString limit ++ "ms)")

/-- The answer of a keyspace that is there at once. -/
def answer (now : Int) (c : Command) : StateM Keyspace (Answer c) := fun k =>
  let (result, k) := execute now c k
  (result.mapError Refusal.error, k)

/-- Runs a computation on a keyspace that is there at once. -/
def Shared.on {α : Type} (now : Int) (s : Shared α) (k : Keyspace) :
    Except ServiceError α × Keyspace :=
  (s.run.run (answer now)).run k

/-- The texts under keys. Where no key is given nothing is asked. -/
def texts (keys : List String) : Shared (List (Option String)) :=
  if keys.isEmpty then pure [] else send (.texts keys)

/-- Puts a text under a key. A span in milliseconds counts in whole seconds, and for one at
least. -/
def setText (key value : String) (span : Option Nat) : Shared Unit :=
  send (.setText key value (span.map fun ms => max (ms / 1000) 1))

end Courier.Keyspace
