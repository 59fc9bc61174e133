import Courier.Keyspace.Registrations
import Courier.Keyspace.Tokens

/-!
# A keyspace on trial

A keyspace whose clock is set by hand, and which can be told to refuse the next command or to be
late with it. What comes too late is done all the same; only nobody hears of it.
-/

namespace Courier.Keyspace

/-- A keyspace on trial. -/
structure Trial where
  keyspace : Keyspace
  /-- The time in seconds. -/
  now : Int
  /-- How the next command is refused. -/
  refusal : Option Refusal
  /-- By how many milliseconds the next command is late. -/
  delay : Nat
  /-- The milliseconds that a command may take. -/
  limit : Nat
  /-- The commands that were sent, the last one first, without those that run as one. -/
  log : List (List String)

namespace Trial

/-- An empty keyspace on trial. -/
def new (now : Int) (limit : Nat) : Trial :=
  ⟨∅, now, none, 0, limit, []⟩

/-- Answers a command. -/
def answer (c : Command) : StateM Trial (Answer c) := fun t =>
  let heard := { t with refusal := none, delay := 0, log := c.words?.toList ++ t.log }
  match t.refusal with
  | some r => (.error r.error, heard)
  | none =>
    let (result, keyspace) := (Keyspace.answer t.now c).run t.keyspace
    let done := { heard with keyspace }
    if t.limit < t.delay then (.error (tooSlow t.limit), done) else (result, done)

/-- Runs a computation. -/
def run {α : Type} (s : Shared α) (t : Trial) : Except ServiceError α × Trial :=
  (Dialogue.run answer s.run).run t

/-- Carries out work on the keyspace behind the back of its clients. -/
def behind {α : Type} (w : Work α) (t : Trial) : Except Refusal α × Trial :=
  let (result, keyspace) := w.run.run t.keyspace
  (result, { t with keyspace })

/-- Puts a field under a key. -/
def putField (key name value : String) (t : Trial) : Trial :=
  (t.behind do setFields t.now key ((← fields t.now key).insert name value)).2

/-- Puts a text under a key. -/
def putText (key value : String) (t : Trial) : Trial :=
  { t with keyspace := t.keyspace.put key ⟨.text value, none⟩ }

/-- The keys with texts and those with fields. -/
def keys (t : Trial) : List String × List String :=
  let live := (t.keyspace.keys t.now).mergeSort
  let isText (key : String) : Bool :=
    (t.keyspace.live? t.now key).any fun e => e.content matches .text _
  (live.filter isText, live.filter (!isText ·))

end Trial

end Courier.Keyspace
