import Courier.Json.Record
import Courier.Json.Print

/-!
# Delivery reports

A report lists what became of a message for each recipient. An outcome travels as a status, and a
reason if the delivery failed; the two may come in either order, also as an array of both.
-/

namespace Courier

/-- What became of a message for one recipient. -/
inductive Outcome where
  | deliveredOnline
  | deliveredOffline
  | noOfflineProvider
  | failed (reason : String)
  deriving DecidableEq, Repr, Inhabited

namespace Outcome

/-- The kinds of outcomes. -/
inductive Status where
  | deliveredOnline
  | deliveredOffline
  | noOfflineProvider
  | failed
  deriving DecidableEq, Repr

/-- The kind of an outcome. -/
def status : Outcome → Status
  | .deliveredOnline => .deliveredOnline
  | .deliveredOffline => .deliveredOffline
  | .noOfflineProvider => .noOfflineProvider
  | .failed _ => .failed

/-- The name of a kind. -/
def Status.name : Status → String
  | .deliveredOnline => "delivered_online"
  | .deliveredOffline => "delivered_offline"
  | .noOfflineProvider => "no_offline_provider"
  | .failed => "failed"

/-- The kind with a name. -/
def Status.ofName? : String → Option Status
  | "delivered_online" => some .deliveredOnline
  | "delivered_offline" => some .deliveredOffline
  | "no_offline_provider" => some .noOfflineProvider
  | "failed" => some .failed
  | _ => none

/-- Why a delivery failed. -/
def reason? : Outcome → Option String
  | .failed reason => some reason
  | _ => none

/-- Whether the delivery failed. -/
def isFailed (o : Outcome) : Bool :=
  o.reason?.isSome

/-- An outcome as JSON. -/
def toJson (o : Outcome) : Json :=
  .object (("status", .text o.status.name) ::
    (o.reason?.map fun reason => ("reason", Json.text reason)).toList)

/-- Reads a kind. -/
def Status.read : Json.Reader Status :=
  Json.readVariant Status.ofName? fun _ => none

/-- Reads a kind from its name alone. -/
def Status.readName : Json.Reader Status := fun v => do
  match ofName? (← Json.readText v) with
  | some status => return status
  | none => throw .shape

/-- Reads the reason that belongs to a kind: a text for a failure, null for all others. -/
def readReason : Status → Json.Reader Outcome
  | .failed, v => .failed <$> Json.readText v
  | .deliveredOnline, v => (fun _ => .deliveredOnline) <$> Json.readNull v
  | .deliveredOffline, v => (fun _ => .deliveredOffline) <$> Json.readNull v
  | .noOfflineProvider, v => (fun _ => .noOfflineProvider) <$> Json.readNull v

/-- The outcome of a kind that comes without a reason. -/
def withoutReason : Status → Except Json.DecodeError Outcome
  | .failed => .error (.missing "reason")
  | .deliveredOnline => .ok .deliveredOnline
  | .deliveredOffline => .ok .deliveredOffline
  | .noOfflineProvider => .ok .noOfflineProvider

/-- A field of an outcome. -/
inductive Part where
  | status
  | reason

/-- The name of a field. -/
def Part.name : Part → String
  | .status => "status"
  | .reason => "reason"

/-- The first of the two fields among members, its value and what follows; other members are passed
over. -/
def nextPart? (ending : Json.Ending) :
    List (Json.Key × Json) →
      Except Json.DecodeError (Option (Part × Json × List (Json.Key × Json)))
  | [] => if ending = .cut then .error .malformed else .ok none
  | (.quoted (.text name), v) :: rest =>
    if name = "status" then .ok (some (.status, v, rest))
    else if name = "reason" then .ok (some (.reason, v, rest))
    else do
      Json.skip v
      nextPart? ending rest
  | _ :: _ => .error .malformed

/-- Checks that neither field comes once more. -/
def noMore (ending : Json.Ending) (rest : List (Json.Key × Json)) :
    Except Json.DecodeError Unit := do
  match ← nextPart? ending rest with
  | none => return ()
  | some (part, _, _) => throw (.repeated part.name)

/-- How deep a reason may nest when its kind is not known yet. -/
def reasonDepth : Nat := 123

/-- Reads an outcome from the members of an object. A reason that comes before its status is first
read as any value and then by the status. -/
def readMembers (members : List (Json.Key × Json)) (ending : Json.Ending) :
    Except Json.DecodeError Outcome := do
  match ← nextPart? ending members with
  | none => throw (.missing "status")
  | some (.status, v, rest) =>
    let status ← Status.read v
    match ← nextPart? ending rest with
    | none => withoutReason status
    | some (.status, _, _) => throw (.repeated "status")
    | some (.reason, w, rest) =>
      let o ← readReason status w
      noMore ending rest
      return o
  | some (.reason, w, rest) =>
    if !w.isReadable reasonDepth then throw .malformed
    match ← nextPart? ending rest with
    | none => throw (.missing "status")
    | some (.reason, _, _) => throw (.repeated "reason")
    | some (.status, v, rest) =>
      let status ← Status.read v
      let o ← readReason status w
      noMore ending rest
      return o

/-- Reads an outcome. In an array the status has to be a name. -/
def read : Json.Reader Outcome
  | .obj members ending => readMembers members ending
  | .arr [] ending => .error (if ending = .cut then .malformed else .shape)
  | .arr [v] ending => do
    let _ ← Status.readName v
    throw (if ending = .cut then .malformed else .shape)
  | .arr (v :: w :: rest) ending => do
    let status ← Status.readName v
    let o ← readReason status w
    if rest.isEmpty ∧ ending ≠ .cut then return o else throw .malformed
  | v => .error (Json.mismatch v)

@[simp] theorem Status.ofName?_name (s : Status) : Status.ofName? s.name = some s := by
  cases s <;> rfl

end Outcome

/-- What became of a message, recipient by recipient. -/
structure Report where
  outcomes : List (String × Outcome)
  deriving DecidableEq, Repr, Inhabited

namespace Report

/-- Whether no delivery failed. -/
def isSuccess (r : Report) : Bool :=
  r.outcomes.all fun o => !o.2.isFailed

/-- The recipients that the message did not reach, with the reasons. -/
def failures (r : Report) : List (String × String) :=
  r.outcomes.filterMap fun o => o.2.reason?.map fun reason => (o.1, reason)

/-- The users of a report. -/
def recipients (r : Report) : List String :=
  r.outcomes.map Prod.fst

/-- The first outcome for a user. -/
def outcomeOf? (r : Report) (user : String) : Option Outcome :=
  r.outcomes.lookup user

/-- The number of outcomes of a kind. -/
def count (r : Report) (status : Outcome.Status) : Nat :=
  r.outcomes.countP fun o => o.2.status = status

/-- One line of a report as JSON. -/
def lineToJson (line : String × Outcome) : Json :=
  .object [("user_id", .text line.1), ("outcome", line.2.toJson)]

/-- A report as JSON. -/
def toJson (r : Report) : Json :=
  .object [("outcomes", .array (r.outcomes.map lineToJson))]

/-- Reads one line of a report. -/
def readLine : Json.Reader (String × Outcome) := fun v => do
  let given ← Json.readFields
    [.of "user_id" .required Json.readText, .of "outcome" .required Outcome.read] v
  return (← given.get "user_id" Json.readText, ← given.get "outcome" Outcome.read)

/-- Reads a report. -/
def read : Json.Reader Report := fun v => do
  let given ← Json.readFields [.of "outcomes" .required (Json.readList readLine)] v
  return ⟨← given.get "outcomes" (Json.readList readLine)⟩

/-- The bytes under which a report travels. -/
def encode (r : Report) : List UInt8 :=
  r.toJson.bytes

/-- Reads a report from bytes. -/
def decode (bytes : List UInt8) : Except Json.DecodeError Report :=
  (Json.Document.ofBytes bytes).read read

end Report

end Courier
