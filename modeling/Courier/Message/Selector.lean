import Courier.Json.Record
import Courier.Text.Cut

/-!
# Selectors

A selector says who a message is for: one user, or the members of a group. Its text is the kind, a
colon and the id. A message belongs to a conversation, whose id does not depend on the direction of
a direct chat.
-/

namespace Courier

/-- Who a message is for. -/
inductive Selector where
  | direct (user : String)
  | group (name : String)
  deriving DecidableEq, Repr, Inhabited

/-- Why a text is no selector. -/
inductive SelectorError where
  | missingKind (text : String)
  | missingId (text : String)
  | unknownKind (kind : String)
  deriving DecidableEq, Repr, Inhabited

/-- The sentence about a text that is no selector. -/
def SelectorError.message : SelectorError → String
  | .missingKind s => "selector missing kind: " ++ s
  | .missingId s => "selector missing id: " ++ s
  | .unknownKind kind => "unknown selector kind: " ++ kind

namespace Selector

/-- The name of a selector's kind. -/
def kind : Selector → String
  | .direct _ => "direct"
  | .group _ => "group"

/-- The user or the group. -/
def id : Selector → String
  | .direct id => id
  | .group id => id

/-- The text of a selector. -/
def render (s : Selector) : String :=
  s.kind ++ ":" ++ s.id

/-- Reads the text of a selector. An empty id is noticed before an unknown kind. -/
def parse (s : String) : Except SelectorError Selector :=
  match cutFirst? ':' s with
  | none => .error (.missingKind s)
  | some (kind, id) =>
    if id = "" then .error (.missingId s)
    else if kind = "direct" then .ok (.direct id)
    else if kind = "group" then .ok (.group id)
    else .error (.unknownKind kind)

/-- The conversation that a sender's message to a selector belongs to. A direct chat names its two
users in their order. -/
def conversation (sender : String) : Selector → String
  | .direct user =>
    if sender ≤ user then "si_" ++ sender ++ "_" ++ user else "si_" ++ user ++ "_" ++ sender
  | .group name => "sg_" ++ name

/-- Reads a selector from its text. -/
def read : Json.Reader Selector := fun v => do
  match parse (← Json.readText v) with
  | .ok s => return s
  | .error e => throw (.rejected e.message)

end Selector

end Courier
