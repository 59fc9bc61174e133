import Courier.Json.Parse

/-!
# Writing JSON texts

The compact form has no blanks; the indented form starts a line for every element, two blanks
deeper than its container, and keeps empty containers on one line. A quoted text escapes the quote,
the backslash and the control characters, the five that have a short escape by it.
-/

namespace Courier.Json

/-- One character inside quotes. -/
def escapeChar (c : Char) : List Char :=
  if c = '"' then ['\\', '"']
  else if c = '\\' then ['\\', '\\']
  else if c = '\n' then ['\\', 'n']
  else if c = '\r' then ['\\', 'r']
  else if c = '\t' then ['\\', 't']
  else if c = '\x08' then ['\\', 'b']
  else if c = '\x0c' then ['\\', 'f']
  else if c.toNat < 0x20 then
    ['\\', 'u', '0', '0', Hex.lower (c.toNat / 16), Hex.lower (c.toNat % 16)]
  else [c]

/-- A quoted text. -/
def quote (s : String) : List Char :=
  '"' :: (s.toList.flatMap escapeChar ++ ['"'])

/-- A number: its sign, its digits, and its power of ten unless that is one. -/
def Number.render : Number → List Char
  | .whole negative n => (if negative then ['-'] else []) ++ (toString n).toList
  | .scaled negative m e =>
    (if negative then ['-'] else []) ++ (toString m).toList ++ 'e' :: (toString e).toList

/-- The text of a quoted row, its ill-formed parts replaced. -/
def Quoted.shown : Quoted → String
  | .text s => s
  | .bytes content _ => ofUtf8Lossy content

/-- A key with its quotes. -/
def Key.render : Key → List Char
  | .quoted q => quote q.shown
  | .other => quote ""

/-- The bracket of a container that has one. -/
def Ending.bracket (ending : Ending) (c : Char) : List Char :=
  if ending = .cut then [] else [c]

mutual

/-- The compact text of a value; a container that is cut has no closing bracket. -/
def render : Json → List Char
  | .null => "null".toList
  | .bool true => "true".toList
  | .bool false => "false".toList
  | .num n => n.render
  | .str q => quote q.shown
  | .arr [] ending => '[' :: ending.bracket ']'
  | .arr (v :: vs) ending => '[' :: (render v ++ renderItems vs ++ ending.bracket ']')
  | .obj [] ending => '\x7b' :: ending.bracket '\x7d'
  | .obj ((k, v) :: ms) ending =>
    '\x7b' :: (k.render ++ ':' :: (render v ++ renderMembers ms ++ ending.bracket '\x7d'))
  | .broken => []

/-- The items after the first, each behind a comma. -/
def renderItems : List Json → List Char
  | [] => []
  | v :: vs => ',' :: (render v ++ renderItems vs)

/-- The members after the first, each behind a comma. -/
def renderMembers : List (Key × Json) → List Char
  | [] => []
  | (k, v) :: ms => ',' :: (k.render ++ ':' :: (render v ++ renderMembers ms))

end

/-- The compact text of a value. -/
def print (v : Json) : String :=
  String.ofList (render v)

/-- The bytes of the compact text of a value. -/
def bytes (v : Json) : List UInt8 :=
  Utf8.encode (render v)

/-- A new line at a depth of nesting. -/
def newLine (depth : Nat) : List Char :=
  '\n' :: List.replicate (2 * depth) ' '

mutual

/-- The indented text of a value that stands at a depth of nesting. -/
def renderAt (depth : Nat) : Json → List Char
  | .arr (v :: vs) ending =>
    '[' :: (newLine (depth + 1) ++ renderAt (depth + 1) v ++ itemsAt (depth + 1) vs ++
      newLine depth ++ ending.bracket ']')
  | .obj ((k, v) :: ms) ending =>
    '\x7b' :: (newLine (depth + 1) ++ k.render ++ ':' :: ' ' :: (renderAt (depth + 1) v ++
      membersAt (depth + 1) ms ++ newLine depth ++ ending.bracket '\x7d'))
  | v => render v

/-- The items after the first, each on a line of its own. -/
def itemsAt (depth : Nat) : List Json → List Char
  | [] => []
  | v :: vs => ',' :: (newLine depth ++ renderAt depth v ++ itemsAt depth vs)

/-- The members after the first, each on a line of its own. -/
def membersAt (depth : Nat) : List (Key × Json) → List Char
  | [] => []
  | (k, v) :: ms =>
    ',' :: (newLine depth ++ k.render ++ ':' :: ' ' :: (renderAt depth v ++ membersAt depth ms))

end

/-- The indented text of a value. -/
def printIndented (v : Json) : String :=
  String.ofList (renderAt 0 v)

end Courier.Json
