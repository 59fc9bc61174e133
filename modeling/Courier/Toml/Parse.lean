import Courier.Toml.Scalar
import Courier.Toml.Section

/-!
# Reading TOML texts

A text is read line by line: headers open tables, other lines set keys. Values inside brackets may
span lines. Every step of a loop takes a character away, so the length of the text bounds them all.
-/

namespace Courier.Toml

/-- The number of containers, or of keys in a dotted key, that may not be reached. -/
def depthLimit : Nat := 80

/-- Drops blanks. -/
def skipBlanks (cs : List Char) : List Char := cs.dropWhile isBlank

/-- Drops blanks, line ends and comments between the items of an array. A comment must be plain. -/
def skipGap? : Bool → List Char → Option (List Char)
  | _, [] => some []
  | _, '\n' :: rest => skipGap? false rest
  | _, '\r' :: '\n' :: rest => skipGap? false rest
  | true, c :: rest => if isPlain c then skipGap? true rest else none
  | false, c :: rest =>
    if isBlank c then skipGap? false rest
    else if c = '#' then skipGap? true rest
    else some (c :: rest)

/-- The rest after a line's end, which a comment may precede. -/
def lineEnd? (cs : List Char) : Option (List Char) :=
  let cs := skipBlanks cs
  let cs := match cs with
    | '#' :: rest => rest.dropWhile isPlain
    | cs => cs
  match cs with
  | [] => some []
  | cs => newline? cs

/-- A character of a key without quotes. -/
def isBareChar (c : Char) : Bool := c.isAlphanum || c = '_' || c = '-'

/-- One part of a key. -/
def keyPart? (cs : List Char) : Option (String × List Char) :=
  match cs with
  | '"' :: rest => (basic? rest).map fun r => (String.ofList r.1, r.2)
  | '\'' :: rest => (literal? rest).map fun r => (String.ofList r.1, r.2)
  | cs =>
    match cs.takeWhile isBareChar with
    | [] => none
    | w => some (String.ofList w, cs.dropWhile isBareChar)

/-- The parts of a dotted key, in at most `fuel` parts, and what follows it. -/
def keyParts? : Nat → List Char → Option (List String × List Char)
  | 0, _ => none
  | fuel + 1, cs => do
    let (part, rest) ← keyPart? (skipBlanks cs)
    match skipBlanks rest with
    | '.' :: rest =>
      let (parts, rest) ← keyParts? fuel rest
      some (part :: parts, rest)
    | rest => some ([part], rest)

/-- A dotted key: the path to its table, its last part, and what follows it. -/
def key? (cs : List Char) : Option (List String × String × List Char) := do
  let (parts, rest) ← keyParts? depthLimit cs
  if depthLimit ≤ parts.length then none
  else
    match parts.reverse with
    | [] => none
    | last :: above => some (above.reverse, last, rest)

mutual

/-- A value inside `depth` containers, and what follows it. -/
def value? : Nat → Nat → List Char → Option (Toml × List Char)
  | 0, _, _ => none
  | fuel + 1, depth, cs =>
    match cs with
    | '[' :: rest =>
      if depthLimit ≤ depth + 1 then none
      else (items? fuel (depth + 1) rest).map fun r => (.array r.1, r.2)
    | '\x7b' :: rest =>
      if depthLimit ≤ depth + 1 then none
      else
        match skipBlanks rest with
        | '\x7d' :: rest => some (.table [], rest)
        | rest => (members? fuel (depth + 1) .empty rest).map fun r => (r.1.toToml, r.2)
    | '"' :: _ | '\'' :: _ => (quoted? cs).map fun r => (.text (String.ofList r.1), r.2)
    | cs => (ofWord? (word cs).1).map fun v => (v, (word cs).2)

/-- The items of an array up to its bracket; a comma may follow the last. -/
def items? : Nat → Nat → List Char → Option (List Toml × List Char)
  | 0, _, _ => none
  | fuel + 1, depth, cs => do
    match ← skipGap? false cs with
    | ']' :: rest => some ([], rest)
    | cs =>
      let (v, rest) ← value? fuel depth cs
      match ← skipGap? false rest with
      | ',' :: rest => (items? fuel depth rest).map fun r => (v :: r.1, r.2)
      | ']' :: rest => some ([v], rest)
      | _ => none

/-- The members of a table on one line up to its bracket. -/
def members? : Nat → Nat → Section → List Char → Option (Section × List Char)
  | 0, _, _, _ => none
  | fuel + 1, depth, s, cs => do
    let (path, key, rest) ← key? cs
    match rest with
    | '=' :: rest =>
      let (v, rest) ← value? fuel depth (skipBlanks rest)
      let s ← s.insert path key v
      match skipBlanks rest with
      | ',' :: rest => members? fuel depth s rest
      | '\x7d' :: rest => some (s, rest)
      | _ => none
    | _ => none

end

/-- A header up to its closing bracket. -/
def header? (cs : List Char) : Option (List String × List Char) := do
  let (path, key, rest) ← key? cs
  match rest with
  | ']' :: rest => some (path ++ [key], rest)
  | _ => none

/-- One line that is neither empty nor a comment alone. -/
def line? (d : Draft) (cs : List Char) : Option (Draft × List Char) :=
  match cs with
  | '[' :: '[' :: rest => do
    let (path, rest) ← header? rest
    match rest with
    | ']' :: rest => return (← d.openItem path, ← lineEnd? rest)
    | _ => none
  | '[' :: rest => do
    let (path, rest) ← header? rest
    return (← d.openTable path, ← lineEnd? rest)
  | cs => do
    let (path, key, rest) ← key? cs
    match rest with
    | '=' :: rest =>
      let (v, rest) ← value? (rest.length + 1) 0 (skipBlanks rest)
      return (← d.set path key v, ← lineEnd? rest)
    | _ => none

/-- The lines of a text. -/
def lines? : Nat → Draft → List Char → Option Draft
  | 0, _, _ => none
  | fuel + 1, d, cs =>
    match skipBlanks cs with
    | [] => some d
    | '#' :: rest => do lines? fuel d (← lineEnd? ('#' :: rest))
    | cs =>
      match newline? cs with
      | some rest => lines? fuel d rest
      | none => do
        let (d, rest) ← line? d cs
        lines? fuel d rest

/-- The table that a text writes. A byte order mark may precede it. -/
def parse? (s : String) : Option Toml := do
  let cs := match s.toList with
    | '\uFEFF' :: rest => rest
    | cs => cs
  let d ← lines? (cs.length + 1) .start cs
  let root ← d.close
  return root.toToml

end Courier.Toml
