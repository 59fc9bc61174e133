import Courier.Settings.Layers
import Courier.Text.Blank

/-!
# Files of variables

A file may define variables of the environment, one `NAME=VALUE` a line. Values may be quoted, hold
escapes, refer to variables defined before, and span lines while a quote is open. The first line
that is none ends the file. What the environment sets already stays as it is.
-/

namespace Courier.EnvFile

/-! ### Lines -/

/-- Where a line stands with its quotes and blanks. -/
inductive LineMode where
  | plain
  | blank
  | escaped
  | double
  | doubleEscaped
  | single
  | singleEscaped
  deriving DecidableEq, Repr

/-- Reads a line up to a comment: what stands before it if there is one, else how the line ends. -/
def scanLine : LineMode → List Char → List Char → List Char ⊕ LineMode
  | mode, _, [] => .inr mode
  | mode, seen, c :: cs =>
    match mode with
    | .blank =>
      if c = '#' then .inl seen.reverse
      else if c = '\\' then scanLine .escaped (c :: seen) cs
      else if c = '"' then scanLine .double (c :: seen) cs
      else if c = '\'' then scanLine .single (c :: seen) cs
      else scanLine .plain (c :: seen) cs
    | .plain =>
      if isBlank c ∧ c ≠ '\n' ∧ c ≠ '\r' then scanLine .blank (c :: seen) cs
      else if c = '\\' then scanLine .escaped (c :: seen) cs
      else if c = '"' then scanLine .double (c :: seen) cs
      else if c = '\'' then scanLine .single (c :: seen) cs
      else scanLine .plain (c :: seen) cs
    | .escaped => scanLine .plain (c :: seen) cs
    | .double =>
      scanLine (if c = '\\' then .doubleEscaped else if c = '"' then .plain else .double)
        (c :: seen) cs
    | .doubleEscaped => scanLine .double (c :: seen) cs
    | .single =>
      scanLine (if c = '\\' then .singleEscaped else if c = '\'' then .plain else .single)
        (c :: seen) cs
    | .singleEscaped => scanLine .single (c :: seen) cs

/-- The lines of a text, each with its line end. -/
def physicalLines : List Char → List (List Char)
  | [] => []
  | c :: cs =>
    if c = '\n' then [c] :: physicalLines cs
    else
      match physicalLines cs with
      | [] => [[c]]
      | line :: rest => (c :: line) :: rest

/-- A line without its line end. -/
def chomp (cs : List Char) : List Char :=
  match cs.reverse with
  | '\n' :: '\r' :: rest => rest.reverse
  | '\n' :: rest => rest.reverse
  | _ => cs

/-- Joins lines while a quote is open, and drops comments. A quote that is open at the end is a
mistake. -/
def logicalLines : LineMode → List Char → List (List Char) → List (Option (List Char))
  | .plain, [], [] => []
  | _, _, [] => [none]
  | mode, buffer, line :: rest =>
    let buffer' := buffer ++ line
    if (buffer'.dropWhile isBlank).head? = some '#' then some [] :: logicalLines .plain [] rest
    else
      match scanLine mode [] line with
      | .inl seen => some (buffer ++ seen) :: logicalLines .plain [] rest
      | .inr .plain => some (chomp buffer') :: logicalLines .plain [] rest
      | .inr mode => logicalLines mode buffer' rest

/-! ### Values -/

/-- Where a value stands with its quotes. -/
inductive ValueMode where
  | plain (inDouble : Bool)
  | escaped (inDouble : Bool)
  | single
  /-- Inside the name of a variable, with or without braces. -/
  | name (inDouble braced : Bool) (chars : List Char)
  /-- Behind the value; only a comment may follow. -/
  | ending

/-- A letter or digit: one of ASCII, or any character beyond it that is no blank. -/
def isNameChar (c : Char) : Bool :=
  c.isAlphanum || (0x80 ≤ c.toNat && !isBlank c)

/-- The character of an escape. -/
def escape? : Char → Option Char
  | '\\' => some '\\'
  | '\'' => some '\''
  | '"' => some '"'
  | '$' => some '$'
  | ' ' => some ' '
  | 'n' => some '\n'
  | _ => none

/-- The value that characters write, where `variable` gives the values of names. -/
def value? (variable_ : String → String) : ValueMode → List Char → Option (List Char)
  | .plain inDouble, [] => if inDouble then none else some []
  | .escaped inDouble, [] => if inDouble then none else some []
  | .single, [] => none
  | .name inDouble braced chars, [] =>
    if inDouble || braced then none else some (variable_ (String.ofList chars)).toList
  | .ending, [] => some []
  | .ending, c :: cs =>
    if c = ' ' ∨ c = '\t' then value? variable_ .ending cs
    else if c = '#' then some []
    else none
  | .escaped inDouble, c :: cs => do
    return (← escape? c) :: (← value? variable_ (.plain inDouble) cs)
  | .single, c :: cs =>
    if c = '\'' then value? variable_ (.plain false) cs
    else (value? variable_ .single cs).map (c :: ·)
  | .name inDouble braced chars, c :: cs =>
    if isNameChar c then value? variable_ (.name inDouble braced (chars ++ [c])) cs
    else if braced then
      if c = '\x7d' then
        (value? variable_ (.plain inDouble) cs).map ((variable_ (String.ofList chars)).toList ++ ·)
      else value? variable_ (.name inDouble true (chars ++ [c])) cs
    else if c = '\x7b' ∧ chars = [] then value? variable_ (.name inDouble true []) cs
    else
      let found := (variable_ (String.ofList chars)).toList
      if c = '$' then (value? variable_ (.name inDouble false []) cs).map (found ++ ·)
      else (value? variable_ (.plain inDouble) cs).map (found ++ c :: ·)
  | .plain inDouble, c :: cs =>
    if c = '$' then value? variable_ (.name inDouble false []) cs
    else if c = '\\' then value? variable_ (.escaped inDouble) cs
    else if c = '"' then value? variable_ (.plain (!inDouble)) cs
    else if inDouble then (value? variable_ (.plain true) cs).map (c :: ·)
    else if c = '\'' then value? variable_ .single cs
    else if c = ' ' ∨ c = '\t' then value? variable_ .ending cs
    else (value? variable_ (.plain false) cs).map (c :: ·)

/-- The name in front of a definition. -/
def name? (cs : List Char) : Option (String × List Char) :=
  match cs with
  | c :: _ =>
    if c.isAlpha ∨ c = '_' then
      let isChar := fun c : Char => c.isAlphanum || c = '_' || c = '.'
      some (String.ofList (cs.takeWhile isChar), cs.dropWhile isChar)
    else none
  | [] => none

/-- The rest behind an equals sign. -/
def equals? : List Char → Option (List Char)
  | '=' :: rest => some rest
  | _ => none

/-- The name in front of a definition, and the rest behind its equals sign. -/
def assigned? (cs : List Char) : Option (String × List Char) := do
  let (name, rest) ← name? cs
  return (name, ← equals? (rest.dropWhile isBlank))

/-- The definition on a line, none on an empty one. The word `export` may precede it. -/
def definition? (variable_ : String → String) (line : List Char) :
    Option (Option (String × String)) :=
  let skip := List.dropWhile isBlank
  match skip (trimEnd line) with
  | [] | '#' :: _ => some none
  | cs => do
    let (name, rest) ← name? cs
    let (name, rest) ← match equals? (skip rest) with
      | some rest => some (name, rest)
      | none => if name = "export" then assigned? (skip rest) else none
    match skip rest with
    | [] | '#' :: _ => return some (name, "")
    | cs => return some (name, String.ofList (← value? variable_ (.plain false) cs))

/-- The environment with what lines define. A name in a value stands for the variable, or else for
what the file last defined under it. -/
def define (env : Environment) (before : Environment) : List (Option (List Char)) → Environment
  | [] | none :: _ => env
  | some line :: rest =>
    let variable_ := fun name => ((env.lookup name).orElse fun _ => before.lookup name).getD ""
    match definition? variable_ line with
    | none => env
    | some none => define env before rest
    | some (some (name, value)) =>
      let env' := if (env.lookup name).isSome then env else env ++ [(name, value)]
      define env' ((name, value) :: before) rest

end Courier.EnvFile

namespace Courier

/-- The environment with the variables that a file defines. -/
def Environment.withFile (env : Environment) (text : String) : Environment :=
  let cs := match text.toList with
    | '\uFEFF' :: rest => rest
    | cs => cs
  EnvFile.define env [] (EnvFile.logicalLines .plain [] (EnvFile.physicalLines cs))

end Courier
