import Courier.Text.Cut
import Courier.Url.Host

/-!
# Web addresses

An address is read as browsers read it: blanks around it and line breaks in it do not count, slashes
may lean either way, a path goes up with two points, and what may not stand is written in bytes.
Only addresses of the web can be called; others are told apart from texts that are no address.
-/

namespace Courier

/-- An address of the web, in its one form. -/
structure Url where
  scheme : String
  host : String
  port : Option Nat
  path : List String
  query : Option String
  fragment : Option String
  deriving DecidableEq, Repr, Inhabited

namespace Url

/-- The path and the query. -/
def target (u : Url) : String :=
  String.join (u.path.map ("/" ++ ·)) ++ (u.query.map ("?" ++ ·)).getD ""

/-- The host, and the port if it is not the usual one. -/
def authority (u : Url) : String :=
  u.host ++ (u.port.map fun n => ":" ++ toString n).getD ""

/-- The text of an address. -/
def render (u : Url) : String :=
  u.scheme ++ "://" ++ u.authority ++ u.target ++ (u.fragment.map ("#" ++ ·)).getD ""

/-- The port that a scheme uses unless another is named, for the schemes that have a host and a path
of slashes. -/
def usualPort? : String → Option Nat
  | "http" => some 80
  | "https" => some 443
  | "ws" => some 80
  | "wss" => some 443
  | "ftp" => some 21
  | _ => none

/-- Whether a character counts as a blank around an address. -/
def isOuterBlank (c : Char) : Bool :=
  c.toNat ≤ 32

/-- The characters of an address that count. -/
def significant (s : String) : List Char :=
  let trimmed := ((s.toList.dropWhile isOuterBlank).reverse.dropWhile isOuterBlank).reverse
  trimmed.filter fun c => c ∉ ['\t', '\n', '\r']

/-- The scheme in front of an address, and what follows the colon. -/
def scheme? (cs : List Char) : Option (String × List Char) := do
  let (name, rest) ← Cut.first? ':' cs
  let first ← name.head?
  if first.isAlpha ∧ name.all fun c => c.isAlphanum || c ∈ ['+', '-', '.'] then
    some (String.ofList (name.map Char.toLower), rest)
  else none

/-- Whether a character is a slash that leans either way. -/
def isSlash (c : Char) : Bool :=
  c = '/' || c = '\\'

/-- Whether a part of a path stands for the part itself. -/
def isHere (part : String) : Bool :=
  part.map Char.toLower ∈ [".", "%2e"]

/-- Whether a part of a path stands for the part above. -/
def isAbove (part : String) : Bool :=
  part.map Char.toLower ∈ ["..", ".%2e", "%2e.", "%2e%2e"]

/-- The parts of a path after those that go up or stay are carried out. -/
def resolve (done : List String) : List String → List String
  | [] => done
  | part :: rest =>
    if isAbove part then resolve (done.dropLast ++ (if rest.isEmpty then [""] else [])) rest
    else if isHere part then resolve (done ++ (if rest.isEmpty then [""] else [])) rest
    else resolve (done ++ [part]) rest

/-- The parts of a path. -/
def pathOf (cs : List Char) : List String :=
  let parts := (Cut.parts '/' (cs.map fun c => if c = '\\' then '/' else c)).drop 1
  let written := parts.map fun p => String.ofList (Percent.encode Percent.inPath p)
  resolve [] (if written.isEmpty then [""] else written)

/-- The host and the port of an authority. -/
def hostAndPort? (usual : Nat) (cs : List Char) : Option (String × Option Nat) := do
  let inBrackets := cs.takeWhile (· ≠ ']')
  let (before, after) :=
    if cs.head? = some '[' then
      (inBrackets ++ (cs.drop inBrackets.length).take 1, cs.drop (inBrackets.length + 1))
    else (cs.takeWhile (· ≠ ':'), cs.dropWhile (· ≠ ':'))
  let host := String.ofList (← host? before)
  match after with
  | [] => some (host, none)
  | ':' :: digits =>
    if digits.isEmpty then some (host, none)
    else if digits.all Char.isDigit then
      let n := (digitsIn? 10 digits).getD 0
      if n < 65536 then some (host, if n = usual then none else some n) else none
    else none
  | _ => none

/-- An address after its scheme. Names and passwords in front of the host are left out. -/
def afterScheme? (scheme : String) (usual : Nat) (cs : List Char) : Option Url := do
  let cs := cs.dropWhile isSlash
  let isEnd (c : Char) : Bool := isSlash c || c = '?' || c = '#'
  let whole := cs.takeWhile (!isEnd ·)
  let authority := ((Cut.last? '@' whole).map Prod.snd).getD whole
  let (host, port) ← hostAndPort? usual authority
  let rest := cs.dropWhile (!isEnd ·)
  let fragment := (Cut.first? '#' rest).map Prod.snd
  let rest := rest.takeWhile (· ≠ '#')
  let query := (Cut.first? '?' rest).map Prod.snd
  let text (isEncoded : Char → Bool) (cs : List Char) := String.ofList (Percent.encode isEncoded cs)
  return {
    scheme, host, port
    path := pathOf (rest.takeWhile (· ≠ '?'))
    query := query.map (text Percent.inQuery)
    fragment := fragment.map (text Percent.inFragment) }

/-- What a text is as an address. -/
inductive Reading where
  /-- An address that can be called. -/
  | web (u : Url)
  /-- An address of another kind, and whether it has a host. -/
  | foreign (shown : String) (hasHost : Bool)
  /-- No address. -/
  | malformed
  deriving Repr

/-- Whether a scheme is one of the web. -/
def isWeb (scheme : String) : Bool :=
  scheme = "http" || scheme = "https"

/-- Reads an address. -/
def read (s : String) : Reading :=
  match scheme? (significant s) with
  | none => .malformed
  | some (scheme, rest) =>
    match usualPort? scheme with
    | none =>
      let shown := scheme ++ ":" ++ String.ofList (Percent.encode Percent.isControl rest)
      .foreign shown (rest.take 2 = ['/', '/'] && 2 < rest.length)
    | some usual =>
      match afterScheme? scheme usual rest with
      | none => .malformed
      | some u => if isWeb scheme then .web u else .foreign u.render true

end Url

end Courier
