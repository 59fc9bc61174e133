/-!
# Media types

The type of a request's body is written as two names with a slash between them, and parameters after
semicolons. A body counts as JSON if its type says so, by the second name or by the part of it that
follows a plus sign. A type that is not well written says nothing.
-/

namespace Courier.Http.MediaType

/-- Whether a character may stand in a name. -/
def isToken (c : Char) : Bool :=
  c.isAlphanum || c ∈ "!#$%&'*+-.^_`|~".toList

/-- Whether a character may stand between quotation marks. -/
def isQuotable (c : Char) : Bool :=
  32 ≤ c.toNat && c.toNat ≠ 127

/-- The rest of the parameters after a quoted value: blanks, then nothing or a semicolon. -/
def afterQuoted : List Char → Option (List Char)
  | [] => some []
  | ' ' :: rest => afterQuoted rest
  | ';' :: rest => some rest
  | _ => none

/-- What follows a quoted value. Its first character is never the mark that ends it. -/
def quoted (isFirst : Bool) : List Char → Option (List Char)
  | [] => none
  | c :: rest =>
    if c = '"' ∧ !isFirst then afterQuoted rest
    else if isQuotable c then quoted false rest
    else none

/-- What follows a value. -/
def value (isFirst : Bool) : List Char → Option (List Char)
  | [] => some []
  | c :: rest =>
    if c = '"' ∧ isFirst then quoted true rest
    else if isToken c then value false rest
    else if c = ';' ∧ !isFirst then some rest
    else none

/-- What follows the name of a parameter and the sign of equality. -/
def parameterName (isFirst : Bool) : List Char → Option (List Char)
  | [] => none
  | c :: rest =>
    if isToken c then parameterName false rest
    else if c = '=' ∧ !isFirst then some rest
    else none

/-- Whether parameters are well written, given at least as much fuel as they have characters. -/
def areParameters : Nat → List Char → Bool
  | _, [] => true
  | 0, _ => false
  | fuel + 1, ' ' :: rest => areParameters fuel rest
  | fuel + 1, cs =>
    match (parameterName true cs).bind (value true) with
    | some rest => areParameters fuel rest
    | none => false

/-- The second name of a type and what follows it. -/
def secondName (cs : List Char) : Option (List Char × List Char) :=
  let name := cs.takeWhile isToken
  match cs.dropWhile isToken with
  | [] => some (name, [])
  | ';' :: rest => if name.isEmpty then none else some (name, rest)
  | _ => none

/-- The part of a second name before its last plus sign, and the part after it. A name does not
start with that sign. -/
def suffixed (name : List Char) : List Char × Option (List Char) :=
  match name with
  | [] => ([], none)
  | first :: rest =>
    let after := rest.reverse.takeWhile (· ≠ '+')
    if after.length = rest.length then (name, none)
    else (first :: rest.take (rest.length - after.length - 1), some after.reverse)

/-- Whether a media type says that a body is JSON. -/
def isJson (mediaType : String) : Bool :=
  let cs := (mediaType.map Char.toLower).toList
  let first := cs.takeWhile isToken
  match cs.dropWhile isToken with
  | '/' :: rest =>
    match secondName rest with
    | some (name, parameters) =>
      let (subtype, suffix) := suffixed name
      areParameters parameters.length parameters && first = "application".toList &&
        (subtype = "json".toList || suffix = some "json".toList)
    | none => false
  | _ => false

end Courier.Http.MediaType
