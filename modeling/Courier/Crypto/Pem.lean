import Courier.Text.Base64
import Courier.Text.Blank
import Courier.Text.Cut

/-!
# Binary values as text

A key file is text: a line that begins a value and names its kind, the value in base 64, and a line
that ends it and names the same kind. Text before the first line does not count. An empty line ends
headers, of which only the form is looked at.
-/

namespace Courier.Pem

/-- What stands before the first place of a mark, and what follows it. -/
def cutAt? (mark : List Char) : List Char → Option (List Char × List Char)
  | [] => none
  | c :: rest =>
    if mark.isPrefixOf (c :: rest) then some ([], (c :: rest).drop mark.length)
    else (cutAt? mark rest).map fun r => (c :: r.1, r.2)

/-- The headers and the data of a body. -/
def headersAndData (body : List Char) : List (List Char) × List Char :=
  match (cutAt? ['\n', '\n'] body).orElse fun _ => cutAt? ['\r', '\n', '\r', '\n'] body with
  | some (headers, data) => ((Cut.parts '\n' headers).filter (· ≠ []), data)
  | none => ([], body)

/-- Whether a character is a blank between the parts of a file. -/
def isGap (c : Char) : Bool :=
  c ∈ [' ', '\t', '\n', '\r']

/-- The kind and the bytes of the first value in a text. -/
def parse? (text : String) : Option (String × List UInt8) := do
  let (_, rest) ← cutAt? "-----BEGIN ".toList text.toList
  let (kind, rest) ← cutAt? "-----".toList rest
  let (body, rest) ← cutAt? "-----END ".toList (rest.dropWhile isGap)
  let (ending, _) ← cutAt? "-----".toList rest
  guard (kind ≠ [] ∧ kind = ending)
  let (headers, data) := headersAndData body
  guard (headers.all (':' ∈ ·))
  let bytes ← Base64.decodePadded? Base64.standard ((Cut.parts '\n' data).flatMap trimEnd)
  return (String.ofList kind, bytes)

end Courier.Pem
