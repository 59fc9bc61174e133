import Courier.Text.Cut

/-!
# File paths

A path is a row of names between slashes. Doubled and trailing slashes and later `.` parts do not
count; `..` is a part that names no file.
-/

namespace Courier.FilePath

/-- The parts of a path between slashes, empty ones included. -/
def parts (path : String) : List String :=
  (Cut.parts '/' path.toList).map String.ofList

/-- Whether a part counts: it is not empty, and a `.` counts only in front. -/
def counts (first : Bool) (part : String) : Bool :=
  part ≠ "" && (first || part ≠ ".")

/-- Drops parts at the end that do not count. The list is the last part first. -/
def trim : List String → List String
  | [] => []
  | [part] => [part]
  | part :: above => if counts false part then part :: above else trim above

/-- The name of the file that a path leads to, if its last part is one. -/
def fileName? (path : String) : Option String :=
  match trim (parts path).reverse with
  | [] => none
  | part :: _ => if part = "" ∨ part = "." ∨ part = ".." then none else some part

/-- The path without its last part: the directory that holds the file. -/
def parent (path : String) : String :=
  match trim (parts path).reverse with
  | [] => ""
  | _ :: above =>
    match trim above with
    | [""] => "/"
    | ps => "/".intercalate ps.reverse

/-- Whether a path ends in a slash, so that it can only name a directory. -/
def wantsDirectory (path : String) : Bool :=
  path.endsWith "/"

end Courier.FilePath
