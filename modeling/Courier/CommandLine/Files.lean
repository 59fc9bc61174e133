import Courier.Dialogue
import Courier.Text.FilePath

/-!
# Files

The questions that the service asks of a file system, and a directory held in memory that answers
them.
-/

namespace Courier

/-- Why a file system refuses. -/
inductive FileError where
  | notFound
  | exists
  | notDirectory
  | isDirectory
  | denied
  | nulInName
  | notText
  | other (text : String)
  deriving DecidableEq, Repr, Inhabited

/-- The sentence of the system about a refusal. -/
def FileError.message : FileError → String
  | .notFound => "No such file or directory (os error 2)"
  | .denied => "Permission denied (os error 13)"
  | .exists => "File exists (os error 17)"
  | .notDirectory => "Not a directory (os error 20)"
  | .isDirectory => "Is a directory (os error 21)"
  | .nulInName => "file name contained an unexpected NUL byte"
  | .notText => "stream did not contain valid UTF-8"
  | .other text => text

/-- What is asked of a file system. -/
inductive FileQuestion where
  /-- The text of a file. -/
  | read (path : String)
  /-- The text of the file of this name in the working directory, or in the nearest one above. -/
  | readNearest (name : String)
  | exists (path : String)
  | write (path content : String)
  /-- Makes a directory and those above it, unless it is there. -/
  | makeDirectory (path : String)

/-- The kinds of answers. -/
def FileQuestion.Answer : FileQuestion → Type
  | .read _ => Except FileError String
  | .readNearest _ => Option String
  | .exists _ => Bool
  | .write .. => Except FileError Unit
  | .makeDirectory _ => Except FileError Unit

/-- A computation that asks a file system. -/
abbrev WithFiles (α : Type) := Dialogue FileQuestion.Answer α

namespace WithFiles

/-- Asks for the text of a file. -/
def read (path : String) : WithFiles (Except FileError String) :=
  Dialogue.ask (FileQuestion.read path) .done

/-- Asks for the text of the nearest file of a name. -/
def readNearest (name : String) : WithFiles (Option String) :=
  Dialogue.ask (FileQuestion.readNearest name) .done

/-- Asks whether a path leads somewhere. -/
def pathExists (path : String) : WithFiles Bool :=
  Dialogue.ask (FileQuestion.exists path) .done

/-- Asks for a file to be written. -/
def write (path content : String) : WithFiles (Except FileError Unit) :=
  Dialogue.ask (FileQuestion.write path content) .done

/-- Asks for a directory to be made. -/
def makeDirectory (path : String) : WithFiles (Except FileError Unit) :=
  Dialogue.ask (FileQuestion.makeDirectory path) .done

end WithFiles

/-- A directory in memory: its files and directories under their names from the working directory
down. -/
structure Directory where
  files : List (List String × String)
  directories : List (List String)
  deriving Repr, Inhabited

namespace Directory

/-- Whether a directory is there. A file's directories are. -/
def isDirectory (d : Directory) (place : List String) : Bool :=
  place = [] || d.directories.contains place ||
    d.files.any fun f => place.length < f.1.length && f.1.take place.length = place

/-- The text of a file. -/
def file? (d : Directory) (place : List String) : Option String :=
  d.files.lookup place

/-- Where a path leads from a place, if all on the way are directories. Only its last part may be
missing. -/
def walk (d : Directory) (place : List String) : List String → Except FileError (List String)
  | [] => .ok place
  | [part] => .ok (enter place part)
  | part :: rest =>
    if part = "" ∨ part = "." then walk d place rest
    else
      let next := enter place part
      if d.isDirectory next then walk d next rest
      else if (d.file? next).isSome then .error .notDirectory
      else .error .notFound
where
  /-- The place that one part leads to. -/
  enter (place : List String) (part : String) : List String :=
    if part = "" ∨ part = "." then place
    else if part = ".." then place.dropLast
    else place ++ [part]

/-- Where a path leads. Nothing but the root is known of absolute paths. -/
def find (d : Directory) (path : String) : Except FileError (List String) :=
  if path = "" then .error .notFound
  else if path.contains '\x00' then .error .nulInName
  else
    match (FilePath.parts path).filter (· ≠ ""), path.startsWith "/" with
    | [], _ => .ok []
    | _, true => .error .notFound
    | parts, false => d.walk [] parts

/-- Reads a file. -/
def read (d : Directory) (path : String) : Except FileError String := do
  let place ← d.find path
  if d.isDirectory place then throw .isDirectory
  match d.file? place with
  | some text => if FilePath.wantsDirectory path then throw .notDirectory else return text
  | none => throw .notFound

/-- Writes a file. -/
def write (d : Directory) (path content : String) : Except FileError Directory := do
  let place ← d.find path
  if d.isDirectory place then throw .isDirectory
  match d.file? place, FilePath.wantsDirectory path with
  | some _, true => throw .notDirectory
  | none, true => throw .isDirectory
  | _, false => return { d with files := (place, content) :: d.files.filter (·.1 ≠ place) }

/-- Makes the directories of a place, from the top. -/
def makePlace (d : Directory) (place : List String) : List String → Except FileError Directory
  | [] => .ok d
  | part :: rest =>
    let next := place ++ [part]
    if d.isDirectory next then makePlace d next rest
    else if (d.file? next).isSome then
      .error (if rest.isEmpty then .exists else .notDirectory)
    else makePlace { d with directories := next :: d.directories } next rest

/-- Makes a directory and those above it. -/
def makeDirectory (d : Directory) (path : String) : Except FileError Directory :=
  if path.contains '\x00' then .error .nulInName
  else if path.startsWith "/" then .ok d
  else d.makePlace [] ((FilePath.parts path).filter fun p => p ≠ "" && p ≠ ".")

/-- The answer of a directory, which it may change. -/
def answer : (q : FileQuestion) → StateM Directory q.Answer
  | .read path => fun d => (d.read path, d)
  | .readNearest name => fun d => ((d.read name).toOption, d)
  | .exists path => fun d =>
    match d.find path with
    | .ok place => (d.isDirectory place || (d.file? place).isSome, d)
    | .error _ => (false, d)
  | .write path content => fun d =>
    match d.write path content with
    | .ok d => (.ok (), d)
    | .error e => (.error e, d)
  | .makeDirectory path => fun d =>
    match d.makeDirectory path with
    | .ok d => (.ok (), d)
    | .error e => (.error e, d)

end Directory

end Courier
