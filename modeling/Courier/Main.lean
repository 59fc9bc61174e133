import Courier.CommandLine.Commands
import Courier.Text.Utf8

/-!
# The program

The command line over the real file system and environment. All that is decided is decided by
`CommandLine.call`; here its questions are put to the system, and its ending is printed. Connections
belong to a host program, so a call that is to start the service only checks that it could start.
-/

namespace Courier.Program

/-- The variables that settings are taken from. -/
def settingNames : List String := [
  "PRIVCHAT_PUSH_HOST", "PRIVCHAT_PUSH_PORT", "PRIVCHAT_PUSH_JWT_SECRET",
  "PRIVCHAT_PUSH_TOKEN_TTL_SECS", "PRIVCHAT_PUSH_ISSUE_SECRET",
  "PRIVCHAT_PUSH_MEMBERSHIP_RPC_URL", "PRIVCHAT_PUSH_CONSUMER_WORKERS",
  "PRIVCHAT_PUSH_LOG_LEVEL", "PRIVCHAT_PUSH_FCM_ACCESS_TOKEN", "REDIS_URL"]

/-- The variables that the environment sets. -/
def environment : IO Environment := do
  let given ← settingNames.mapM fun name => do
    return (← IO.getEnv name).map fun value => (name, value)
  return given.filterMap id

/-- The refusal that an error of the system stands for. -/
def refusal : IO.Error → FileError
  | .noFileOrDirectory .. => .notFound
  | .permissionDenied .. => .denied
  | .alreadyExists .. => .exists
  | .inappropriateType .. => .isDirectory
  | e => .other (toString e)

/-- What the system does, or why it refuses. -/
def attempt {α : Type} (action : IO α) : IO (Except FileError α) := do
  match ← action.toBaseIO with
  | .ok a => return .ok a
  | .error e => return .error (refusal e)

/-- Reads a file as text. -/
def readText (path : String) : IO (Except FileError String) := do
  if path.contains '\x00' then return .error .nulInName
  match ← attempt (IO.FS.readBinFile path) with
  | .error e => return .error e
  | .ok bytes =>
    match ofUtf8? bytes.toList with
    | some text => return .ok text
    | none => return .error .notText

/-- Reads the file of a name in the working directory or in one above it, so many steps up. -/
def readAbove (name : String) : Nat → IO (Option String)
  | 0 => return none
  | steps + 1 => do
    match ← readText name with
    | .ok text => return some text
    | .error _ => readAbove ("../" ++ name) steps

/-- Answers a question about files. -/
def answer : (q : FileQuestion) → IO q.Answer
  | .read path => readText path
  | .readNearest name => readAbove name 64
  | .exists path => do
    match ← readText path with
    | .error .notFound => return false
    | .error .nulInName => return false
    | .ok _ | .error _ => return true
  | .write path content => do
    if path.contains '\x00' then return .error .nulInName
    attempt (IO.FS.writeFile path content)
  | .makeDirectory path => do
    if path.contains '\x00' then return .error .nulInName
    attempt (IO.FS.createDirAll path)

/-- What is shown to one whose words are no arguments. -/
def usage : String :=
  "Usage: privchat-push [OPTIONS] [generate-config [PATH] | validate-config [PATH] | show-config]"

/-- Prints how a call has ended. -/
def report (ending : CommandLine.Ending) : IO Unit := do
  IO.print ending.output
  match ending with
  | .misused .help => IO.println usage
  | .misused _ => IO.eprintln usage
  | .started _ => IO.eprintln "no host for connections"
  | _ => ending.errorLines.forM fun line => IO.eprintln line

end Courier.Program

/-- Calls the program. -/
def main (words : List String) : IO UInt32 := do
  let ending ← (Courier.CommandLine.call (← Courier.Program.environment) words).run
    Courier.Program.answer
  Courier.Program.report ending
  return UInt32.ofNat ending.exitCode
