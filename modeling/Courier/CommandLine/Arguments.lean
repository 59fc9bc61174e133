import Courier.Text.Cut
import Courier.Text.Decimal

/-!
# Arguments of the command line

Options stand before the sub-command. An option's value is the next word or follows `=`; a value
that is a word of its own is checked only when the next option is met, or at the end, so that a
fault behind it may be reported first.
-/

namespace Courier.CommandLine

/-- What a sub-command is asked to do. -/
inductive Command where
  | generateConfig (path : String)
  | validateConfig (path : String)
  | showConfig
  deriving DecidableEq, Repr, Inhabited

/-- The arguments, read. -/
structure Arguments where
  configFile : Option String := none
  host : Option String := none
  port : Option UInt16 := none
  workers : Option UInt64 := none
  logLevel : Option String := none
  logFormat : Option String := none
  logFile : Option String := none
  redisUrl : Option String := none
  jwtSecret : Option String := none
  /-- How often more output was asked for, at most 255 times. -/
  verbose : Nat := 0
  quiet : Bool := false
  dev : Bool := false
  command : Option Command := none
  deriving DecidableEq, Repr, Inhabited

/-- Why the words are no arguments, or what is shown in their place. -/
inductive Stop where
  | unknownArgument
  | unknownCommand
  | missingValue
  | badValue
  | repeatedOption
  | unwantedValue
  | help
  | version
  deriving DecidableEq, Repr

/-- An option that takes a value. -/
inductive Setting where
  | configFile
  | host
  | port
  | workers
  | logLevel
  | logFormat
  | logFile
  | redisUrl
  | jwtSecret
  deriving DecidableEq, Repr

/-- An option that takes none. -/
inductive Switch where
  | verbose
  | quiet
  | dev
  | help
  | version
  deriving DecidableEq, Repr

/-- The option with a name that takes a value. -/
def Setting.ofName? : String → Option Setting
  | "config-file" => some .configFile
  | "host" => some .host
  | "port" => some .port
  | "workers" => some .workers
  | "log-level" => some .logLevel
  | "log-format" => some .logFormat
  | "log-file" => some .logFile
  | "redis-url" => some .redisUrl
  | "jwt-secret" => some .jwtSecret
  | _ => none

/-- The option with a name that takes none. -/
def Switch.ofName? : String → Option Switch
  | "quiet" => some .quiet
  | "dev" => some .dev
  | "help" => some .help
  | "version" => some .version
  | _ => none

/-- The option with a letter. -/
def Switch.ofLetter? : Char → Option Switch
  | 'v' => some .verbose
  | 'q' => some .quiet
  | 'h' => some .help
  | 'V' => some .version
  | _ => none

/-- Sets an option that takes a value. Giving it twice is noticed before the value is. -/
def Setting.set (a : Arguments) (value : String) : Setting → Except Stop Arguments
  | .configFile => once a.configFile { a with configFile := some value }
  | .host => once a.host { a with host := some value }
  | .port => do
    let b ← once a.port a
    match Decimal.integer? 0 65535 value with
    | some n => return { b with port := some (UInt16.ofNat n.toNat) }
    | none => throw .badValue
  | .workers => do
    let b ← once a.workers a
    match Decimal.word? value with
    | some n => return { b with workers := some n }
    | none => throw .badValue
  | .logLevel => once a.logLevel { a with logLevel := some value }
  | .logFormat => once a.logFormat { a with logFormat := some value }
  | .logFile => once a.logFile { a with logFile := some value }
  | .redisUrl => once a.redisUrl { a with redisUrl := some value }
  | .jwtSecret => once a.jwtSecret { a with jwtSecret := some value }
where
  /-- Goes on unless the option is there already. -/
  once {α : Type} (before : Option α) (after : Arguments) : Except Stop Arguments :=
    if before.isSome then .error .repeatedOption else .ok after

/-- Sets an option that takes no value. -/
def Switch.set (a : Arguments) : Switch → Except Stop Arguments
  | .verbose => .ok { a with verbose := min 255 (a.verbose + 1) }
  | .quiet => if a.quiet then .error .repeatedOption else .ok { a with quiet := true }
  | .dev => if a.dev then .error .repeatedOption else .ok { a with dev := true }
  | .help => .error .help
  | .version => .error .version

/-- An option whose value may still come, or has come as a word of its own and is not set yet. -/
inductive Pending where
  | none
  | waiting (s : Setting)
  | given (s : Setting) (value : String)
  deriving DecidableEq, Repr

/-- Sets the option that is pending. -/
def Pending.settle (a : Arguments) : Pending → Except Stop Arguments
  | .none => .ok a
  | .waiting _ => .error .missingValue
  | .given s value => s.set a value

/-- A sub-command by its name. -/
inductive CommandName where
  | generateConfig
  | validateConfig
  | showConfig
  | help
  deriving DecidableEq, Repr

/-- The sub-command with a name. -/
def CommandName.ofName? : String → Option CommandName
  | "generate-config" => some .generateConfig
  | "validate-config" => some .validateConfig
  | "show-config" => some .showConfig
  | "help" => some .help
  | _ => none

/-- The words after a sub-command that may name a file: at most one, which begins with `-` only
behind `--`. -/
def pathWords (escaped : Bool) (path : Option String) : List String → Except Stop (Option String)
  | [] => .ok path
  | w :: ws =>
    if !escaped ∧ w = "--" then pathWords true path ws
    else if !escaped ∧ (w = "--help" ∨ w.startsWith "-h") then .error .help
    else if !escaped ∧ w.startsWith "--help=" then .error .unwantedValue
    else if !escaped ∧ w.startsWith "-" ∧ w ≠ "-" then .error .unknownArgument
    else if path.isSome then .error .unknownArgument
    else pathWords escaped (some w) ws

/-- The words after a sub-command that takes none. -/
def noWords (escaped : Bool) : List String → Except Stop Unit
  | [] => .ok ()
  | w :: ws =>
    if !escaped ∧ w = "--" then noWords true ws
    else if !escaped ∧ (w = "--help" ∨ w.startsWith "-h") then .error .help
    else if !escaped ∧ w.startsWith "--help=" then .error .unwantedValue
    else .error .unknownArgument

/-- The words after `help`: at most the name of one sub-command. -/
def helpWords : List String → Stop
  | [] => .help
  | [w] => if (CommandName.ofName? w).isSome then .help else .unknownCommand
  | _ => .unknownCommand

/-- The file that a configuration command works on when none is named. -/
def defaultPath : String := "config.toml"

/-- A sub-command with its words. -/
def commandOf (name : CommandName) (words : List String) : Except Stop Command :=
  match name with
  | .generateConfig => do return .generateConfig ((← pathWords false none words).getD defaultPath)
  | .validateConfig => do return .validateConfig ((← pathWords false none words).getD defaultPath)
  | .showConfig => do
    noWords false words
    return .showConfig
  | .help => .error (helpWords words)

/-- Letters bundled in one word. Only the first of them can find an option pending. -/
def letters (a : Arguments) (pending : Pending) : List Char → Except Stop Arguments
  | [] => pending.settle a
  | c :: cs =>
    match Switch.ofLetter? c with
    | none => .error .unknownArgument
    | some s => do
      let a ← pending.settle a
      letters (← s.set a) .none cs

/-- A word after `--` has no place. -/
def surplus (escaped : Bool) (w : String) : Stop :=
  if escaped ∧ (CommandName.ofName? w).isSome then .unknownArgument else .unknownCommand

/-- A word that begins with two dashes: the option, and its value if one is attached. -/
def longOption (w : String) : String × Option String :=
  let body := String.ofList (w.toList.drop 2)
  match cutFirst? '=' body with
  | some (name, value) => (name, some value)
  | none => (body, none)

/-- Reads words from left to right. -/
def readWords (a : Arguments) (pending : Pending) : List String → Except Stop Arguments
  | [] => pending.settle a
  | w :: ws =>
    match pending, CommandName.ofName? w with
    | .none, some name | .given .., some name => do
      let command ← commandOf name ws
      return { ← pending.settle a with command := some command }
    | _, _ =>
      if w = "--" then
        match ws with
        | [] => pending.settle a
        | w :: _ => .error (surplus true w)
      else if w.startsWith "--" then
        let (name, value) := longOption w
        match Setting.ofName? name, Switch.ofName? name, value with
        | some s, _, some value => do readWords (← s.set (← pending.settle a) value) .none ws
        | some s, _, none => do readWords (← pending.settle a) (.waiting s) ws
        | none, some s, none => do readWords (← s.set (← pending.settle a)) .none ws
        | none, some _, some _ => .error .unwantedValue
        | none, none, _ => .error .unknownArgument
      else if w.startsWith "-" ∧ w ≠ "-" then do
        readWords (← letters a pending (w.toList.drop 1)) .none ws
      else
        match pending with
        | .waiting s => readWords a (.given s w) ws
        | _ => .error (surplus false w)

namespace Arguments

/-- Reads the words of a command line. -/
def ofWords (words : List String) : Except Stop Arguments :=
  readWords {} .none words

/-- The level of the log that the arguments ask for. -/
def effectiveLevel (a : Arguments) : Option String :=
  if a.quiet then some "error"
  else if a.dev then some "debug"
  else
    match a.logLevel, a.verbose with
    | some level, _ => some level
    | none, 0 => none
    | none, 1 => some "info"
    | none, 2 => some "debug"
    | none, _ => some "trace"

/-- The form of the log that the arguments ask for. -/
def effectiveFormat (a : Arguments) : Option String :=
  if a.dev then some "pretty" else a.logFormat

end Arguments

end Courier.CommandLine
