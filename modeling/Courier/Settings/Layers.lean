import Courier.CommandLine.Arguments
import Courier.CommandLine.Files
import Courier.Settings.File
import Courier.Text.Quoted

/-!
# Layers of settings

Settings come from the configuration file, then from variables of the environment, then from the
command line; what comes later wins. A bad port in the environment is an error, other bad numbers
there count as not given.
-/

namespace Courier

open CommandLine (Arguments)

/-- The variables of the environment. -/
abbrev Environment := List (String × String)

/-- Why there are no settings. -/
inductive SettingsError where
  | unreadable (path : String) (cause : FileError)
  | malformed
  | badPort (text : String)
  | refused (fault : SettingsFault)
  deriving DecidableEq, Repr

namespace SettingsError

/-- Why a text is no port number. -/
def portReason (text : String) : String :=
  let digits := match text.toList with
    | '+' :: rest => rest
    | cs => cs
  if text = "" then "cannot parse integer from empty string"
  else if digits = [] ∨ !digits.all Char.isDigit then "invalid digit found in string"
  else "number too large to fit in target type"

/-- The sentences about an error: what failed, and then what caused it. -/
def messages : SettingsError → List String
  | .unreadable path cause => ["无法读取配置文件: " ++ quoted path, cause.message]
  | .malformed => ["配置文件格式错误", "TOML parse error"]
  | .badPort text => ["PRIVCHAT_PUSH_PORT 无效: " ++ text, portReason text]
  | .refused fault => [fault.message]

end SettingsError

namespace Settings

/-- The settings with the address of a Redis server; its other settings stay as they are, or take
their defaults. -/
def withRedisUrl (s : Settings) (url : String) : Settings :=
  match s.redis with
  | some redis => { s with redis := some { redis with url } }
  | none => { s with redis := some { url } }

/-- Sets a setting that a layer gives. -/
def given {α : Type} (value : Option α) (set : Settings → α → Settings) (s : Settings) : Settings :=
  match value with
  | some a => set s a
  | none => s

/-- The port in the environment. -/
def portOf (env : Environment) : Except SettingsError (Option UInt16) :=
  match env.lookup "PRIVCHAT_PUSH_PORT" with
  | none => .ok none
  | some text =>
    match Decimal.port? text with
    | some port => .ok (some port)
    | none => .error (.badPort text)

/-- A number in the environment; a text that is none counts as not given. -/
def wordOf (env : Environment) (name : String) : Option UInt64 :=
  env.lookup name >>= Decimal.word?

/-- The settings with what the environment gives. -/
def withEnvironment (s : Settings) (env : Environment) : Except SettingsError Settings := do
  let port ← portOf env
  return s
    |> given (env.lookup "PRIVCHAT_PUSH_HOST")
        (fun s host => { s with server := { s.server with host } })
    |> given port (fun s port => { s with server := { s.server with port } })
    |> given (env.lookup "PRIVCHAT_PUSH_JWT_SECRET")
        (fun s secret => { s with auth := { s.auth with jwtSecret := secret } })
    |> given (wordOf env "PRIVCHAT_PUSH_TOKEN_TTL_SECS")
        (fun s n => { s with auth := { s.auth with tokenTtlSecs := n } })
    |> given (env.lookup "PRIVCHAT_PUSH_ISSUE_SECRET")
        (fun s secret => { s with auth := { s.auth with issueSecret := some secret } })
    |> given (env.lookup "PRIVCHAT_PUSH_MEMBERSHIP_RPC_URL")
        (fun s url => { s with membership := { s.membership with rpcUrl := url } })
    |> given (wordOf env "PRIVCHAT_PUSH_CONSUMER_WORKERS")
        (fun s n => { s with consumer := { s.consumer with workers := n } })
    |> given (env.lookup "PRIVCHAT_PUSH_LOG_LEVEL")
        (fun s level => { s with logging := { s.logging with level := some level } })
    |> given (env.lookup "PRIVCHAT_PUSH_FCM_ACCESS_TOKEN")
        (fun s token => { s with push := { s.push with
          fcm := s.push.fcm.map fun f => { f with accessToken := token } } })
    |> given (env.lookup "REDIS_URL") withRedisUrl

/-- The settings with what the command line gives. -/
def withArguments (s : Settings) (a : Arguments) : Settings :=
  s
    |> given a.host (fun s host => { s with server := { s.server with host } })
    |> given a.port (fun s port => { s with server := { s.server with port } })
    |> given a.redisUrl withRedisUrl
    |> given a.jwtSecret (fun s secret => { s with auth := { s.auth with jwtSecret := secret } })
    |> given a.workers (fun s n => { s with consumer := { s.consumer with workers := n } })
    |> given a.effectiveLevel
        (fun s level => { s with logging := { s.logging with level := some level } })
    |> given a.effectiveFormat
        (fun s format => { s with logging := { s.logging with format := some format } })
    |> given a.logFile (fun s file => { s with logging := { s.logging with file := some file } })
    |> fun s => if a.dev then { s with push := { s.push with mockOffline := true } } else s

/-- Settings that pass all checks. -/
def checked (s : Settings) : Except SettingsError Settings :=
  match s.fault? with
  | none => .ok s
  | some fault => .error (.refused fault)

/-- The settings that the text of a file gives. -/
def ofText (text : String) : Except SettingsError Settings :=
  match ofText? text with
  | some s => .ok s
  | none => .error .malformed

/-- The settings in a file. -/
def ofFile (path : String) : WithFiles (Except SettingsError Settings) := do
  match ← WithFiles.read path with
  | .error e => return .error (.unreadable path e)
  | .ok text => return ofText text

/-- Lays the environment and the command line over the settings of a file, and checks the
result. -/
def layered (file : Settings) (env : Environment) (a : Arguments) :
    Except SettingsError Settings := do
  checked ((← file.withEnvironment env).withArguments a)

/-- The configuration file to be read: the one that is named, else the default one, if it is
there. -/
def filePath? (named : Option String) : WithFiles (Option String) := do
  let path := named.getD CommandLine.defaultPath
  if ← WithFiles.pathExists path then return some path else return none

/-- The settings of the service. -/
def load (env : Environment) (a : Arguments) : WithFiles (Except SettingsError Settings) := do
  let file ← match ← filePath? a.configFile with
    | none => pure (.ok {})
    | some path => ofFile path
  return file >>= fun file => layered file env a

end Settings

/-- The settings of the log that a configuration file gives, read before all others: none if the
file is missing or not as it should be. -/
def LoggingSettings.early (named : Option String) : WithFiles LoggingSettings := do
  match ← WithFiles.read (named.getD CommandLine.defaultPath) with
  | .error _ => return {}
  | .ok text => return (ofText? text).getD {}

/-- The log as it is started, before the settings are loaded: from the command line, else from the
file. -/
def LoggingSettings.started (early : LoggingSettings) (a : CommandLine.Arguments) :
    LoggingSettings where
  level := some ((a.effectiveLevel <|> early.level).getD "info")
  format := a.effectiveFormat <|> early.format
  file := a.logFile <|> early.file

end Courier
