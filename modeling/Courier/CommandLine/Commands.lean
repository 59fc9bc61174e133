import Courier.Settings.EnvFile

/-!
# Commands

What a call of the program does: it writes, checks or shows a configuration, or starts the service.
A call ends with an exit code, what it prints, and on failure the chain of what went wrong.
-/

namespace Courier.CommandLine

/-- How a call ends. -/
inductive Ending where
  /-- It printed these lines. -/
  | printed (lines : List String)
  /-- What failed, and what caused it. -/
  | failed (messages : List String)
  /-- The words were no arguments. -/
  | misused (stop : Stop)
  /-- The service is to run with these settings. -/
  | started (settings : Settings)
  deriving Repr

/-- The name and version of the program. -/
def versionLine : String := "privchat-push 0.1.0"

/-- The configuration file that is written as a start. -/
def template : String := "# PrivChat Push 配置文件
# 此文件由 privchat-push generate-config 生成

[server]
host = \"0.0.0.0\"
port = 10170

[auth]
jwt_secret = \"change-me\"
token_ttl_secs = 604800
admin_user_ids = []
# 签发 token 和内部 /push/* RPC 的共享密钥
# issue_secret = \"change-me-too\"

[push]
online_timeout_ms = 3000
offline_timeout_ms = 5000
max_concurrent_deliveries = 64
session_queue_capacity = 256
mock_offline = false

# [push.fcm]
# project_id = \"my-project\"
# access_token = \"ya29....\"

# [push.apns]
# bundle_id = \"com.example.app\"
# team_id = \"TEAMID\"
# key_id = \"KEYID\"
# private_key_path = \"./AuthKey.p8\"
# sandbox = true

[membership]
rpc_url = \"http://127.0.0.1:10150\"
rpc_timeout_ms = 3000
max_staleness_secs = 60
max_capacity = 100000

[consumer]
workers = 4
queue_capacity = 10000
redelivery_delay_ms = 1000

# [redis]
# url = \"redis://127.0.0.1:6379\"
# pool_size = 10

[logging]
level = \"info\"
format = \"compact\"
# file = \"./logs/push.log\"
"

/-- Writes the template. -/
def generateConfig (path : String) : WithFiles Ending := do
  match ← WithFiles.write path template with
  | .ok _ => return .printed ["✅ 配置文件已生成: " ++ path]
  | .error e => return .failed ["无法写入配置文件: " ++ path, e.message]

/-- What is shown of settings that are in order. -/
def summary (path : String) (s : Settings) : List String := [
  "✅ 配置文件有效: " ++ path,
  "📊 配置摘要:",
  "  - HTTP: " ++ s.server.address,
  "  - Consumer Workers: " ++ toString s.consumer.workers.toNat,
  "  - Membership RPC: " ++ s.membership.rpcUrl,
  "  - Redis: " ++ if s.redis.isSome then "true" else "false"]

/-- Checks a configuration file. -/
def validateConfig (path : String) : WithFiles Ending := do
  match ← Settings.ofFile path with
  | .error e => return .failed (("配置文件验证失败: " ++ path) :: e.messages)
  | .ok s =>
    match s.checked with
    | .error e => return .failed (("配置文件验证失败: " ++ path) :: e.messages)
    | .ok s => return .printed (summary path s)

/-- The chain of messages when the settings cannot be loaded. -/
def loadFailure (e : SettingsError) : List String :=
  "加载配置失败" :: e.messages

/-- Shows the settings that a start would have. -/
def showConfig (env : Environment) (a : Arguments) : WithFiles Ending := do
  match ← Settings.load env a with
  | .error e => return .failed (loadFailure e)
  | .ok s => return .printed ["📊 最终配置（合并后的配置）:", s.toJson.printIndented]

/-- Starts the log: the directory of its file is made. -/
def startLogging (file : Option String) : WithFiles (Except (List String) Unit) := do
  match file with
  | none => return .ok ()
  | some path =>
    match FilePath.fileName? path with
    | none => return .error ["日志文件路径无效: " ++ quoted path]
    | some _ =>
      let directory := if FilePath.parent path = "" then "." else FilePath.parent path
      match ← WithFiles.makeDirectory directory with
      | .ok _ => return .ok ()
      | .error e => return .error ["无法创建日志目录: " ++ quoted directory, e.message]

/-- Starts the service: the log comes first, then the settings. -/
def start (env : Environment) (a : Arguments) : WithFiles Ending := do
  let early ← LoggingSettings.early a.configFile
  match ← startLogging (early.started a).file with
  | .error messages => return .failed messages
  | .ok _ =>
    match ← Settings.load env a with
    | .error e => return .failed (loadFailure e)
    | .ok s => return .started s

/-- A call of the program with the words of its command line. Variables from a file count where the
environment does not set them. -/
def call (env : Environment) (words : List String) : WithFiles Ending := do
  let env := match ← WithFiles.readNearest ".env" with
    | some text => env.withFile text
    | none => env
  match Arguments.ofWords words with
  | .error .version => return .printed [versionLine]
  | .error stop => return .misused stop
  | .ok a =>
    match a.command with
    | some (.generateConfig path) => generateConfig path
    | some (.validateConfig path) => validateConfig path
    | some .showConfig => showConfig env a
    | none => start env a

namespace Ending

/-- The exit code. A service that cannot run ends with a failure, too. -/
def exitCode : Ending → Nat
  | .printed _ => 0
  | .misused .help => 0
  | .misused .version => 0
  | .misused _ => 2
  | .failed _ => 1
  | .started _ => 1

/-- What is printed. -/
def output : Ending → String
  | .printed lines => String.join (lines.map (· ++ "\n"))
  | _ => ""

/-- The chain of messages as it is shown: what failed, then its causes, numbered if there are
several. -/
def errorLines : Ending → List String
  | .failed (top :: causes) =>
    ("Error: " ++ top) ::
      match causes with
      | [] => []
      | [cause] => ["Caused by:", cause]
      | causes => "Caused by:" :: causes.mapIdx fun i cause => toString i ++ ": " ++ cause
  | _ => []

end Ending

end Courier.CommandLine
