import Courier.Json.Print

/-!
# Settings

All settings of the service with their defaults, what is checked before it starts, and their form
as JSON.
-/

namespace Courier

/-- Where the service listens. -/
structure ServerSettings where
  host : String := "127.0.0.1"
  port : UInt16 := 10170
  deriving DecidableEq, Repr, Inhabited

/-- How tokens are signed and who may ask for what. Without an issue secret, tokens are not issued
over HTTP and internal calls are refused. -/
structure AuthSettings where
  jwtSecret : String := "your_jwt_secret_here"
  tokenTtlSecs : UInt64 := 604800
  adminUserIds : List String := []
  issueSecret : Option String := none
  deriving DecidableEq, Repr, Inhabited

/-- Access to one vendor's push service. -/
structure FcmSettings where
  projectId : String
  accessToken : String
  endpoint : Option String := none
  deriving DecidableEq, Repr, Inhabited

/-- Access to the other vendor's push service. -/
structure ApnsSettings where
  bundleId : String
  teamId : String
  keyId : String
  privateKeyPath : String
  sandbox : Bool := false
  deriving DecidableEq, Repr, Inhabited

/-- How messages are delivered. -/
structure PushSettings where
  onlineTimeoutMs : UInt64 := 3000
  offlineTimeoutMs : UInt64 := 5000
  maxConcurrentDeliveries : UInt64 := 64
  sessionQueueCapacity : UInt64 := 256
  /-- Whether vendors that are not configured are stood in for by a provider that only logs. -/
  mockOffline : Bool := false
  fcm : Option FcmSettings := none
  apns : Option ApnsSettings := none
  deriving DecidableEq, Repr, Inhabited

/-- Where the members of groups are asked for, and how long an answer is kept. -/
structure MembershipSettings where
  rpcUrl : String := "http://127.0.0.1:10150"
  rpcTimeoutMs : UInt64 := 3000
  maxStalenessSecs : UInt64 := 60
  maxCapacity : UInt64 := 100000
  deriving DecidableEq, Repr, Inhabited

/-- How published messages are worked off. -/
structure ConsumerSettings where
  workers : UInt64 := 4
  queueCapacity : UInt64 := 10000
  redeliveryDelayMs : UInt64 := 1000
  deriving DecidableEq, Repr, Inhabited

/-- Access to a Redis server that keeps tokens and registrations. -/
structure RedisSettings where
  url : String
  poolSize : UInt32 := 10
  minIdle : Option UInt32 := none
  connectionTimeoutSecs : UInt64 := 5
  commandTimeoutMs : UInt64 := 1000
  idleTimeoutSecs : Option UInt64 := none
  deriving DecidableEq, Repr, Inhabited

/-- What is logged, in which form, and to which file. -/
structure LoggingSettings where
  level : Option String := none
  format : Option String := none
  file : Option String := none
  deriving DecidableEq, Repr, Inhabited

/-- All settings. -/
structure Settings where
  server : ServerSettings := {}
  auth : AuthSettings := {}
  push : PushSettings := {}
  membership : MembershipSettings := {}
  consumer : ConsumerSettings := {}
  redis : Option RedisSettings := none
  logging : LoggingSettings := {}
  deriving DecidableEq, Repr, Inhabited

/-- The address that the service listens on. -/
def ServerSettings.address (s : ServerSettings) : String :=
  s.host ++ ":" ++ toString s.port.toNat

/-- Whether a user may log out others. -/
def AuthSettings.isAdmin (s : AuthSettings) (user : String) : Bool :=
  s.adminUserIds.contains user

/-- A check that settings fail. -/
inductive SettingsFault where
  | emptyJwtSecret
  | zeroTokenTtl
  | zeroWorkers
  | zeroConcurrency
  | zeroStaleness
  deriving DecidableEq, Repr

/-- The sentence about a failed check. -/
def SettingsFault.message : SettingsFault → String
  | .emptyJwtSecret => "auth.jwt_secret 不能为空"
  | .zeroTokenTtl => "auth.token_ttl_secs 必须大于 0"
  | .zeroWorkers => "consumer.workers 必须大于 0"
  | .zeroConcurrency => "push.max_concurrent_deliveries 必须大于 0"
  | .zeroStaleness => "membership.max_staleness_secs 必须大于 0"

/-- The first check that settings fail. -/
def Settings.fault? (s : Settings) : Option SettingsFault :=
  if s.auth.jwtSecret = "" then some .emptyJwtSecret
  else if s.auth.tokenTtlSecs = 0 then some .zeroTokenTtl
  else if s.consumer.workers = 0 then some .zeroWorkers
  else if s.push.maxConcurrentDeliveries = 0 then some .zeroConcurrency
  else if s.membership.maxStalenessSecs = 0 then some .zeroStaleness
  else none

/-! ### As JSON -/

/-- A count as JSON. -/
def wordToJson (n : UInt64) : Json := .ofNat n.toNat

/-- A value or null. -/
def orNull {α : Type} (toJson : α → Json) : Option α → Json
  | none => .null
  | some a => toJson a

/-- The settings of a vendor's push service as JSON. -/
def FcmSettings.toJson (s : FcmSettings) : Json :=
  .object [("project_id", .text s.projectId), ("access_token", .text s.accessToken),
    ("endpoint", orNull .text s.endpoint)]

/-- The settings of the other vendor's push service as JSON. -/
def ApnsSettings.toJson (s : ApnsSettings) : Json :=
  .object [("bundle_id", .text s.bundleId), ("team_id", .text s.teamId), ("key_id", .text s.keyId),
    ("private_key_path", .text s.privateKeyPath), ("sandbox", .bool s.sandbox)]

/-- The settings of a Redis server as JSON. -/
def RedisSettings.toJson (s : RedisSettings) : Json :=
  .object [("url", .text s.url), ("pool_size", .ofNat s.poolSize.toNat),
    ("min_idle", orNull (fun n : UInt32 => .ofNat n.toNat) s.minIdle),
    ("connection_timeout_secs", wordToJson s.connectionTimeoutSecs),
    ("command_timeout_ms", wordToJson s.commandTimeoutMs),
    ("idle_timeout_secs", orNull wordToJson s.idleTimeoutSecs)]

/-- The settings of the log as JSON. -/
def LoggingSettings.toJson (s : LoggingSettings) : Json :=
  .object [("level", orNull .text s.level), ("format", orNull .text s.format),
    ("file", orNull .text s.file)]

/-- All settings as JSON. -/
def Settings.toJson (s : Settings) : Json :=
  .object [
    ("server", .object [("host", .text s.server.host), ("port", .ofNat s.server.port.toNat)]),
    ("auth", .object [
      ("jwt_secret", .text s.auth.jwtSecret),
      ("token_ttl_secs", wordToJson s.auth.tokenTtlSecs),
      ("admin_user_ids", .array (s.auth.adminUserIds.map .text)),
      ("issue_secret", orNull .text s.auth.issueSecret)]),
    ("push", .object [
      ("online_timeout_ms", wordToJson s.push.onlineTimeoutMs),
      ("offline_timeout_ms", wordToJson s.push.offlineTimeoutMs),
      ("max_concurrent_deliveries", wordToJson s.push.maxConcurrentDeliveries),
      ("session_queue_capacity", wordToJson s.push.sessionQueueCapacity),
      ("mock_offline", .bool s.push.mockOffline),
      ("fcm", orNull FcmSettings.toJson s.push.fcm),
      ("apns", orNull ApnsSettings.toJson s.push.apns)]),
    ("membership", .object [
      ("rpc_url", .text s.membership.rpcUrl),
      ("rpc_timeout_ms", wordToJson s.membership.rpcTimeoutMs),
      ("max_staleness_secs", wordToJson s.membership.maxStalenessSecs),
      ("max_capacity", wordToJson s.membership.maxCapacity)]),
    ("consumer", .object [
      ("workers", wordToJson s.consumer.workers),
      ("queue_capacity", wordToJson s.consumer.queueCapacity),
      ("redelivery_delay_ms", wordToJson s.consumer.redeliveryDelayMs)]),
    ("redis", orNull RedisSettings.toJson s.redis),
    ("logging", s.logging.toJson)]

theorem Settings.fault?_eq_none_iff {s : Settings} :
    s.fault? = none ↔ s.auth.jwtSecret ≠ "" ∧ s.auth.tokenTtlSecs ≠ 0 ∧ s.consumer.workers ≠ 0 ∧
      s.push.maxConcurrentDeliveries ≠ 0 ∧ s.membership.maxStalenessSecs ≠ 0 := by
  unfold fault?
  grind

end Courier
