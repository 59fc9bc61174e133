import Courier.Settings.Basic
import Courier.Toml.Parse

/-!
# The configuration file

Reads settings from a TOML text. Keys that name no setting are passed over, and settings that are
not given keep their defaults; four sections need some of their fields.
-/

namespace Courier

open Toml (Reader fields? field field? fieldD)
open Toml (readText readBool readPort readSmall readWord readList)

/-- Reads where the service listens. -/
def ServerSettings.read : Reader ServerSettings := fun v => do
  let given ← fields? ["host", "port"] v
  let d : ServerSettings := {}
  return {
    host := ← fieldD given "host" readText d.host
    port := ← fieldD given "port" readPort d.port }

/-- Reads how tokens are signed. -/
def AuthSettings.read : Reader AuthSettings := fun v => do
  let given ← fields? ["jwt_secret", "token_ttl_secs", "admin_user_ids", "issue_secret"] v
  let d : AuthSettings := {}
  return {
    jwtSecret := ← fieldD given "jwt_secret" readText d.jwtSecret
    tokenTtlSecs := ← fieldD given "token_ttl_secs" readWord d.tokenTtlSecs
    adminUserIds := ← fieldD given "admin_user_ids" (readList readText) d.adminUserIds
    issueSecret := ← field? given "issue_secret" readText }

/-- Reads the access to a vendor's push service. -/
def FcmSettings.read : Reader FcmSettings := fun v => do
  let given ← fields? ["project_id", "access_token", "endpoint"] v
  return {
    projectId := ← field given "project_id" readText
    accessToken := ← field given "access_token" readText
    endpoint := ← field? given "endpoint" readText }

/-- Reads the access to the other vendor's push service. -/
def ApnsSettings.read : Reader ApnsSettings := fun v => do
  let given ← fields? ["bundle_id", "team_id", "key_id", "private_key_path", "sandbox"] v
  return {
    bundleId := ← field given "bundle_id" readText
    teamId := ← field given "team_id" readText
    keyId := ← field given "key_id" readText
    privateKeyPath := ← field given "private_key_path" readText
    sandbox := ← fieldD given "sandbox" readBool false }

/-- Reads how messages are delivered. -/
def PushSettings.read : Reader PushSettings := fun v => do
  let given ← fields? ["online_timeout_ms", "offline_timeout_ms", "max_concurrent_deliveries",
    "session_queue_capacity", "mock_offline", "fcm", "apns"] v
  let d : PushSettings := {}
  return {
    onlineTimeoutMs := ← fieldD given "online_timeout_ms" readWord d.onlineTimeoutMs
    offlineTimeoutMs := ← fieldD given "offline_timeout_ms" readWord d.offlineTimeoutMs
    maxConcurrentDeliveries :=
      ← fieldD given "max_concurrent_deliveries" readWord d.maxConcurrentDeliveries
    sessionQueueCapacity := ← fieldD given "session_queue_capacity" readWord d.sessionQueueCapacity
    mockOffline := ← fieldD given "mock_offline" readBool d.mockOffline
    fcm := ← field? given "fcm" FcmSettings.read
    apns := ← field? given "apns" ApnsSettings.read }

/-- Reads where members are asked for. -/
def MembershipSettings.read : Reader MembershipSettings := fun v => do
  let given ← fields? ["rpc_url", "rpc_timeout_ms", "max_staleness_secs", "max_capacity"] v
  let d : MembershipSettings := {}
  return {
    rpcUrl := ← fieldD given "rpc_url" readText d.rpcUrl
    rpcTimeoutMs := ← fieldD given "rpc_timeout_ms" readWord d.rpcTimeoutMs
    maxStalenessSecs := ← fieldD given "max_staleness_secs" readWord d.maxStalenessSecs
    maxCapacity := ← fieldD given "max_capacity" readWord d.maxCapacity }

/-- Reads how published messages are worked off. -/
def ConsumerSettings.read : Reader ConsumerSettings := fun v => do
  let given ← fields? ["workers", "queue_capacity", "redelivery_delay_ms"] v
  let d : ConsumerSettings := {}
  return {
    workers := ← fieldD given "workers" readWord d.workers
    queueCapacity := ← fieldD given "queue_capacity" readWord d.queueCapacity
    redeliveryDelayMs := ← fieldD given "redelivery_delay_ms" readWord d.redeliveryDelayMs }

/-- Reads the access to a Redis server. -/
def RedisSettings.read : Reader RedisSettings := fun v => do
  let given ← fields? ["url", "pool_size", "min_idle", "connection_timeout_secs",
    "command_timeout_ms", "idle_timeout_secs"] v
  let url ← field given "url" readText
  let d : RedisSettings := { url }
  return {
    url := url
    poolSize := ← fieldD given "pool_size" readSmall d.poolSize
    minIdle := ← field? given "min_idle" readSmall
    connectionTimeoutSecs :=
      ← fieldD given "connection_timeout_secs" readWord d.connectionTimeoutSecs
    commandTimeoutMs := ← fieldD given "command_timeout_ms" readWord d.commandTimeoutMs
    idleTimeoutSecs := ← field? given "idle_timeout_secs" readWord }

/-- Reads what is logged. -/
def LoggingSettings.read : Reader LoggingSettings := fun v => do
  let given ← fields? ["level", "format", "file"] v
  return {
    level := ← field? given "level" readText
    format := ← field? given "format" readText
    file := ← field? given "file" readText }

namespace Settings

/-- Reads all settings. -/
def read : Reader Settings := fun v => do
  let given ← fields? ["server", "auth", "push", "membership", "consumer", "redis", "logging"] v
  return {
    server := ← fieldD given "server" ServerSettings.read {}
    auth := ← fieldD given "auth" AuthSettings.read {}
    push := ← fieldD given "push" PushSettings.read {}
    membership := ← fieldD given "membership" MembershipSettings.read {}
    consumer := ← fieldD given "consumer" ConsumerSettings.read {}
    redis := ← field? given "redis" RedisSettings.read
    logging := ← fieldD given "logging" LoggingSettings.read {} }

/-- The settings that the text of a configuration file gives. -/
def ofText? (s : String) : Option Settings :=
  Toml.parse? s >>= read

end Settings

/-- The settings of the log alone that the text of a configuration file gives; other sections are
not looked at. -/
def LoggingSettings.ofText? (s : String) : Option LoggingSettings := do
  let given ← fields? ["logging"] (← Toml.parse? s)
  fieldD given "logging" LoggingSettings.read {}

end Courier
