import Courier.Proofs.Toml.Shape
import Courier.Settings.File

/-!
# What a configuration file sets

The shape of a configuration file, section by section, and the settings that it writes. Main
statement: a file is read exactly if it has this shape, and each setting is then the value that the
file gives for it or else its default.
-/

namespace Courier

open Toml

/-! ### The shape of a file -/

/-- What the section on the address may hold. -/
def ServerSettings.fields : List Field := [
  ⟨"host", IsText, false⟩, ⟨"port", IsCount 65535, false⟩]

/-- What the section on tokens may hold. -/
def AuthSettings.fields : List Field := [
  ⟨"jwt_secret", IsText, false⟩, ⟨"token_ttl_secs", IsCount 18446744073709551615, false⟩,
  ⟨"admin_user_ids", IsTexts, false⟩, ⟨"issue_secret", IsText, false⟩]

/-- What the section on one vendor holds. -/
def FcmSettings.fields : List Field := [
  ⟨"project_id", IsText, true⟩, ⟨"access_token", IsText, true⟩, ⟨"endpoint", IsText, false⟩]

/-- What the section on the other vendor holds. -/
def ApnsSettings.fields : List Field := [
  ⟨"bundle_id", IsText, true⟩, ⟨"team_id", IsText, true⟩, ⟨"key_id", IsText, true⟩,
  ⟨"private_key_path", IsText, true⟩, ⟨"sandbox", IsBool, false⟩]

/-- What the section on deliveries may hold. -/
def PushSettings.fields : List Field := [
  ⟨"online_timeout_ms", IsCount 18446744073709551615, false⟩,
  ⟨"offline_timeout_ms", IsCount 18446744073709551615, false⟩,
  ⟨"max_concurrent_deliveries", IsCount 18446744073709551615, false⟩,
  ⟨"session_queue_capacity", IsCount 18446744073709551615, false⟩,
  ⟨"mock_offline", IsBool, false⟩,
  ⟨"fcm", IsRecord FcmSettings.fields, false⟩, ⟨"apns", IsRecord ApnsSettings.fields, false⟩]

/-- What the section on members may hold. -/
def MembershipSettings.fields : List Field := [
  ⟨"rpc_url", IsText, false⟩, ⟨"rpc_timeout_ms", IsCount 18446744073709551615, false⟩,
  ⟨"max_staleness_secs", IsCount 18446744073709551615, false⟩,
  ⟨"max_capacity", IsCount 18446744073709551615, false⟩]

/-- What the section on workers may hold. -/
def ConsumerSettings.fields : List Field := [
  ⟨"workers", IsCount 18446744073709551615, false⟩,
  ⟨"queue_capacity", IsCount 18446744073709551615, false⟩,
  ⟨"redelivery_delay_ms", IsCount 18446744073709551615, false⟩]

/-- What the section on the Redis server holds. -/
def RedisSettings.fields : List Field := [
  ⟨"url", IsText, true⟩, ⟨"pool_size", IsCount 4294967295, false⟩,
  ⟨"min_idle", IsCount 4294967295, false⟩,
  ⟨"connection_timeout_secs", IsCount 18446744073709551615, false⟩,
  ⟨"command_timeout_ms", IsCount 18446744073709551615, false⟩,
  ⟨"idle_timeout_secs", IsCount 18446744073709551615, false⟩]

/-- What the section on the log may hold. -/
def LoggingSettings.fields : List Field := [
  ⟨"level", IsText, false⟩, ⟨"format", IsText, false⟩, ⟨"file", IsText, false⟩]

/-- The sections that a file may hold. -/
def Settings.sections : List Field := [
  ⟨"server", IsRecord ServerSettings.fields, false⟩,
  ⟨"auth", IsRecord AuthSettings.fields, false⟩,
  ⟨"push", IsRecord PushSettings.fields, false⟩,
  ⟨"membership", IsRecord MembershipSettings.fields, false⟩,
  ⟨"consumer", IsRecord ConsumerSettings.fields, false⟩,
  ⟨"redis", IsRecord RedisSettings.fields, false⟩,
  ⟨"logging", IsRecord LoggingSettings.fields, false⟩]

/-! ### The settings that values make -/

/-- The address: what is given, or the default. -/
def ServerSettings.ofValues (value : String → Option Toml) : ServerSettings where
  host := (value "host" >>= readText).getD "127.0.0.1"
  port := (value "port" >>= readPort).getD 10170

/-- How tokens are signed: what is given, or the default. -/
def AuthSettings.ofValues (value : String → Option Toml) : AuthSettings where
  jwtSecret := (value "jwt_secret" >>= readText).getD "your_jwt_secret_here"
  tokenTtlSecs := (value "token_ttl_secs" >>= readWord).getD 604800
  adminUserIds := (value "admin_user_ids" >>= readList readText).getD []
  issueSecret := value "issue_secret" >>= readText

/-- The access to a vendor, if it is given. -/
def FcmSettings.ofValues? (value : String → Option Toml) : Option FcmSettings := do
  let projectId ← value "project_id" >>= readText
  let accessToken ← value "access_token" >>= readText
  return { projectId, accessToken, endpoint := value "endpoint" >>= readText }

/-- The access to the other vendor, if it is given. -/
def ApnsSettings.ofValues? (value : String → Option Toml) : Option ApnsSettings := do
  let bundleId ← value "bundle_id" >>= readText
  let teamId ← value "team_id" >>= readText
  let keyId ← value "key_id" >>= readText
  let privateKeyPath ← value "private_key_path" >>= readText
  let sandbox := (value "sandbox" >>= readBool).getD false
  return { bundleId, teamId, keyId, privateKeyPath, sandbox }

/-- How messages are delivered: what is given, or the default. -/
def PushSettings.ofValues (value : String → Option Toml) : PushSettings where
  onlineTimeoutMs := (value "online_timeout_ms" >>= readWord).getD 3000
  offlineTimeoutMs := (value "offline_timeout_ms" >>= readWord).getD 5000
  maxConcurrentDeliveries := (value "max_concurrent_deliveries" >>= readWord).getD 64
  sessionQueueCapacity := (value "session_queue_capacity" >>= readWord).getD 256
  mockOffline := (value "mock_offline" >>= readBool).getD false
  fcm := FcmSettings.ofValues? (valuesIn value "fcm" FcmSettings.fields)
  apns := ApnsSettings.ofValues? (valuesIn value "apns" ApnsSettings.fields)

/-- Where members are asked for: what is given, or the default. -/
def MembershipSettings.ofValues (value : String → Option Toml) : MembershipSettings where
  rpcUrl := (value "rpc_url" >>= readText).getD "http://127.0.0.1:10150"
  rpcTimeoutMs := (value "rpc_timeout_ms" >>= readWord).getD 3000
  maxStalenessSecs := (value "max_staleness_secs" >>= readWord).getD 60
  maxCapacity := (value "max_capacity" >>= readWord).getD 100000

/-- How published messages are worked off: what is given, or the default. -/
def ConsumerSettings.ofValues (value : String → Option Toml) : ConsumerSettings where
  workers := (value "workers" >>= readWord).getD 4
  queueCapacity := (value "queue_capacity" >>= readWord).getD 10000
  redeliveryDelayMs := (value "redelivery_delay_ms" >>= readWord).getD 1000

/-- The access to a Redis server, if its address is given: what else is given, or the default. -/
def RedisSettings.ofValues? (value : String → Option Toml) : Option RedisSettings := do
  let url ← value "url" >>= readText
  return {
    url
    poolSize := (value "pool_size" >>= readSmall).getD 10
    minIdle := value "min_idle" >>= readSmall
    connectionTimeoutSecs := (value "connection_timeout_secs" >>= readWord).getD 5
    commandTimeoutMs := (value "command_timeout_ms" >>= readWord).getD 1000
    idleTimeoutSecs := value "idle_timeout_secs" >>= readWord }

/-- What is logged, as far as it is given. -/
def LoggingSettings.ofValues (value : String → Option Toml) : LoggingSettings where
  level := value "level" >>= readText
  format := value "format" >>= readText
  file := value "file" >>= readText

/-- All settings: what is given, or the default. -/
def Settings.ofSections (value : String → Option Toml) : Settings where
  server := .ofValues (valuesIn value "server" ServerSettings.fields)
  auth := .ofValues (valuesIn value "auth" AuthSettings.fields)
  push := .ofValues (valuesIn value "push" PushSettings.fields)
  membership := .ofValues (valuesIn value "membership" MembershipSettings.fields)
  consumer := .ofValues (valuesIn value "consumer" ConsumerSettings.fields)
  redis := RedisSettings.ofValues? (valuesIn value "redis" RedisSettings.fields)
  logging := .ofValues (valuesIn value "logging" LoggingSettings.fields)

/-! ### Sections are read -/

theorem ServerSettings.readsRecord :
    ReadsRecord ServerSettings.read fields fun value => some (ofValues value) := by
  refine readsRecord_of_fields fields (fun value => some (ofValues value)) fun given s => ?_
  simp [fields, ofValues, Option.bind_eq_some_iff, fieldD_eq_some_iff takes_text,
    fieldD_eq_some_iff takes_port, and_assoc]

theorem AuthSettings.readsRecord :
    ReadsRecord AuthSettings.read fields fun value => some (ofValues value) := by
  refine readsRecord_of_fields fields (fun value => some (ofValues value)) fun given s => ?_
  simp [fields, ofValues, Option.bind_eq_some_iff, fieldD_eq_some_iff takes_text,
    fieldD_eq_some_iff takes_word, fieldD_eq_some_iff takes_texts, field?_eq_some_iff takes_text,
    and_assoc]

theorem FcmSettings.readsRecord : ReadsRecord FcmSettings.read fields ofValues? := by
  refine readsRecord_of_fields fields ofValues? fun given s => ?_
  cases s
  simp [fields, ofValues?, Option.bind_eq_some_iff, field_eq_some_iff takes_text,
    field?_eq_some_iff takes_text, and_assoc]
  tauto

theorem FcmSettings.takes : Takes FcmSettings.read (IsRecord fields) := by
  refine readsRecord.takes fun v hv => ?_
  obtain ⟨projectId, hp⟩ := hv.exists_value "project_id" takes_text (by simp [fields])
  obtain ⟨accessToken, ht⟩ := hv.exists_value "access_token" takes_text (by simp [fields])
  simp [ofValues?, hp, ht]

theorem ApnsSettings.readsRecord : ReadsRecord ApnsSettings.read fields ofValues? := by
  refine readsRecord_of_fields fields ofValues? fun given s => ?_
  cases s
  simp [fields, ofValues?, Option.bind_eq_some_iff, field_eq_some_iff takes_text,
    fieldD_eq_some_iff takes_bool, and_assoc]
  tauto

theorem ApnsSettings.takes : Takes ApnsSettings.read (IsRecord fields) := by
  refine readsRecord.takes fun v hv => ?_
  obtain ⟨bundleId, hb⟩ := hv.exists_value "bundle_id" takes_text (by simp [fields])
  obtain ⟨teamId, ht⟩ := hv.exists_value "team_id" takes_text (by simp [fields])
  obtain ⟨keyId, hk⟩ := hv.exists_value "key_id" takes_text (by simp [fields])
  obtain ⟨path, hp⟩ := hv.exists_value "private_key_path" takes_text (by simp [fields])
  simp [ofValues?, hb, ht, hk, hp]

theorem PushSettings.readsRecord :
    ReadsRecord PushSettings.read fields fun value => some (ofValues value) := by
  refine readsRecord_of_fields fields (fun value => some (ofValues value)) fun given s => ?_
  simp [fields, ofValues, Option.bind_eq_some_iff, fieldD_eq_some_iff takes_word,
    fieldD_eq_some_iff takes_bool,
    FcmSettings.readsRecord.field?_eq_some_iff FcmSettings.takes rfl,
    ApnsSettings.readsRecord.field?_eq_some_iff ApnsSettings.takes rfl, and_assoc]

theorem MembershipSettings.readsRecord :
    ReadsRecord MembershipSettings.read fields fun value => some (ofValues value) := by
  refine readsRecord_of_fields fields (fun value => some (ofValues value)) fun given s => ?_
  simp [fields, ofValues, Option.bind_eq_some_iff, fieldD_eq_some_iff takes_text,
    fieldD_eq_some_iff takes_word, and_assoc]

theorem ConsumerSettings.readsRecord :
    ReadsRecord ConsumerSettings.read fields fun value => some (ofValues value) := by
  refine readsRecord_of_fields fields (fun value => some (ofValues value)) fun given s => ?_
  simp [fields, ofValues, Option.bind_eq_some_iff, fieldD_eq_some_iff takes_word, and_assoc]

theorem RedisSettings.readsRecord : ReadsRecord RedisSettings.read fields ofValues? := by
  refine readsRecord_of_fields fields ofValues? fun given s => ?_
  cases s
  simp [fields, ofValues?, Option.bind_eq_some_iff, field_eq_some_iff takes_text,
    fieldD_eq_some_iff takes_word, fieldD_eq_some_iff takes_small, field?_eq_some_iff takes_word,
    field?_eq_some_iff takes_small, and_assoc]
  tauto

theorem RedisSettings.takes : Takes RedisSettings.read (IsRecord fields) := by
  refine readsRecord.takes fun v hv => ?_
  obtain ⟨url, hu⟩ := hv.exists_value "url" takes_text (by simp [fields])
  simp [ofValues?, hu]

theorem LoggingSettings.readsRecord :
    ReadsRecord LoggingSettings.read fields fun value => some (ofValues value) := by
  refine readsRecord_of_fields fields (fun value => some (ofValues value)) fun given s => ?_
  simp [fields, ofValues, Option.bind_eq_some_iff, field?_eq_some_iff takes_text, and_assoc]

theorem Settings.readsRecord :
    ReadsRecord Settings.read sections fun value => some (ofSections value) := by
  refine readsRecord_of_fields sections (fun value => some (ofSections value)) fun given s => ?_
  simp [sections, ofSections, Option.bind_eq_some_iff,
    ServerSettings.readsRecord.fieldD_eq_some_iff (d := {}) rfl,
    AuthSettings.readsRecord.fieldD_eq_some_iff (d := {}) rfl,
    PushSettings.readsRecord.fieldD_eq_some_iff (d := {}) rfl,
    MembershipSettings.readsRecord.fieldD_eq_some_iff (d := {}) rfl,
    ConsumerSettings.readsRecord.fieldD_eq_some_iff (d := {}) rfl,
    RedisSettings.readsRecord.field?_eq_some_iff RedisSettings.takes rfl,
    LoggingSettings.readsRecord.fieldD_eq_some_iff (d := {}) rfl, and_assoc]

namespace Settings

/-- The settings that the table of a file writes. -/
def written (file : Toml) : Settings :=
  ofSections (file.member? sections ·)

/-- A text is read exactly if it is TOML of the right shape, as the settings that its table
writes. -/
theorem ofText?_eq_some_iff {text : String} {s : Settings} :
    ofText? text = some s ↔
      ∃ file, Toml.parse? text = some file ∧ IsRecord sections file ∧ s = written file := by
  unfold ofText?
  rw [Option.bind_eq_bind, Option.bind_eq_some_iff]
  refine exists_congr fun file => and_congr_right fun _ => ?_
  rw [readsRecord file s, Option.some.injEq, eq_comm]
  exact Iff.rfl

end Settings

end Courier
