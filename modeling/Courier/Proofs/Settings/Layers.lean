import Courier.Proofs.Dialogue
import Courier.Proofs.Json.Record
import Courier.Settings.Layers

/-!
# What the layers leave of a setting

Settings are loaded by laying the environment and the command line over the configuration file, one
setting after the other. Main statement: what is laid over the settings of a file gives each setting
its value from the highest layer that sets it, unless the environment sets a bad port or a check
fails.
-/

namespace Courier.Settings

open CommandLine (Arguments)
open Dialogue

/-- The lowest layer: the settings of the configuration file, or the defaults without one. -/
def lowest (a : Arguments) : WithFiles (Except SettingsError Settings) := do
  match ← filePath? a.configFile with
  | none => return .ok {}
  | some path => ofFile path

/-- The access to a Redis server under an address from above: all else stays as it is, or takes its
default if there was no access. -/
def redisUnder (url : Option String) (redis : Option RedisSettings) : Option RedisSettings :=
  match url with
  | none => redis
  | some url =>
    let defaults : RedisSettings := {
      url
      poolSize := 10
      minIdle := none
      connectionTimeoutSecs := 5
      commandTimeoutMs := 1000
      idleTimeoutSecs := none }
    some { redis.getD defaults with url }

/-- The level of the log that is wished for by asking for more output so many times. -/
def levelOfWishes : Nat → Option String
  | 0 => none
  | 1 => some "info"
  | 2 => some "debug"
  | _ => some "trace"

/-- Each setting from the command line if that sets it, else from the environment if that does, else
from the lowest layer. -/
def overlaid (low : Settings) (env : Environment) (a : Arguments) : Settings where
  server := {
    host := (a.host <|> env.lookup "PRIVCHAT_PUSH_HOST").getD low.server.host
    port := (a.port <|> env.lookup "PRIVCHAT_PUSH_PORT" >>= Decimal.port?).getD low.server.port }
  auth := { low.auth with
    jwtSecret := (a.jwtSecret <|> env.lookup "PRIVCHAT_PUSH_JWT_SECRET").getD low.auth.jwtSecret
    tokenTtlSecs :=
      (env.lookup "PRIVCHAT_PUSH_TOKEN_TTL_SECS" >>= Decimal.word?).getD low.auth.tokenTtlSecs
    issueSecret := env.lookup "PRIVCHAT_PUSH_ISSUE_SECRET" <|> low.auth.issueSecret }
  push := { low.push with
    mockOffline := a.dev || low.push.mockOffline
    fcm := low.push.fcm.map fun f =>
      { f with accessToken := (env.lookup "PRIVCHAT_PUSH_FCM_ACCESS_TOKEN").getD f.accessToken } }
  membership := { low.membership with
    rpcUrl := (env.lookup "PRIVCHAT_PUSH_MEMBERSHIP_RPC_URL").getD low.membership.rpcUrl }
  consumer := { low.consumer with
    workers := (a.workers <|> env.lookup "PRIVCHAT_PUSH_CONSUMER_WORKERS" >>= Decimal.word?).getD
      low.consumer.workers }
  redis := redisUnder (a.redisUrl <|> env.lookup "REDIS_URL") low.redis
  logging := {
    level := (if a.quiet then some "error" else none) <|> (if a.dev then some "debug" else none) <|>
      a.logLevel <|> levelOfWishes a.verbose <|> env.lookup "PRIVCHAT_PUSH_LOG_LEVEL" <|>
      low.logging.level
    format := (if a.dev then some "pretty" else none) <|> a.logFormat <|> low.logging.format
    file := a.logFile <|> low.logging.file }

/-- Whether the environment sets the port to a text that is no port number. -/
def SetsBadPort (env : Environment) (text : String) : Prop :=
  env.lookup "PRIVCHAT_PUSH_PORT" = some text ∧ Decimal.port? text = none

variable {env : Environment} {a : Arguments} {file s : Settings}

theorem load_eq (env : Environment) (a : Arguments) :
    load env a = lowest a >>= fun file => pure (file >>= fun file => layered file env a) := by
  rw [lowest, bind_assoc]
  refine congrArg (filePath? a.configFile >>= ·) (funext fun path => ?_)
  cases path <;> rfl

/-- Settings are loaded if there is a lowest layer over which the others can be laid. -/
theorem leads_load_iff {files : List (Exchange FileQuestion.Answer)} :
    Leads (load env a) files (.done (.ok s)) ↔
      ∃ file, Leads (lowest a) files (.done (.ok file)) ∧ layered file env a = .ok s := by
  rw [load_eq, leads_bind_pure_iff]
  constructor
  · rintro ⟨result, hl, hs⟩
    obtain ⟨file, rfl, hf⟩ := Json.bind_eq_ok_iff.1 hs.symm
    exact ⟨file, hl, hf⟩
  · rintro ⟨file, hl, hf⟩
    exact ⟨_, hl, hf.symm⟩

/-! ### One setting -/

/-- A layer sets a setting to its value, or else to the one that is there. -/
theorem given_eq {α : Type} (set : Settings → α → Settings) (get : Settings → α)
    (same : ∀ s, set s (get s) = s) (value : Option α) (s : Settings) :
    given value set s = set s (value.getD (get s)) := by
  cases value with
  | none => exact (same s).symm
  | some x => rfl

/-- The same of a setting that may be left out. -/
theorem given_some_eq {α : Type} (set : Settings → Option α → Settings)
    (get : Settings → Option α) (same : ∀ s, set s (get s) = s) (value : Option α) (s : Settings) :
    given value (fun s x => set s (some x)) s = set s (value <|> get s) := by
  cases value with
  | none => exact (same s).symm
  | some x => rfl

theorem given_withRedisUrl (url : Option String) (s : Settings) :
    given url withRedisUrl s = { s with redis := redisUnder url s.redis } := by
  cases url with
  | none => rfl
  | some url =>
      simp only [given, withRedisUrl]
      cases s.redis <;> rfl

theorem given_fcm (token : Option String) (s : Settings) :
    given token (fun s token => { s with push := { s.push with
        fcm := s.push.fcm.map fun f => { f with accessToken := token } } }) s =
      { s with push := { s.push with
        fcm := s.push.fcm.map fun f => { f with accessToken := token.getD f.accessToken } } } := by
  cases token with
  | none => simp [given]
  | some token => rfl

theorem getD_orElse {α : Type} (x y : Option α) (d : α) :
    (x <|> y).getD d = x.getD (y.getD d) := by
  cases x <;> rfl

/-- Of the options that set the level of the log, the first that is given counts. -/
theorem effectiveLevel_orElse (a : Arguments) (level : Option String) :
    (a.effectiveLevel <|> level) =
      ((if a.quiet then some "error" else none) <|> (if a.dev then some "debug" else none) <|>
        a.logLevel <|> levelOfWishes a.verbose <|> level) := by
  unfold Arguments.effectiveLevel
  cases a.quiet <;> cases a.dev <;> cases a.logLevel <;>
    rcases a.verbose with _ | _ | _ | n <;> rfl

theorem effectiveFormat_orElse (a : Arguments) (format : Option String) :
    (a.effectiveFormat <|> format) =
      ((if a.dev then some "pretty" else none) <|> a.logFormat <|> format) := by
  unfold Arguments.effectiveFormat
  cases a.dev <;> cases a.logFormat <;> rfl

theorem redisUnder_redisUnder (upper lower : Option String) (redis : Option RedisSettings) :
    redisUnder upper (redisUnder lower redis) = redisUnder (upper <|> lower) redis := by
  cases upper <;> cases lower <;> cases redis <;> rfl

/-! ### All layers -/

theorem portOf_eq_ok_iff {port : Option UInt16} :
    portOf env = .ok port ↔ (∀ text, ¬ SetsBadPort env text) ∧
      port = env.lookup "PRIVCHAT_PUSH_PORT" >>= Decimal.port? := by
  unfold portOf SetsBadPort
  cases env.lookup "PRIVCHAT_PUSH_PORT" with
  | none => simp [eq_comm]
  | some text => cases hp : Decimal.port? text <;> simp [hp, eq_comm]

theorem portOf_eq_error_iff {e : SettingsError} :
    portOf env = .error e ↔ ∃ text, SetsBadPort env text ∧ e = .badPort text := by
  unfold portOf SetsBadPort
  cases env.lookup "PRIVCHAT_PUSH_PORT" with
  | none => simp
  | some text =>
      simp only [Option.some.injEq, and_assoc, exists_eq_left']
      cases hp : Decimal.port? text <;> simp [eq_comm]

/-- The two upper layers, laid over one setting after the other, leave each from the highest. -/
theorem withArguments_eq_overlaid (h : file.withEnvironment env = .ok s) :
    s.withArguments a = overlaid file env a := by
  obtain ⟨port, hp, h⟩ := Json.bind_eq_ok_iff.1 h
  obtain ⟨-, rfl⟩ := portOf_eq_ok_iff.1 hp
  cases h
  simp only [withArguments, given_withRedisUrl, given_fcm,
    given_eq (fun s host => { s with server := { s.server with host } }) (·.server.host)
      fun _ => rfl,
    given_eq (fun s port => { s with server := { s.server with port } }) (·.server.port)
      fun _ => rfl,
    given_eq (fun s secret => { s with auth := { s.auth with jwtSecret := secret } })
      (·.auth.jwtSecret) fun _ => rfl,
    given_eq (fun s n => { s with auth := { s.auth with tokenTtlSecs := n } })
      (·.auth.tokenTtlSecs) fun _ => rfl,
    given_some_eq (fun s secret => { s with auth := { s.auth with issueSecret := secret } })
      (·.auth.issueSecret) fun _ => rfl,
    given_eq (fun s url => { s with membership := { s.membership with rpcUrl := url } })
      (·.membership.rpcUrl) fun _ => rfl,
    given_eq (fun s n => { s with consumer := { s.consumer with workers := n } })
      (·.consumer.workers) fun _ => rfl,
    given_some_eq (fun s level => { s with logging := { s.logging with level } })
      (·.logging.level) fun _ => rfl,
    given_some_eq (fun s format => { s with logging := { s.logging with format } })
      (·.logging.format) fun _ => rfl,
    given_some_eq (fun s file => { s with logging := { s.logging with file } })
      (·.logging.file) fun _ => rfl]
  simp only [overlaid, getD_orElse, redisUnder_redisUnder, wordOf, effectiveLevel_orElse,
    effectiveFormat_orElse]
  cases a.dev <;> rfl

theorem layered_eq (file : Settings) (env : Environment) (a : Arguments) :
    layered file env a = portOf env >>= fun _ => checked (overlaid file env a) := by
  unfold layered
  cases hp : portOf env with
  | error e =>
      have he : file.withEnvironment env = .error e := by
        rw [withEnvironment, hp]
        rfl
      rw [he]
      rfl
  | ok port =>
      obtain ⟨s, hs⟩ : ∃ s, file.withEnvironment env = .ok s := by
        rw [withEnvironment, hp]
        exact ⟨_, rfl⟩
      rw [hs]
      exact congrArg checked (withArguments_eq_overlaid hs)

theorem checked_eq_ok_iff : checked file = .ok s ↔ s = file ∧ file.fault? = none := by
  unfold checked
  cases file.fault? <;> simp [eq_comm]

theorem checked_eq_error_iff {e : SettingsError} :
    checked file = .error e ↔ ∃ fault, file.fault? = some fault ∧ e = .refused fault := by
  unfold checked
  cases file.fault? <;> simp [eq_comm]

/-- The layers give settings unless the environment sets a bad port or a check fails, and then each
setting is from the highest layer that sets it. -/
theorem layered_eq_ok_iff :
    layered file env a = .ok s ↔ (∀ text, ¬ SetsBadPort env text) ∧
      (overlaid file env a).fault? = none ∧ s = overlaid file env a := by
  rw [layered_eq, Json.bind_eq_ok_iff]
  constructor
  · rintro ⟨port, hp, h⟩
    obtain ⟨rfl, hf⟩ := checked_eq_ok_iff.1 h
    exact ⟨(portOf_eq_ok_iff.1 hp).1, hf, rfl⟩
  · rintro ⟨hp, hf, rfl⟩
    exact ⟨_, portOf_eq_ok_iff.2 ⟨hp, rfl⟩, checked_eq_ok_iff.2 ⟨rfl, hf⟩⟩

/-- A bad port is noticed before a check fails. -/
theorem layered_eq_error_iff {e : SettingsError} :
    layered file env a = .error e ↔ (∃ text, SetsBadPort env text ∧ e = .badPort text) ∨
      (∀ text, ¬ SetsBadPort env text) ∧
        ∃ fault, (overlaid file env a).fault? = some fault ∧ e = .refused fault := by
  rw [layered_eq, Json.bind_eq_error_iff, portOf_eq_error_iff]
  simp only [portOf_eq_ok_iff, checked_eq_error_iff]
  constructor
  · rintro (h | ⟨port, ⟨hp, -⟩, h⟩)
    · exact .inl h
    · exact .inr ⟨hp, h⟩
  · rintro (h | ⟨hp, h⟩)
    · exact .inl h
    · exact .inr ⟨_, ⟨hp, rfl⟩, h⟩

theorem issueSecret_of_layered (h : layered file env a = .ok s) :
    s.auth.issueSecret = (env.lookup "PRIVCHAT_PUSH_ISSUE_SECRET" <|> file.auth.issueSecret) := by
  obtain ⟨-, -, rfl⟩ := layered_eq_ok_iff.1 h
  rfl

end Courier.Settings
