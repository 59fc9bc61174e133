import Courier.Proofs.Settings.Load

/-!
# The log that is started

The log is started before the settings are loaded, after a first look at the configuration file that
leaves out the environment. Main statement: if that file stays as it is, the log has the format and
the file of the settings that are loaded then, and their level unless the environment sets another
one and the command line none.
-/

namespace Courier

open CommandLine (Arguments)
open Dialogue
open Settings (Found Writes search chosenPath loaded overlaid written sections)
open Toml (IsRecord fieldD)

/-! ### One section of a file -/

theorem Toml.exists_table_of_parse? {text : String} {file : Toml}
    (h : Toml.parse? text = some file) : ∃ members, file = .table members := by
  simp only [parse?, Option.bind_eq_bind, Option.bind_eq_some_iff] at h
  obtain ⟨draft, -, ⟨_, _, members⟩, -, hf⟩ := h
  rw [Section.toToml] at hf
  exact ⟨_, (Option.some.inj hf).symm⟩

/-- The section on the log is read alone as it is read with the others. -/
theorem LoggingSettings.ofText?_eq {text : String} {file : Toml}
    (hp : Toml.parse? text = some file) (hs : IsRecord sections file) :
    LoggingSettings.ofText? text = some (written file).logging := by
  -- only an array would give the fields of both readers by place
  obtain ⟨members, rfl⟩ := Toml.exists_table_of_parse? hp
  obtain ⟨-, fits⟩ := hs
  have alone : LoggingSettings.ofText? text = fieldD members "logging" LoggingSettings.read {} := by
    rw [LoggingSettings.ofText?, hp]
    rfl
  rw [alone, LoggingSettings.readsRecord.fieldD_eq_some_iff (d := {}) rfl]
  exact ⟨fits _ (by simp [sections]), rfl⟩

/-! ### Fixed answers -/

/-- Whether answers can be those of files: what can be read is there. -/
def AreOfFiles (answer : (q : FileQuestion) → q.Answer) : Prop :=
  ∀ path text, answer (.read path) = Except.ok text → answer (.exists path) = true

section Fixed

variable {answer : (q : FileQuestion) → q.Answer} {env : Environment} {a : Arguments}
  {s : Settings} {file : Toml} {found : Found} {text : String}

namespace Settings

/-- Under fixed answers settings are loaded from what these say of the chosen file. -/
theorem exists_found (answer : (q : FileQuestion) → q.Answer) (env : Environment)
    (a : Arguments) :
    ∃ found, (∀ x ∈ search (chosenPath a) found, x.2 = answer x.1) ∧
      (load env a).result answer = loaded env a found := by
  obtain ⟨found, ht, hr⟩ := leads_load_done_iff.1 (leads_result answer (load env a))
  refine ⟨found, fun x hx => ?_, hr⟩
  rw [← ht] at hx
  obtain ⟨q, -, rfl⟩ := List.mem_map.1 hx
  rfl

/-- A text that can be read is what is found. -/
theorem found_eq_of_read {path : String} (there : AreOfFiles answer)
    (hf : ∀ x ∈ search path found, x.2 = answer x.1)
    (h : answer (.read path) = Except.ok text) : found = some (.ok text) := by
  cases found with
  | none =>
      have absent : false = answer (.exists path) := hf _ (List.mem_singleton_self _)
      rw [there _ _ h] at absent
      cases absent
  | some content =>
      have read : content = answer (.read path) := hf ⟨.read path, content⟩ (by simp [search])
      rw [read, h]

theorem result_load_of_read (there : AreOfFiles answer)
    (h : answer (.read (chosenPath a)) = Except.ok text) :
    (load env a).result answer = loaded env a (some (.ok text)) := by
  obtain ⟨found, hf, hr⟩ := exists_found answer env a
  rw [hr, found_eq_of_read there hf h]

end Settings

namespace LoggingSettings

theorem result_early_eq :
    (early a.configFile).result answer =
      match (answer (.read (chosenPath a)) : Except FileError String) with
      | .error _ => {}
      | .ok text => (ofText? text).getD {} := by
  have look : (WithFiles.read (a.configFile.getD CommandLine.defaultPath)).result answer =
    answer (.read (chosenPath a)) := rfl
  rw [early, result_bind, look]
  cases (answer (.read (chosenPath a)) : Except FileError String) <;> rfl

theorem result_early_of_read (h : answer (.read (chosenPath a)) = Except.ok text) :
    (early a.configFile).result answer = (ofText? text).getD {} := by
  rw [result_early_eq, h]

/-- The first look gives what the file writes. -/
theorem result_early (there : AreOfFiles answer)
    (hf : ∀ x ∈ search (chosenPath a) found, x.2 = answer x.1) (hw : Writes found file) :
    (early a.configFile).result answer = (written file).logging := by
  cases hw with
  | nothing =>
      rw [result_early_eq]
      split
      · rfl
      · cases Settings.found_eq_of_read there hf ‹_›
  | @text text file hp hs =>
      have read : Except.ok text = answer (.read (chosenPath a)) :=
        hf ⟨.read (chosenPath a), .ok text⟩ (by simp [search])
      rw [result_early_of_read read.symm, ofText?_eq hp hs]
      rfl

/-- The log is started with the format and the file that are loaded later, if the configuration file
stays as it was. It is started with the level that is loaded exactly if the command line sets one,
or the environment sets none or the same. -/
theorem started_like_loaded {before after : (q : FileQuestion) → q.Answer}
    (there : AreOfFiles after) (same : before (.read (chosenPath a)) = after (.read (chosenPath a)))
    (hl : (Settings.load env a).result after = .ok s) :
    let log := ((early a.configFile).result before).started a
    log.format = s.logging.format ∧ log.file = s.logging.file ∧
      (log.level = some (s.logging.level.getD "info") ↔
        (a.effectiveLevel = none → ∀ level,
          env.lookup "PRIVCHAT_PUSH_LOG_LEVEL" = some level → log.level = some level)) := by
  intro log
  obtain ⟨found, hf, hr⟩ := Settings.exists_found after env a
  rw [hl, eq_comm, Settings.loaded_eq_ok_iff] at hr
  obtain ⟨-, file, hw, rfl⟩ := hr
  have look : (early a.configFile).result before = (early a.configFile).result after := by
    rw [result_early_eq, result_early_eq, same]
  have hlog : log = (written file).logging.started a :=
    congrArg (·.started a) (look.trans (result_early there hf hw))
  rw [hlog]
  refine ⟨Settings.effectiveFormat_orElse a _, rfl, ?_⟩
  simp only [started, overlaid, ← Settings.effectiveLevel_orElse]
  cases a.effectiveLevel <;> cases env.lookup "PRIVCHAT_PUSH_LOG_LEVEL" <;> simp

end LoggingSettings

end Fixed

/-! ### A directory that stays as it is -/

namespace Directory

variable {d : Directory} {path text : String}

/-- What a directory answers as long as it stays as it is. -/
def told (d : Directory) (q : FileQuestion) : q.Answer :=
  (answer q d).1

theorem read_eq_ok_iff :
    d.read path = .ok text ↔ ∃ place, d.find path = .ok place ∧ d.isDirectory place = false ∧
      d.file? place = some text ∧ FilePath.wantsDirectory path = false := by
  rw [read, Json.bind_eq_ok_iff]
  refine exists_congr fun place => and_congr_right fun _ => ?_
  cases d.isDirectory place <;> cases d.file? place <;> cases FilePath.wantsDirectory path <;>
    simp [throw, throwThe, MonadExceptOf.throw, pure, Except.pure, Bind.bind, Except.bind]

theorem areOfFiles (d : Directory) : AreOfFiles d.told := by
  intro path text h
  obtain ⟨place, hp, -, hf, -⟩ := read_eq_ok_iff.1 h
  simp only [told, answer, hp, hf, Option.isSome_some, Bool.or_true]
  rfl

/-- The directory that holds a configuration file under its default name. -/
def ofFile (text : String) : Directory where
  files := [(["config.toml"], text)]
  directories := []

theorem find_config (d : Directory) : d.find "config.toml" = .ok ["config.toml"] := by
  have plain : "config.toml".contains '\x00' = false := by simp
  have relative : "config.toml".startsWith "/" = false := by decide +kernel
  have parts : (FilePath.parts "config.toml").filter (· ≠ "") = ["config.toml"] := by
    decide +kernel
  rw [find, plain, relative, parts]
  simp [walk, walk.enter]

theorem told_read_ofFile : (ofFile text).told (.read "config.toml") = Except.ok text :=
  read_eq_ok_iff.2 ⟨_, find_config _, rfl, rfl, by decide +kernel⟩

end Directory

namespace LoggingSettings

/-- A level on the command line is the one that runs and the one that is loaded, whatever the
environment and the file set. -/
theorem started_like_loaded_of_argument :
    let files := (Directory.ofFile "[logging]\nlevel = \"warn\"\nformat = \"json\"\n").told
    let env : Environment := [("PRIVCHAT_PUSH_LOG_LEVEL", "debug")]
    let a : Arguments := { logLevel := some "trace" }
    let log := ((early a.configFile).result files).started a
    (Settings.load env a).result files =
        .ok { logging := { level := some "trace", format := some "json" } } ∧
      log.format = some "json" ∧ log.file = none ∧ log.level = some "trace" := by
  intro files env a log
  have hl : (Settings.load env a).result files =
      .ok { logging := { level := some "trace", format := some "json" } } := by
    rw [Settings.result_load_of_read (Directory.areOfFiles _) Directory.told_read_ofFile]
    exact Json.toOption_eq_some_iff.1 (by decide +kernel)
  obtain ⟨hformat, hfile, hlevel⟩ := started_like_loaded (Directory.areOfFiles _) rfl hl
  exact ⟨hl, hformat, hfile, hlevel.2 fun unset => by cases unset⟩

/-- A level that the environment sets over the one of the file is loaded, but the log runs without
it. -/
theorem started_unlike_loaded :
    let files := (Directory.ofFile "[logging]\nlevel = \"warn\"\n").told
    let env : Environment := [("PRIVCHAT_PUSH_LOG_LEVEL", "debug")]
    let a : Arguments := {}
    let log := ((early a.configFile).result files).started a
    ∃ s, (Settings.load env a).result files = .ok s ∧ s.logging.level = some "debug" ∧
      log.level = some "warn" ∧ log.level ≠ some (s.logging.level.getD "info") := by
  intro files env a log
  have hlog : log.level = some "warn" := by
    have look : (early a.configFile).result files = { level := some "warn" } :=
      (result_early_of_read Directory.told_read_ofFile).trans (by decide +kernel)
    exact congrArg (fun early => (early.started a).level) look
  refine ⟨{ logging := { level := some "debug" } }, ?_, rfl, hlog, ?_⟩
  · rw [Settings.result_load_of_read (Directory.areOfFiles _) Directory.told_read_ofFile]
    exact Json.toOption_eq_some_iff.1 (by decide +kernel)
  · rw [hlog]
    decide

end LoggingSettings

end Courier
