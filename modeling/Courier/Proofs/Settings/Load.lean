import Courier.Proofs.Settings.File
import Courier.Proofs.Settings.Layers
import Courier.Proofs.Text.Decimal

/-!
# Settings that are loaded

Loading looks for the configuration file, reads it if it is there, and lays the environment and the
command line over it. Main statement: loading fails for one of four causes and for no other, and
without one it gives every setting the value of the highest layer that sets it.
-/

namespace Courier.Settings

open CommandLine (Arguments)
open Dialogue
open Toml (IsRecord Reads readText readBool readPort readSmall readWord readList reads_text reads_bool
  reads_port reads_small reads_word reads_texts)

/-- What is found where the configuration file should be: nothing, or its text unless it cannot be
read. -/
abbrev Found := Option (Except FileError String)

/-- The talk in which that is found. -/
def search (path : String) : Found → List (Exchange FileQuestion.Answer)
  | none => [⟨.exists path, false⟩]
  | some content => [⟨.exists path, true⟩, ⟨.read path, content⟩]

/-- Whether a table is what is found: the one of a text of the right shape, or the empty one where
nothing is. -/
inductive Writes : Found → Toml → Prop where
  | nothing : Writes none (.table [])
  | text {text : String} {file : Toml} : Toml.parse? text = some file → IsRecord sections file →
      Writes (some (.ok text)) file

/-- The configuration file that arguments choose. -/
def chosenPath (a : Arguments) : String := a.configFile.getD "config.toml"

/-- Whether settings have a fault. -/
def HasFault (s : Settings) : SettingsFault → Prop
  | .emptyJwtSecret => s.auth.jwtSecret = ""
  | .zeroTokenTtl => s.auth.tokenTtlSecs = 0
  | .zeroWorkers => s.consumer.workers = 0
  | .zeroConcurrency => s.push.maxConcurrentDeliveries = 0
  | .zeroStaleness => s.membership.maxStalenessSecs = 0

/-- All faults, in the order in which they are looked for. -/
def faults : List SettingsFault :=
  [.emptyJwtSecret, .zeroTokenTtl, .zeroWorkers, .zeroConcurrency, .zeroStaleness]

/-- Whether a fault is the first that settings have. -/
def HasFaultFirst (s : Settings) (fault : SettingsFault) : Prop :=
  s.HasFault fault ∧
    ∃ before after, faults = before ++ fault :: after ∧ ∀ other ∈ before, ¬ s.HasFault other

/-- Why no settings can be loaded: the chosen file cannot be read, its text is not TOML or has not
the right shape, the environment sets a bad port, or the settings that are laid over one another
have a fault. -/
inductive IsHindered (env : Environment) (a : Arguments) (found : Found) :
    SettingsError → Prop where
  | unreadable {cause : FileError} :
      found = some (.error cause) → IsHindered env a found (.unreadable (chosenPath a) cause)
  | malformed {text : String} :
      found = some (.ok text) → (∀ file, ¬ Writes found file) → IsHindered env a found .malformed
  | badPort {file : Toml} {text : String} :
      Writes found file → SetsBadPort env text → IsHindered env a found (.badPort text)
  | refused {file : Toml} {fault : SettingsFault} :
      Writes found file → (∀ text, ¬ SetsBadPort env text) →
      (overlaid (written file) env a).HasFaultFirst fault → IsHindered env a found (.refused fault)

/-- The lowest layer, as it follows from what is found. -/
def fromFound (path : String) : Found → Except SettingsError Settings
  | none => .ok {}
  | some (.error cause) => .error (.unreadable path cause)
  | some (.ok text) => ofText text

variable {env : Environment} {a : Arguments} {found : Found} {path : String} {low s : Settings}
  {talk : List (Exchange FileQuestion.Answer)}

/-! ### What is found -/

theorem writes_text_iff {text : String} {file : Toml} :
    Writes (some (.ok text)) file ↔ Toml.parse? text = some file ∧ IsRecord sections file := by
  constructor
  · intro h
    cases h with
    | text hp hs => exact ⟨hp, hs⟩
  · rintro ⟨hp, hs⟩
    exact .text hp hs

theorem ofText?_eq_some_iff_writes {text : String} :
    ofText? text = some low ↔ ∃ file, Writes (some (.ok text)) file ∧ low = written file := by
  simp only [ofText?_eq_some_iff, writes_text_iff, and_assoc]

theorem Writes.unique {file other : Toml} (h : Writes found file) (ho : Writes found other) :
    file = other := by
  cases h with
  | nothing =>
      cases ho
      rfl
  | text hp _ =>
      cases ho with
      | text hq _ => exact Option.some.inj (hp.symm.trans hq)

theorem fromFound_eq_ok_iff :
    fromFound path found = .ok low ↔ ∃ file, Writes found file ∧ low = written file := by
  rcases found with _ | cause | text
  · constructor
    · intro h
      cases h
      exact ⟨.table [], .nothing, rfl⟩
    · rintro ⟨file, h, rfl⟩
      cases h
      rfl
  · constructor
    · intro h
      cases h
    · rintro ⟨file, h, -⟩
      cases h
  · rw [← ofText?_eq_some_iff_writes, fromFound, ofText]
    cases ofText? text <;> simp

theorem fromFound_eq_error_iff {e : SettingsError} :
    fromFound path found = .error e ↔
      (∃ cause, found = some (.error cause) ∧ e = .unreadable path cause) ∨
        ∃ text, found = some (.ok text) ∧ (∀ file, ¬ Writes found file) ∧ e = .malformed := by
  rcases found with _ | cause | text
  · simp [fromFound]
  · simp [fromFound, eq_comm]
  · cases ht : ofText? text with
    | none =>
        have unwritten : ∀ file, ¬ Writes (some (.ok text)) file := fun file hw => by
          simp [ofText?_eq_some_iff_writes.2 ⟨file, hw, rfl⟩] at ht
        simp [fromFound, ofText, ht, unwritten, eq_comm]
    | some low =>
        obtain ⟨file, hw, -⟩ := ofText?_eq_some_iff_writes.1 ht
        have left : ¬ ∀ file, ¬ Writes (some (.ok text)) file := fun h => h file hw
        simp [fromFound, ofText, ht, left]

theorem fault?_eq_some_iff {fault : SettingsFault} :
    s.fault? = some fault ↔ s.HasFaultFirst fault := by
  classical
  have first : s.fault? = faults.find? fun fault => decide (s.HasFault fault) := by
    unfold fault?
    simp only [faults, List.find?, HasFault]
    grind
  rw [first, List.find?_eq_some_iff_append]
  simp [HasFaultFirst]

/-! ### What is asked -/

theorem ofFile_eq (path : String) :
    ofFile path = WithFiles.read path >>= fun content => pure (fromFound path (some content)) := by
  refine congrArg (WithFiles.read path >>= ·) (funext fun content => ?_)
  cases content <;> rfl

theorem leads_ofFile_iff {r : Except SettingsError Settings} :
    Leads (ofFile path) talk (.done r) ↔
      ∃ content, talk = [⟨.read path, content⟩] ∧ r = fromFound path (some content) := by
  rw [ofFile_eq, leads_bind_pure_iff]
  exact exists_congr fun content => and_congr_left fun _ => leads_question_iff

/-- A file is read exactly if something is there. -/
theorem leads_lowest_iff {r : Except SettingsError Settings} :
    Leads (lowest a) talk (.done r) ↔
      ∃ found, talk = search (chosenPath a) found ∧ r = fromFound (chosenPath a) found := by
  refine Iff.trans leads_ask_done_iff ?_
  constructor
  · rintro ⟨isThere, tail, rfl, h⟩
    cases (isThere : Bool) with
    | false =>
        obtain ⟨rfl, rfl⟩ := leads_done_done_iff.1 h
        exact ⟨none, rfl, rfl⟩
    | true =>
        obtain ⟨content, rfl, rfl⟩ := leads_ofFile_iff.1 h
        exact ⟨some content, rfl, rfl⟩
  · rintro ⟨found, rfl, rfl⟩
    cases found with
    | none => exact ⟨false, [], rfl, .nil _⟩
    | some content => exact ⟨true, _, rfl, leads_ofFile_iff.2 ⟨content, rfl, rfl⟩⟩

/-! ### What is made of it -/

/-- The settings, as they follow from what is found. -/
def loaded (env : Environment) (a : Arguments) (found : Found) : Except SettingsError Settings :=
  fromFound (chosenPath a) found >>= fun low => layered low env a

theorem leads_load_done_iff {r : Except SettingsError Settings} :
    Leads (load env a) talk (.done r) ↔
      ∃ found, talk = search (chosenPath a) found ∧ r = loaded env a found := by
  rw [load_eq, leads_bind_pure_iff]
  simp only [leads_lowest_iff, loaded]
  constructor
  · rintro ⟨_, ⟨found, rfl, rfl⟩, rfl⟩
    exact ⟨found, rfl, rfl⟩
  · rintro ⟨found, rfl, rfl⟩
    exact ⟨_, ⟨found, rfl, rfl⟩, rfl⟩

/-- Loading fails exactly for the causes that hinder it. -/
theorem loaded_eq_error_iff {e : SettingsError} :
    loaded env a found = .error e ↔ IsHindered env a found e := by
  unfold loaded
  rw [Json.bind_eq_error_iff]
  constructor
  · rintro (h | ⟨low, hl, h⟩)
    · rcases fromFound_eq_error_iff.1 h with ⟨cause, rfl, rfl⟩ | ⟨text, rfl, hw, rfl⟩
      · exact .unreadable rfl
      · exact .malformed rfl hw
    · obtain ⟨file, hw, rfl⟩ := fromFound_eq_ok_iff.1 hl
      rcases layered_eq_error_iff.1 h with ⟨text, hb, rfl⟩ | ⟨hb, fault, hf, rfl⟩
      · exact .badPort hw hb
      · exact .refused hw hb (fault?_eq_some_iff.1 hf)
  · intro h
    cases h with
    | unreadable hf => exact .inl (fromFound_eq_error_iff.2 (.inl ⟨_, hf, rfl⟩))
    | malformed hf hw => exact .inl (fromFound_eq_error_iff.2 (.inr ⟨_, hf, hw, rfl⟩))
    | badPort hw hb =>
        exact .inr ⟨_, fromFound_eq_ok_iff.2 ⟨_, hw, rfl⟩,
          layered_eq_error_iff.2 (.inl ⟨_, hb, rfl⟩)⟩
    | refused hw hb hf =>
        exact .inr ⟨_, fromFound_eq_ok_iff.2 ⟨_, hw, rfl⟩,
          layered_eq_error_iff.2 (.inr ⟨hb, _, fault?_eq_some_iff.2 hf, rfl⟩)⟩

/-- Settings that are loaded are those of the file with the upper layers over them. -/
theorem loaded_eq_ok_iff :
    loaded env a found = .ok s ↔ (∀ e, ¬ IsHindered env a found e) ∧
      ∃ file, Writes found file ∧ s = overlaid (written file) env a := by
  constructor
  · intro h
    refine ⟨fun e he => ?_, ?_⟩
    · rw [loaded_eq_error_iff.2 he] at h
      cases h
    · obtain ⟨low, hl, h⟩ := Json.bind_eq_ok_iff.1 h
      obtain ⟨file, hw, rfl⟩ := fromFound_eq_ok_iff.1 hl
      exact ⟨file, hw, (layered_eq_ok_iff.1 h).2.2⟩
  · rintro ⟨free, file, hw, rfl⟩
    cases hr : loaded env a found with
    | error e => exact absurd (loaded_eq_error_iff.1 hr) (free e)
    | ok s =>
        obtain ⟨low, hl, h⟩ := Json.bind_eq_ok_iff.1 hr
        obtain ⟨other, ho, rfl⟩ := fromFound_eq_ok_iff.1 hl
        rw [(layered_eq_ok_iff.1 h).2.2, hw.unique ho]

/-- Loading asks for the chosen file and, if it is there, for its text. It fails exactly if the file
cannot be read or does not have the right shape, the environment sets a bad port, or the settings
together have a fault. Without such a cause it gives each setting the value of the highest layer
that sets it. A port or a count in the environment is what a numeral says, and no other text sets
one; a setting in the file is what is written there. -/
theorem loaded_from_highest {r : Except SettingsError Settings} :
    (Leads (load env a) talk (.done r) ↔
      ∃ found, talk = search (chosenPath a) found ∧
        ((∃ e, IsHindered env a found e ∧ r = .error e) ∨
          (∀ e, ¬ IsHindered env a found e) ∧
            ∃ file, Writes found file ∧ r = .ok (overlaid (written file) env a))) ∧
      (∀ text port, Decimal.port? text = some port ↔ Decimal.IsNumeral port.toNat text) ∧
      (∀ text count, Decimal.word? text = some count ↔ Decimal.IsNumeral count.toNat text) ∧
      Reads readText .text ∧ Reads readBool .bool ∧ (Reads readPort fun n => .integer n.toNat) ∧
      (Reads readSmall fun n => .integer n.toNat) ∧ (Reads readWord fun n => .integer n.toNat) ∧
      Reads (readList readText) fun texts => .array (texts.map .text) := by
  refine ⟨?_, fun _ _ => Decimal.port?_eq_some_iff, fun _ _ => Decimal.word?_eq_some_iff,
    reads_text, reads_bool, reads_port, reads_small, reads_word, reads_texts⟩
  rw [leads_load_done_iff]
  refine exists_congr fun found => and_congr_right fun _ => ?_
  rw [eq_comm]
  cases r with
  | error e =>
      rw [loaded_eq_error_iff]
      simp
  | ok s =>
      rw [loaded_eq_ok_iff]
      simp

end Courier.Settings
