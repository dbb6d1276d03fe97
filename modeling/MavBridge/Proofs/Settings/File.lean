import MavBridge.Proofs.Store.FileSystem
import MavBridge.Proofs.Text.Utf8
import MavBridge.Proofs.Toml.Tables
import MavBridge.Settings.File

/-!
# Files of settings

A file of settings makes the settings that were written.  If sections or keys are deleted from it,
each of the keys that are left keeps its value and each of the others has its default.
-/

namespace MavBridge.Settings

open Toml (Piece Remains keeps lookup? entriesOf asTables written? pieces)

/-- What was written for a key that is kept, and the default for another. -/
def pick {α : Type} (keep : String → String → Bool) (owner key : String) (written missing : α) :
    α :=
  if keep owner key then written else missing

/-- Settings of which only some keys are kept. -/
def restricted (settings : Settings) (keep : String → String → Bool) : Settings where
  serial :=
    let written := settings.serial
    let missing : SerialSettings := {}
    { port := pick keep "serial" "port" written.port missing.port
      baudRate := pick keep "serial" "baudrate" written.baudRate missing.baudRate
      handshakeTimeout :=
        pick keep "serial" "handshake_timeout_ms" written.handshakeTimeout missing.handshakeTimeout
      autoConnect := pick keep "serial" "auto_connect" written.autoConnect missing.autoConnect
      maxFailures :=
        pick keep "serial" "max_consecutive_errors" written.maxFailures missing.maxFailures }
  router := ⟨pick keep "router" "outputs_file" settings.router.outputsFile
    ({} : RouterSettings).outputsFile⟩
  parameters := ⟨pick keep "parameters" "timeout_ms" settings.parameters.timeout
    ({} : ParameterSettings).timeout⟩
  legacy :=
    let missing : LegacySettings := {}
    { enabled := pick keep "legacy" "enabled" settings.legacy.enabled missing.enabled
      bindAddress :=
        pick keep "legacy" "bind_address" settings.legacy.bindAddress missing.bindAddress }
  logging := ⟨pick keep "logging" "level" settings.logging.level ({} : LoggingSettings).level⟩

/-! ## Reading the sections -/

section Reading

open Toml (Entries slots? orDefault text? flag? u32? u64?)

theorem u32?_toNat (number : UInt32) : u32? (.int number.toNat) = some number := by
  have small : number.toNat < 0x100000000 := number.toNat_lt
  have bounds : (0 : Int) ≤ number.toNat ∧ (number.toNat : Int) < (0x100000000 : Nat) := by omega
  rw [u32?, Toml.natural?, if_pos bounds]
  simp

theorem u64?_toNat (number : UInt64) : u64? (.int number.toNat) = some number := by
  have small : number.toNat < 0x10000000000000000 := number.toNat_lt
  have bounds : (0 : Int) ≤ number.toNat ∧
      (number.toNat : Int) < (0x10000000000000000 : Nat) := by omega
  rw [u64?, Toml.natural?, if_pos bounds]
  simp

variable {settings : Settings} {kept : List (String × Entries)} {keep : String → String → Bool}
  (lookups : ∀ owner key, lookup? (entriesOf kept owner) key =
    if keep owner key then lookup? (entriesOf settings.sections owner) key else none)

include lookups

/-- A key that is left is read as it was written, and another has its default. -/
theorem orDefault_lookup? {α : Type} (owner key : String) {read : Toml → Option α} {value : Toml}
    {written : α} (stored : lookup? (entriesOf settings.sections owner) key = some value)
    (reads : read value = some written) (missing : α) :
    orDefault missing read (lookup? (entriesOf kept owner) key) =
      some (pick keep owner key written missing) := by
  rw [lookups, stored, pick]
  cases keep owner key with
  | true => exact reads
  | false => rfl

theorem readSerial?_restricted :
    readSerial? (.table .header (entriesOf kept "serial")) =
      some (settings.restricted keep).serial := by
  have port := orDefault_lookup? lookups "serial" "port" rfl
    (rfl : text? _ = some settings.serial.port)
  have baudRate := orDefault_lookup? lookups "serial" "baudrate" rfl (u32?_toNat _)
  have handshakeTimeout :=
    orDefault_lookup? lookups "serial" "handshake_timeout_ms" rfl (u64?_toNat _)
  have autoConnect := orDefault_lookup? lookups "serial" "auto_connect" rfl
    (rfl : flag? _ = some settings.serial.autoConnect)
  have maxFailures :=
    orDefault_lookup? lookups "serial" "max_consecutive_errors" rfl (u32?_toNat _)
  simp only [readSerial?, slots?, serialKeys, List.map_cons, List.map_nil, Option.bind_eq_bind,
    Option.bind_some, port, baudRate, handshakeTimeout, autoConnect, maxFailures]
  rfl

theorem readRouter?_restricted :
    readRouter? (.table .header (entriesOf kept "router")) =
      some (settings.restricted keep).router := by
  have outputsFile := orDefault_lookup? lookups "router" "outputs_file" rfl
    (rfl : text? _ = some settings.router.outputsFile)
  simp only [readRouter?, slots?, List.map_cons, List.map_nil, Option.bind_eq_bind,
    Option.bind_some, outputsFile]
  rfl

theorem readParameters?_restricted :
    readParameters? (.table .header (entriesOf kept "parameters")) =
      some (settings.restricted keep).parameters := by
  have timeout := orDefault_lookup? lookups "parameters" "timeout_ms" rfl (u64?_toNat _)
  simp only [readParameters?, slots?, List.map_cons, List.map_nil, Option.bind_eq_bind,
    Option.bind_some, timeout]
  rfl

theorem readLegacy?_restricted :
    readLegacy? (.table .header (entriesOf kept "legacy")) =
      some (settings.restricted keep).legacy := by
  have enabled := orDefault_lookup? lookups "legacy" "enabled" rfl
    (rfl : flag? _ = some settings.legacy.enabled)
  have bindAddress := orDefault_lookup? lookups "legacy" "bind_address" rfl
    (rfl : text? _ = some settings.legacy.bindAddress)
  simp only [readLegacy?, slots?, List.map_cons, List.map_nil, Option.bind_eq_bind,
    Option.bind_some, enabled, bindAddress]
  rfl

theorem readLogging?_restricted :
    readLogging? (.table .header (entriesOf kept "logging")) =
      some (settings.restricted keep).logging := by
  have level := orDefault_lookup? lookups "logging" "level" rfl
    (rfl : text? _ = some settings.logging.level)
  simp only [readLogging?, slots?, List.map_cons, List.map_nil, Option.bind_eq_bind,
    Option.bind_some, level]
  rfl

theorem ofEntries?_restricted :
    ofEntries? (asTables kept) = some (settings.restricted keep) := by
  have serial := Toml.orDefault_asTables (rfl : readSerial? _ = some {}) kept "serial"
  have router := Toml.orDefault_asTables (rfl : readRouter? _ = some {}) kept "router"
  have parameters := Toml.orDefault_asTables (rfl : readParameters? _ = some {}) kept "parameters"
  have legacy := Toml.orDefault_asTables (rfl : readLegacy? _ = some {}) kept "legacy"
  have logging := Toml.orDefault_asTables (rfl : readLogging? _ = some {}) kept "logging"
  rw [readSerial?_restricted lookups] at serial
  rw [readRouter?_restricted lookups] at router
  rw [readParameters?_restricted lookups] at parameters
  rw [readLegacy?_restricted lookups] at legacy
  rw [readLogging?_restricted lookups] at logging
  rw [ofEntries?, serial, router, parameters, legacy, logging]
  rfl

end Reading

/-! ## Names and numbers -/

theorem distinct_sections (settings : Settings) : Toml.Distinct settings.sections where
  names := by simp [sections]
  keys := by simp [sections]

theorem bare_sections (settings : Settings) : Toml.Bare settings.sections := by
  simp only [Toml.Bare, sections, Toml.sectionPieces, List.flatMap_cons, List.flatMap_nil,
    List.map_cons, List.map_nil, List.cons_append, List.nil_append, List.forall_mem_cons,
    List.not_mem_nil, false_implies, implies_true, Piece.IsPlain]
  decide +kernel

section Texts

variable (owner key : String)

theorem isSome_text?_str (value : String) :
    (Piece.entry owner key (.str value)).text?.isSome = true := rfl

theorem isSome_text?_bool (value : Bool) :
    (Piece.entry owner key (.bool value)).text?.isSome = true := by
  cases value <;> rfl

theorem isSome_text?_int_iff (number : Nat) :
    (Piece.entry owner key (.int number)).text?.isSome = true ↔ number < 2 ^ 63 := by
  have whole : (Piece.entry owner key (.int number)).text?.isSome =
      (Toml.integer? number).isSome := by
    simp [Piece.text?, Toml.entryLine?, Toml.scalarText?]
  rw [whole, Toml.integer?]
  split
  next bounds => simp only [Option.isSome_some, true_iff]; omega
  next bounds => simp only [Option.isSome_none, Bool.false_eq_true, false_iff]; omega

end Texts

/-- There is a text for all settings but those with a time that does not fit. -/
theorem render?_eq_none_iff (settings : Settings) :
    settings.render? = none ↔ 2 ^ 63 ≤ settings.serial.handshakeTimeout.toNat ∨
      2 ^ 63 ≤ settings.parameters.timeout.toNat := by
  have baudRate : settings.serial.baudRate.toNat < 2 ^ 63 :=
    settings.serial.baudRate.toNat_lt.trans (by decide)
  have maxFailures : settings.serial.maxFailures.toNat < 2 ^ 63 :=
    settings.serial.maxFailures.toNat_lt.trans (by decide)
  have header (name : String) : (Piece.header name).text?.isSome = true := rfl
  have fits : settings.render?.isSome = true ↔
      settings.serial.handshakeTimeout.toNat < 2 ^ 63 ∧
        settings.parameters.timeout.toNat < 2 ^ 63 := by
    rw [render?, Toml.isSome_render?_iff]
    simp only [sections, Toml.sectionPieces, List.flatMap_cons, List.flatMap_nil, List.map_cons,
      List.map_nil, List.cons_append, List.nil_append, List.forall_mem_cons, List.not_mem_nil,
      false_implies, implies_true, header, isSome_text?_str, isSome_text?_bool,
      isSome_text?_int_iff, baudRate, maxFailures, true_and, and_true]
  rw [← Option.not_isSome_iff_eq_none, fits, not_and_or, not_lt, not_lt]

/-! ## Files -/

theorem load_of_read {files : FileSystem} {path : FilePath} {text : List Char}
    (read : files.read path = .ok (Utf8.encode text)) {settings : Settings}
    (made : ofText? text = some settings) : load files path = .ok settings := by
  rw [load, FileSystem.readText_of_read read]
  simp only [made]

/-- Text that is left makes the settings with the keys that are left. -/
theorem ofText?_of_remains {settings : Settings} {rest : List Piece}
    (remains : Remains settings.sections rest) {text : List Char}
    (written : written? rest = some text) :
    ofText? text = some (settings.restricted (keeps rest)) := by
  obtain ⟨kept, parsed, lookups⟩ :=
    remains.parse? (distinct_sections settings) (bare_sections settings) written
  rw [ofText?, parsed]
  exact ofEntries?_restricted lookups

/-- Everything is left of a whole text. -/
theorem restricted_whole (settings : Settings) :
    settings.restricted (keeps (pieces settings.sections)) = settings := by
  rfl

/-- What was saved is what is read. -/
theorem read_of_save {settings : Settings} {path : FilePath} {files after : FileSystem}
    (saved : settings.save path files = (.ok (), after)) :
    ∃ text, settings.render? = some text ∧ after.read path = .ok (Utf8.encode text) := by
  unfold save at saved
  cases rendered : settings.render? with
  | none =>
      rw [rendered] at saved
      cases saved
  | some text =>
      rw [rendered, saveText] at saved
      rcases written : files.write path (Utf8.encode text) with ⟨outcome, replaced⟩
      rw [written] at saved
      cases outcome <;> cases saved
      exact ⟨text, rfl, FileSystem.read_of_write written⟩

/-- What becomes of settings in a file. -/
structure Filed (settings : Settings) (path : FilePath) (files : FileSystem) : Prop where
  /-- What was saved is loaded. -/
  loads : ∀ after, settings.save path files = (.ok (), after) → load after path = .ok settings
  /-- The file that was saved is a row of pieces. -/
  holds : ∀ after, settings.save path files = (.ok (), after) →
    ∃ text, written? (pieces settings.sections) = some text ∧
      after.read path = .ok (Utf8.encode text)
  /-- What is left of it when sections and keys are deleted is loaded key by key. -/
  merges : ∀ after, settings.save path files = (.ok (), after) →
    ∀ rest, Remains settings.sections rest → ∃ left, written? rest = some left ∧
      ∀ (other : FileSystem) (place : FilePath), other.read place = .ok (Utf8.encode left) →
        load other place = .ok (settings.restricted (keeps rest))
  /-- Only numbers that are too great cannot be written. -/
  refused : settings.render? = none ↔ 2 ^ 63 ≤ settings.serial.handshakeTimeout.toNat ∨
    2 ^ 63 ≤ settings.parameters.timeout.toNat
  /-- Settings that cannot be written leave all files as they are. -/
  unchanged : settings.render? = none → settings.save path files = (.error .configWrite, files)

/-- Settings that are saved come back as they were, whatever texts are in them, and what is left of
their file makes settings with the keys that are left; settings that cannot be written change no
file. -/
theorem filed (settings : Settings) (path : FilePath) (files : FileSystem) :
    Filed settings path files := by
  have whole (text : List Char) (rendered : settings.render? = some text) :
      written? (pieces settings.sections) = some text := by
    rw [← Toml.render?_eq_written?]
    exact rendered
  refine ⟨?_, ?_, ?_, render?_eq_none_iff settings, ?_⟩
  · intro after saved
    obtain ⟨text, rendered, read⟩ := read_of_save saved
    have made := ofText?_of_remains (.whole settings.sections) (whole text rendered)
    rw [restricted_whole] at made
    exact load_of_read read made
  · intro after saved
    obtain ⟨text, rendered, read⟩ := read_of_save saved
    exact ⟨text, whole text rendered, read⟩
  · intro after saved rest remains
    obtain ⟨text, rendered, _⟩ := read_of_save saved
    obtain ⟨left, written⟩ := remains.exists_written (whole text rendered)
    refine ⟨left, written, ?_⟩
    intro other place read
    exact load_of_read read (ofText?_of_remains remains written)
  · intro refused
    rw [save, refused, saveText]

/-- Texts that need each of the ways to quote, and the greatest time that can be written. -/
def awkward : Settings where
  serial :=
    { port := "it's a \"port\"\r", baudRate := 57600, handshakeTimeout := 0x7FFFFFFFFFFFFFFF }
  router := ⟨"\n\n'''\"\"\"\\"⟩
  legacy := { bindAddress := "\tC:\\'quoted'" }
  logging := ⟨"\"two\" lines\nof 'text'\n"⟩

/-- Without the section of the router, and without the rate of the link. -/
def pruned : List Piece :=
  (pieces awkward.sections).filter (Piece.isChosen (· != "router") fun _ key => key != "baudrate")

theorem filed_awkward :
    (awkward.save ["setu.toml"] {}).1 = .ok () ∧
      load (awkward.save ["setu.toml"] {}).2 ["setu.toml"] = .ok awkward ∧
      ∃ left, written? pruned = some left ∧
        load ⟨[(["setu.toml"], .file (Utf8.encode left))]⟩ ["setu.toml"] =
          .ok { awkward with
            serial := { awkward.serial with baudRate := 115200 }
            router := {} } := by
  have succeeds : (awkward.save ["setu.toml"] {}).1 = .ok () := by decide +kernel
  have becomes : awkward.restricted (keeps pruned) = { awkward with
      serial := { awkward.serial with baudRate := 115200 }
      router := {} } := by decide +kernel
  have facts := filed awkward ["setu.toml"] {}
  have saved : awkward.save ["setu.toml"] {} = (.ok (), (awkward.save ["setu.toml"] {}).2) :=
    Prod.ext succeeds rfl
  obtain ⟨left, written, loads⟩ := facts.merges _ saved pruned (.chosen _ _ _)
  rw [becomes] at loads
  exact ⟨succeeds, facts.loads _ saved, left, written, loads _ _ rfl⟩

end MavBridge.Settings
