import MavBridge.Fault
import MavBridge.Settings.Basic
import MavBridge.Store.FileSystem
import MavBridge.Text.Utf8
import MavBridge.Toml.Document
import MavBridge.Toml.Record

/-!
Settings in a TOML file.

A file needs only the keys that it changes; tables and keys that are not known are passed over. A
section may also be an array of its values in order.
-/

namespace MavBridge.Settings

/-! ## Reading -/

open Toml (slots? orDefault)

def serialKeys : List String :=
  ["port", "baudrate", "handshake_timeout_ms", "auto_connect", "max_consecutive_errors"]

def readSerial? (value : Toml) : Option SerialSettings := do
  match ← slots? serialKeys value with
  | [port, baudRate, handshakeTimeout, autoConnect, maxFailures] =>
      let missing : SerialSettings := {}
      return {
        port := ← orDefault missing.port Toml.text? port
        baudRate := ← orDefault missing.baudRate Toml.u32? baudRate
        handshakeTimeout := ← orDefault missing.handshakeTimeout Toml.u64? handshakeTimeout
        autoConnect := ← orDefault missing.autoConnect Toml.flag? autoConnect
        maxFailures := ← orDefault missing.maxFailures Toml.u32? maxFailures }
  | _ => none

def readRouter? (value : Toml) : Option RouterSettings := do
  match ← slots? ["outputs_file"] value with
  | [outputsFile] => return ⟨← orDefault ({} : RouterSettings).outputsFile Toml.text? outputsFile⟩
  | _ => none

def readParameters? (value : Toml) : Option ParameterSettings := do
  match ← slots? ["timeout_ms"] value with
  | [timeout] => return ⟨← orDefault ({} : ParameterSettings).timeout Toml.u64? timeout⟩
  | _ => none

def readLegacy? (value : Toml) : Option LegacySettings := do
  match ← slots? ["enabled", "bind_address"] value with
  | [enabled, bindAddress] =>
      let missing : LegacySettings := {}
      return {
        enabled := ← orDefault missing.enabled Toml.flag? enabled
        bindAddress := ← orDefault missing.bindAddress Toml.text? bindAddress }
  | _ => none

def readLogging? (value : Toml) : Option LoggingSettings := do
  match ← slots? ["level"] value with
  | [level] => return ⟨← orDefault ({} : LoggingSettings).level Toml.text? level⟩
  | _ => none

/-- The settings that the entries of a file make. -/
def ofEntries? (entries : Toml.Entries) : Option Settings := do
  return {
    serial := ← orDefault {} readSerial? (Toml.lookup? entries "serial")
    router := ← orDefault {} readRouter? (Toml.lookup? entries "router")
    parameters := ← orDefault {} readParameters? (Toml.lookup? entries "parameters")
    legacy := ← orDefault {} readLegacy? (Toml.lookup? entries "legacy")
    logging := ← orDefault {} readLogging? (Toml.lookup? entries "logging") }

def ofText? (text : List Char) : Option Settings := (Toml.parse? text).bind ofEntries?

/-- The settings in a file. -/
def load (files : FileSystem) (path : FilePath) : Except Fault Settings :=
  match files.readText path with
  | .error fault => .error fault
  | .ok text =>
      match ofText? text with
      | none => .error .configParse
      | some settings => .ok settings

/-! ## Writing -/

/-- The tables of a file, with all keys. -/
def sections (settings : Settings) : List (String × Toml.Entries) :=
  let serial := settings.serial
  [("serial",
      [("port", .str serial.port), ("baudrate", .int serial.baudRate.toNat),
        ("handshake_timeout_ms", .int serial.handshakeTimeout.toNat),
        ("auto_connect", .bool serial.autoConnect),
        ("max_consecutive_errors", .int serial.maxFailures.toNat)]),
    ("router", [("outputs_file", .str settings.router.outputsFile)]),
    ("parameters", [("timeout_ms", .int settings.parameters.timeout.toNat)]),
    ("legacy",
      [("enabled", .bool settings.legacy.enabled),
        ("bind_address", .str settings.legacy.bindAddress)]),
    ("logging", [("level", .str settings.logging.level)])]

/-- The text of a file; there is none for a whole number that exceeds 64 bits with a sign. -/
def render? (settings : Settings) : Option (List Char) := Toml.render? settings.sections

/-- Write a text to a file, in place of what it held; without one, nothing is written. -/
def saveText (path : FilePath) (files : FileSystem) :
    Option (List Char) → Except Fault Unit × FileSystem
  | none => (.error .configWrite, files)
  | some text =>
      ((files.write path (Utf8.encode text)).1.mapError Fault.ofSystem,
        (files.write path (Utf8.encode text)).2)

/-- Write the settings to a file, in place of what it held. -/
def save (settings : Settings) (path : FilePath) (files : FileSystem) :
    Except Fault Unit × FileSystem :=
  saveText path files settings.render?

end MavBridge.Settings
