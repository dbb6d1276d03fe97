import MavBridge.Duration
import MavBridge.Json.Basic

/-!
The settings of the bridge, in sections. Everything has a default.
-/

namespace MavBridge

/-- The link to the flight controller. -/
structure SerialSettings where
  port : String := "/dev/ttyACM0"
  baudRate : UInt32 := 115200
  /-- How long to wait for the first heartbeat, in milliseconds. -/
  handshakeTimeout : UInt64 := 10000
  /-- Connect at once. -/
  autoConnect : Bool := false
  /-- Failures in a row after which the link is dead. -/
  maxFailures : UInt32 := 10
  deriving DecidableEq, Repr, Inhabited

structure RouterSettings where
  /-- Where the list of outputs is kept. -/
  outputsFile : String := "/var/lib/setu-io/outputs.json"
  deriving DecidableEq, Repr, Inhabited

structure ParameterSettings where
  /-- How long to wait for an echo, in milliseconds. -/
  timeout : UInt64 := 3000
  deriving DecidableEq, Repr, Inhabited

/-- A listener that is attached to the link itself. -/
structure LegacySettings where
  enabled : Bool := false
  bindAddress : String := "0.0.0.0:5760"
  deriving DecidableEq, Repr, Inhabited

structure LoggingSettings where
  level : String := "info"
  deriving DecidableEq, Repr, Inhabited

structure Settings where
  serial : SerialSettings := {}
  router : RouterSettings := {}
  parameters : ParameterSettings := {}
  legacy : LegacySettings := {}
  logging : LoggingSettings := {}
  deriving DecidableEq, Repr, Inhabited

namespace Settings

def handshakeTimeout (settings : Settings) : Duration :=
  .ofMilliseconds settings.serial.handshakeTimeout.toNat

def paramTimeout (settings : Settings) : Duration :=
  .ofMilliseconds settings.parameters.timeout.toNat

/-- Where the attached listener listens, if it is wanted. -/
def legacyListener (settings : Settings) : Option String :=
  if settings.legacy.enabled then some settings.legacy.bindAddress else none

def toJson (settings : Settings) : Json :=
  let serial := settings.serial
  .obj
    [("serial", .obj
      [("port", .str serial.port), ("baudrate", .int serial.baudRate.toNat),
        ("handshake_timeout_ms", .int serial.handshakeTimeout.toNat),
        ("auto_connect", .bool serial.autoConnect),
        ("max_consecutive_errors", .int serial.maxFailures.toNat)]),
      ("router", .obj [("outputs_file", .str settings.router.outputsFile)]),
      ("parameters", .obj [("timeout_ms", .int settings.parameters.timeout.toNat)]),
      ("legacy", .obj
        [("enabled", .bool settings.legacy.enabled),
          ("bind_address", .str settings.legacy.bindAddress)]),
      ("logging", .obj [("level", .str settings.logging.level)])]

end Settings

end MavBridge
