import MavBridge.Decoder
import MavBridge.Dialect.Names
import MavBridge.Events

/-!
The vehicle's state as its messages tell it.

Each group of fields comes from the last message of one kind, except the position, which two kinds
share; the newest status texts are kept, newest first.
-/

namespace MavBridge

/-- Radians. -/
structure AttitudeGroup where
  roll : Binary32 := .zero
  pitch : Binary32 := .zero
  yaw : Binary32 := .zero
  deriving DecidableEq, Repr

/-- Degrees, and metres above the sea. -/
structure GpsGroup where
  latitude : Binary64 := .zero
  longitude : Binary64 := .zero
  altitude : Binary64 := .zero
  satellites : UInt8 := 0
  fixType : UInt8 := 0
  deriving DecidableEq, Repr

/-- Volts, amperes and percent. -/
structure BatteryGroup where
  voltage : Binary64 := .zero
  current : Binary64 := .zero
  remaining : Int8 := 0
  deriving DecidableEq, Repr

/-- Metres per second. -/
structure SpeedGroup where
  groundspeed : Binary32 := .zero
  airspeed : Binary32 := .zero
  climb : Binary32 := .zero
  deriving DecidableEq, Repr

structure SystemGroup where
  armed : Bool := false
  mode : String := ""
  vehicleType : String := ""
  autopilot : String := ""
  state : String := ""
  systemId : UInt8 := 0
  componentId : UInt8 := 0
  baseMode : UInt8 := 0
  customMode : UInt32 := 0
  vehicleTypeCode : UInt8 := 0
  autopilotCode : UInt8 := 0
  stateCode : UInt8 := 0
  deriving DecidableEq, Repr

/-- A status text, and when it came. -/
structure StatusEntry where
  severity : String
  text : String
  time : Nat
  deriving DecidableEq, Repr

/-- The state of the vehicle; `lastUpdate` is zero before the first message. -/
structure Telemetry where
  attitude : AttitudeGroup := {}
  gps : GpsGroup := {}
  battery : BatteryGroup := {}
  speed : SpeedGroup := {}
  system : SystemGroup := {}
  messages : List StatusEntry := []
  lastUpdate : Nat := 0
  deriving DecidableEq, Repr

namespace Telemetry

def empty : Telemetry := {}

/-- Status texts that are kept. -/
def messageCapacity : Nat := 20

/-- The flag of an armed vehicle in its base mode. -/
def armedFlag : UInt8 := 128

/-- `value * unit` as a product of doubles. -/
def scaled (value : Int32) (unit : Binary64) : Binary64 :=
  .ofFloat (Float.ofInt value.toInt * unit.toFloat)

/-- The double 1e-7. -/
def tenMillionth : Binary64 := ⟨0x3E7AD7F29ABCAF48⟩

/-- The double 1e-3. -/
def thousandth : Binary64 := ⟨0x3F50624DD2F1A9FC⟩

/-- The double 1e-2. -/
def hundredth : Binary64 := ⟨0x3F847AE147AE147B⟩

def systemGroup (message : Decoded) (heartbeat : Heartbeat) : SystemGroup where
  armed := heartbeat.baseMode &&& armedFlag ≠ 0
  mode := Names.mode heartbeat.vehicleType heartbeat.customMode
  vehicleType := Names.vehicleType heartbeat.vehicleType
  autopilot := Names.autopilot heartbeat.autopilot
  state := Names.state heartbeat.systemStatus
  systemId := message.systemId
  componentId := message.componentId
  baseMode := heartbeat.baseMode
  customMode := heartbeat.customMode
  vehicleTypeCode := heartbeat.vehicleType
  autopilotCode := heartbeat.autopilot
  stateCode := heartbeat.systemStatus

/-- The state after a message that came at `time`; none for a message without telemetry. -/
def after? (telemetry : Telemetry) (message : Decoded) (time : Nat) : Option Telemetry :=
  match message.body with
  | .heartbeat fields =>
      some { telemetry with system := systemGroup message fields, lastUpdate := time }
  | .attitude fields =>
      some { telemetry with
        attitude := ⟨fields.roll, fields.pitch, fields.yaw⟩, lastUpdate := time }
  | .globalPosition fields =>
      some { telemetry with
        gps := { telemetry.gps with
          latitude := scaled fields.latitude tenMillionth
          longitude := scaled fields.longitude tenMillionth
          altitude := scaled fields.altitude thousandth }
        lastUpdate := time }
  | .sysStatus fields =>
      some { telemetry with
        battery :=
          ⟨scaled fields.voltageBattery.toUInt32.toInt32 thousandth,
            scaled fields.currentBattery.toInt32 hundredth, fields.batteryRemaining⟩
        lastUpdate := time }
  | .statusText fields =>
      some { telemetry with
        messages :=
          ⟨Names.severity fields.severity, fields.text, time⟩
            :: telemetry.messages.take (messageCapacity - 1)
        lastUpdate := time }
  | .vfrHud fields =>
      some { telemetry with
        speed := ⟨fields.groundspeed, fields.airspeed, fields.climb⟩, lastUpdate := time }
  | .gpsRaw fields =>
      some { telemetry with
        gps := { telemetry.gps with
          satellites := fields.satellitesVisible, fixType := fields.fixType }
        lastUpdate := time }
  | .paramValue _ => none
  | .unknown _ => none

/-- A double in an event; what is not finite has no number there. -/
def realJson (value : Binary64) : Json := if value.isFinite then .real value else .null

def floatJson (value : Binary32) : Json := realJson value.widen

def toJson (telemetry : Telemetry) : Json :=
  let system := telemetry.system
  .obj
    [("attitude", .obj
      [("roll", floatJson telemetry.attitude.roll), ("pitch", floatJson telemetry.attitude.pitch),
        ("yaw", floatJson telemetry.attitude.yaw)]),
      ("gps", .obj
        [("lat", realJson telemetry.gps.latitude), ("lon", realJson telemetry.gps.longitude),
          ("alt", realJson telemetry.gps.altitude),
          ("satellites", .int telemetry.gps.satellites.toNat),
          ("fix_type", .int telemetry.gps.fixType.toNat)]),
      ("battery", .obj
        [("voltage", realJson telemetry.battery.voltage),
          ("current", realJson telemetry.battery.current),
          ("remaining", .int telemetry.battery.remaining.toInt)]),
      ("speed", .obj
        [("groundspeed", floatJson telemetry.speed.groundspeed),
          ("airspeed", floatJson telemetry.speed.airspeed),
          ("climb", floatJson telemetry.speed.climb)]),
      ("system", .obj
        [("armed", .bool system.armed), ("mode", .str system.mode),
          ("vehicle_type", .str system.vehicleType), ("autopilot", .str system.autopilot),
          ("state", .str system.state), ("system_id", .int system.systemId.toNat),
          ("component_id", .int system.componentId.toNat),
          ("base_mode", .int system.baseMode.toNat),
          ("custom_mode", .int system.customMode.toNat),
          ("vehicle_type_raw", .int system.vehicleTypeCode.toNat),
          ("autopilot_raw", .int system.autopilotCode.toNat),
          ("state_raw", .int system.stateCode.toNat)]),
      ("messages", .arr (telemetry.messages.map fun entry => .obj
        [("severity", .str entry.severity), ("text", .str entry.text),
          ("timestamp_us", .int entry.time)])),
      ("last_update_us", .int telemetry.lastUpdate)]

end Telemetry

/-- The vehicle's state, and whom to tell about it. -/
structure TelemetryFeed where
  telemetry : Telemetry := {}
  hub : EventHub := {}
  deriving Repr, Inhabited

namespace TelemetryFeed

/-- Fold a message in; whoever listens is told the new state. -/
def apply (feed : TelemetryFeed) (message : Decoded) (time : Nat) : Bool × TelemetryFeed :=
  match feed.telemetry.after? message time with
  | none => (false, feed)
  | some telemetry =>
      let (listening, hub) := feed.hub.hasSubscribers
      (true, ⟨telemetry,
        if listening then hub.notify ⟨"telemetry", telemetry.toJson⟩ else hub⟩)

end TelemetryFeed

end MavBridge
