import MavBridge.Message.Body

/-!
The bodies of messages as named fields.
-/

namespace MavBridge

/-- The value of a field. -/
inductive FieldValue where
  | int (value : Int)
  | float (value : Binary32)
  | text (value : String)
  deriving DecidableEq, Repr

/-- Fields by their names, for each type that a field may have. -/
structure FieldSource where
  int : String → Option Int
  float : String → Option Binary32
  text : String → Option String

namespace FieldSource

def u8 (source : FieldSource) (name : String) : Option UInt8 :=
  (source.int name).map fun value => UInt8.ofNat value.toNat

def u16 (source : FieldSource) (name : String) : Option UInt16 :=
  (source.int name).map fun value => UInt16.ofNat value.toNat

def i32 (source : FieldSource) (name : String) : Option Int32 := (source.int name).map Int32.ofInt

end FieldSource

namespace ParamReport

def fields (report : ParamReport) : List (String × FieldValue) :=
  [("name", .text report.name), ("value", .float report.value),
    ("param_type", .int report.type.toNat), ("count", .int report.count.toNat),
    ("index", .int report.index.toNat)]

def read? (source : FieldSource) : Option ParamReport := do
  return {
    name := ← source.text "name"
    value := ← source.float "value"
    type := ← source.u8 "param_type"
    count := ← source.u16 "count"
    index := ← source.u16 "index" }

end ParamReport

namespace Body

def fields : Body → List (String × FieldValue)
  | heartbeat body =>
      [("custom_mode", .int body.customMode.toNat), ("vehicle_type", .int body.vehicleType.toNat),
        ("autopilot", .int body.autopilot.toNat), ("base_mode", .int body.baseMode.toNat),
        ("system_status", .int body.systemStatus.toNat),
        ("mavlink_version", .int body.mavlinkVersion.toNat)]
  | sysStatus body =>
      [("voltage_battery", .int body.voltageBattery.toNat),
        ("current_battery", .int body.currentBattery.toInt),
        ("battery_remaining", .int body.batteryRemaining.toInt)]
  | gpsRaw body =>
      [("fix_type", .int body.fixType.toNat),
        ("satellites_visible", .int body.satellitesVisible.toNat)]
  | attitude body =>
      [("roll", .float body.roll), ("pitch", .float body.pitch), ("yaw", .float body.yaw)]
  | globalPosition body =>
      [("lat", .int body.latitude.toInt), ("lon", .int body.longitude.toInt),
        ("alt", .int body.altitude.toInt), ("relative_alt", .int body.relativeAltitude.toInt)]
  | vfrHud body =>
      [("airspeed", .float body.airspeed), ("groundspeed", .float body.groundspeed),
        ("climb", .float body.climb)]
  | statusText body => [("severity", .int body.severity.toNat), ("text", .text body.text)]
  | paramValue report => report.fields
  | unknown messageId => [("msg_id", .int messageId)]

/-- The body of a type, from its fields. -/
def read? (type : String) (source : FieldSource) : Option Body :=
  match type with
  | "HEARTBEAT" => do
      return .heartbeat {
        customMode := UInt32.ofNat (← source.int "custom_mode").toNat
        vehicleType := ← source.u8 "vehicle_type"
        autopilot := ← source.u8 "autopilot"
        baseMode := ← source.u8 "base_mode"
        systemStatus := ← source.u8 "system_status"
        mavlinkVersion := ← source.u8 "mavlink_version" }
  | "SYS_STATUS" => do
      return .sysStatus {
        voltageBattery := ← source.u16 "voltage_battery"
        currentBattery := Int16.ofInt (← source.int "current_battery")
        batteryRemaining := Int8.ofInt (← source.int "battery_remaining") }
  | "GPS_RAW_INT" => do
      return .gpsRaw ⟨← source.u8 "fix_type", ← source.u8 "satellites_visible"⟩
  | "ATTITUDE" => do
      return .attitude ⟨← source.float "roll", ← source.float "pitch", ← source.float "yaw"⟩
  | "GLOBAL_POSITION_INT" => do
      return .globalPosition
        ⟨← source.i32 "lat", ← source.i32 "lon", ← source.i32 "alt", ← source.i32 "relative_alt"⟩
  | "VFR_HUD" => do
      return .vfrHud
        ⟨← source.float "airspeed", ← source.float "groundspeed", ← source.float "climb"⟩
  | "STATUSTEXT" => do return .statusText ⟨← source.u8 "severity", ← source.text "text"⟩
  | "PARAM_VALUE" => (ParamReport.read? source).map .paramValue
  | "UNKNOWN" => (source.int "msg_id").map fun value => .unknown value.toNat
  | _ => none

end Body

end MavBridge
