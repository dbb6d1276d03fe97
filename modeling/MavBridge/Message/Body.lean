import MavBridge.Message.Basic
import MavBridge.NameField
import MavBridge.Number.Binary

/-!
The messages that the bridge interprets, field by field. All others are only counted and passed on.
-/

namespace MavBridge

structure Heartbeat where
  customMode : UInt32
  vehicleType : UInt8
  autopilot : UInt8
  baseMode : UInt8
  systemStatus : UInt8
  mavlinkVersion : UInt8
  deriving DecidableEq, Repr

/-- The battery, in millivolts, hundredths of an ampere, and percent. -/
structure SysStatus where
  voltageBattery : UInt16
  currentBattery : Int16
  batteryRemaining : Int8
  deriving DecidableEq, Repr

structure GpsRaw where
  fixType : UInt8
  satellitesVisible : UInt8
  deriving DecidableEq, Repr

/-- The attitude, in radians. -/
structure Attitude where
  roll : Binary32
  pitch : Binary32
  yaw : Binary32
  deriving DecidableEq, Repr

/-- The position, in units of 1e-7 degrees and in millimetres. -/
structure GlobalPosition where
  latitude : Int32
  longitude : Int32
  altitude : Int32
  relativeAltitude : Int32
  deriving DecidableEq, Repr

structure VfrHud where
  airspeed : Binary32
  groundspeed : Binary32
  climb : Binary32
  deriving DecidableEq, Repr

structure StatusText where
  severity : UInt8
  text : String
  deriving DecidableEq, Repr

/-- A parameter as the vehicle reports it; its type is a code. -/
structure ParamReport where
  name : String
  value : Binary32
  type : UInt8
  count : UInt16
  index : UInt16
  deriving DecidableEq, Repr

/-- What a message says. -/
inductive Body where
  | heartbeat (fields : Heartbeat)
  | sysStatus (fields : SysStatus)
  | gpsRaw (fields : GpsRaw)
  | attitude (fields : Attitude)
  | globalPosition (fields : GlobalPosition)
  | vfrHud (fields : VfrHud)
  | statusText (fields : StatusText)
  | paramValue (fields : ParamReport)
  | unknown (messageId : Nat)
  deriving DecidableEq, Repr

namespace Body

def typeName : Body → String
  | heartbeat _ => "HEARTBEAT"
  | sysStatus _ => "SYS_STATUS"
  | gpsRaw _ => "GPS_RAW_INT"
  | attitude _ => "ATTITUDE"
  | globalPosition _ => "GLOBAL_POSITION_INT"
  | vfrHud _ => "VFR_HUD"
  | statusText _ => "STATUSTEXT"
  | paramValue _ => "PARAM_VALUE"
  | unknown _ => "UNKNOWN"

def isHeartbeat : Body → Bool
  | heartbeat _ => true
  | _ => false

end Body

def Bytes.f32 (bytes : Bytes) (offset : Nat) : Binary32 := ⟨bytes.u32 offset⟩

/-- The text in a field of fixed width. -/
def Bytes.text (bytes : Bytes) (offset width : Nat) : String :=
  NameField.decode (bytes.slice offset width)

/-- What a message says. -/
def Message.body (message : Message) : Body :=
  let p := message.payload
  if message.kind = .heartbeat then
    .heartbeat ⟨p.u32 0, p.u8 4, p.u8 5, p.u8 6, p.u8 7, p.u8 8⟩
  else if message.kind = .sysStatus then .sysStatus ⟨p.u16 14, p.i16 16, p.i8 30⟩
  else if message.kind = .paramValue then
    .paramValue ⟨p.text 8 NameField.width, p.f32 0, p.u8 24, p.u16 4, p.u16 6⟩
  else if message.kind = .gpsRawInt then .gpsRaw ⟨p.u8 28, p.u8 29⟩
  else if message.kind = .attitude then .attitude ⟨p.f32 4, p.f32 8, p.f32 12⟩
  else if message.kind = .globalPositionInt then
    .globalPosition ⟨p.i32 4, p.i32 8, p.i32 12, p.i32 16⟩
  else if message.kind = .vfrHud then .vfrHud ⟨p.f32 0, p.f32 4, p.f32 12⟩
  else if message.kind = .statusText then .statusText ⟨p.u8 0, p.text 1 50⟩
  else .unknown message.kind.id

end MavBridge
