/-!
Names of the codes that a vehicle reports about itself.

The enumerations are those of the common dialect; the flight modes are numbered by the autopilot,
differently for each family of vehicles.
-/

namespace MavBridge.Names

/-- The kinds of vehicles, by code. -/
def vehicleTypes : List String :=
  ["GENERIC", "FIXED_WING", "QUADROTOR", "COAXIAL", "HELICOPTER", "ANTENNA_TRACKER", "GCS",
    "AIRSHIP", "FREE_BALLOON", "ROCKET", "GROUND_ROVER", "SURFACE_BOAT", "SUBMARINE", "HEXAROTOR",
    "OCTOROTOR", "TRICOPTER", "FLAPPING_WING", "KITE", "ONBOARD_CONTROLLER",
    "VTOL_TAILSITTER_DUOROTOR", "VTOL_TAILSITTER_QUADROTOR", "VTOL_TILTROTOR", "VTOL_FIXEDROTOR",
    "VTOL_TAILSITTER", "VTOL_TILTWING", "VTOL_RESERVED5", "GIMBAL", "ADSB", "PARAFOIL",
    "DODECAROTOR", "CAMERA", "CHARGING_STATION", "FLARM", "SERVO", "ODID", "DECAROTOR", "BATTERY",
    "PARACHUTE", "LOG", "OSD", "IMU", "GPS", "WINCH", "GENERIC_MULTIROTOR", "ILLUMINATOR",
    "SPACECRAFT_ORBITER"]

/-- The autopilots, by code. -/
def autopilots : List String :=
  ["GENERIC", "RESERVED", "SLUGS", "ARDUPILOTMEGA", "OPENPILOT", "GENERIC_WAYPOINTS_ONLY",
    "GENERIC_WAYPOINTS_AND_SIMPLE_NAVIGATION_ONLY", "GENERIC_MISSION_FULL", "INVALID", "PPZ",
    "UDB", "FP", "PX4", "SMACCMPILOT", "AUTOQUAD", "ARMAZILA", "AEROB", "ASLUAV", "SMARTAP",
    "AIRRAILS", "REFLEX"]

/-- The states of a vehicle, by code. -/
def states : List String :=
  ["UNINIT", "BOOT", "CALIBRATING", "STANDBY", "ACTIVE", "CRITICAL", "EMERGENCY", "POWEROFF",
    "FLIGHT_TERMINATION"]

/-- The severities of a status text, by code. -/
def severities : List String :=
  ["EMERGENCY", "ALERT", "CRITICAL", "ERROR", "WARNING", "NOTICE", "INFO", "DEBUG"]

/-- Flight modes of copters. -/
def copterModes : List (Nat × String) :=
  [(0, "STABILIZE"), (1, "ACRO"), (2, "ALT_HOLD"), (3, "AUTO"), (4, "GUIDED"), (5, "LOITER"),
    (6, "RTL"), (7, "CIRCLE"), (9, "LAND"), (11, "DRIFT"), (13, "SPORT"), (14, "FLIP"),
    (15, "AUTOTUNE"), (16, "POSHOLD"), (17, "BRAKE"), (18, "THROW"), (21, "SMART_RTL"),
    (23, "FOLLOW")]

/-- Flight modes of planes. -/
def planeModes : List (Nat × String) :=
  [(0, "MANUAL"), (1, "CIRCLE"), (2, "STABILIZE"), (3, "TRAINING"), (4, "ACRO"), (5, "FBWA"),
    (6, "FBWB"), (7, "CRUISE"), (8, "AUTOTUNE"), (10, "AUTO"), (11, "RTL"), (12, "LOITER"),
    (15, "GUIDED"), (17, "QSTABILIZE"), (18, "QHOVER"), (19, "QLOITER"), (20, "QLAND"),
    (21, "QRTL")]

/-- Modes of rovers and boats. -/
def roverModes : List (Nat × String) :=
  [(0, "MANUAL"), (1, "ACRO"), (3, "STEERING"), (4, "HOLD"), (5, "LOITER"), (6, "FOLLOW"),
    (7, "SIMPLE"), (10, "AUTO"), (11, "RTL"), (12, "SMART_RTL"), (15, "GUIDED")]

/-- The name of a code in an enumeration, or the code itself outside of it. -/
def enumerated (stem : String) (names : List String) (code : UInt8) : String :=
  match names[code.toNat]? with
  | some name => stem ++ name
  | none => "UNKNOWN(" ++ toString code.toNat ++ ")"

def vehicleType (code : UInt8) : String := enumerated "MAV_TYPE_" vehicleTypes code

def autopilot (code : UInt8) : String := enumerated "MAV_AUTOPILOT_" autopilots code

def state (code : UInt8) : String := enumerated "MAV_STATE_" states code

def severity (code : UInt8) : String := severities[code.toNat]?.getD "UNKNOWN"

/-- The modes of a kind of vehicle. -/
def modes (vehicleType : UInt8) : List (Nat × String) :=
  if [2, 3, 4, 13, 14, 15, 29].contains vehicleType.toNat then copterModes
  else if [1, 19, 20, 21].contains vehicleType.toNat then planeModes
  else if [10, 11].contains vehicleType.toNat then roverModes
  else []

/-- The name of a vehicle's mode, or its number where it has none. -/
def mode (vehicleType : UInt8) (customMode : UInt32) : String :=
  match (modes vehicleType).find? fun entry => entry.1 == customMode.toNat with
  | some entry => entry.2
  | none => "Mode(" ++ toString customMode.toNat ++ ")"

end MavBridge.Names
