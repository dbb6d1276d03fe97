import MavBridge.Telemetry
import Mathlib.Data.List.Forall2

/-!
# What an event says of a vehicle

The payload of an event is looked at by paths of keys.  It pictures a state if it has each field of
the state at the field's path.
-/

namespace MavBridge

/-- The value at the end of a path, each of whose keys names a field of the object before it. -/
def Json.at? : Json → List String → Option Json
  | value, [] => some value
  | .obj fields, key :: path => (Json.field? fields key).bind (·.at? path)
  | _, _ :: _ => none

/-- A double is given as itself, or as null if it is no finite number. -/
inductive Json.GivesReal : Json → Binary64 → Prop where
  | finite {value : Binary64} : value.isFinite = true → GivesReal (.real value) value
  | absent {value : Binary64} : value.isFinite = false → GivesReal .null value

/-- An item of a payload says what a status text says. -/
structure StatusEntry.Pictured (entry : StatusEntry) (item : Json) : Prop where
  severity : item.at? ["severity"] = some (.str entry.severity)
  text : item.at? ["text"] = some (.str entry.text)
  time : item.at? ["timestamp_us"] = some (.int entry.time)

namespace Telemetry

def reals (telemetry : Telemetry) : List (List String × Binary64) :=
  [(["attitude", "roll"], telemetry.attitude.roll.widen),
    (["attitude", "pitch"], telemetry.attitude.pitch.widen),
    (["attitude", "yaw"], telemetry.attitude.yaw.widen),
    (["gps", "lat"], telemetry.gps.latitude),
    (["gps", "lon"], telemetry.gps.longitude),
    (["gps", "alt"], telemetry.gps.altitude),
    (["battery", "voltage"], telemetry.battery.voltage),
    (["battery", "current"], telemetry.battery.current),
    (["speed", "groundspeed"], telemetry.speed.groundspeed.widen),
    (["speed", "airspeed"], telemetry.speed.airspeed.widen),
    (["speed", "climb"], telemetry.speed.climb.widen)]

def integers (telemetry : Telemetry) : List (List String × Int) :=
  [(["gps", "satellites"], telemetry.gps.satellites.toNat),
    (["gps", "fix_type"], telemetry.gps.fixType.toNat),
    (["battery", "remaining"], telemetry.battery.remaining.toInt),
    (["system", "system_id"], telemetry.system.systemId.toNat),
    (["system", "component_id"], telemetry.system.componentId.toNat),
    (["system", "base_mode"], telemetry.system.baseMode.toNat),
    (["system", "custom_mode"], telemetry.system.customMode.toNat),
    (["system", "vehicle_type_raw"], telemetry.system.vehicleTypeCode.toNat),
    (["system", "autopilot_raw"], telemetry.system.autopilotCode.toNat),
    (["system", "state_raw"], telemetry.system.stateCode.toNat),
    (["last_update_us"], telemetry.lastUpdate)]

def texts (telemetry : Telemetry) : List (List String × String) :=
  [(["system", "mode"], telemetry.system.mode),
    (["system", "vehicle_type"], telemetry.system.vehicleType),
    (["system", "autopilot"], telemetry.system.autopilot),
    (["system", "state"], telemetry.system.state)]

/-- A payload has each field of a state at the field's path, and the status texts in their order. -/
structure Pictured (telemetry : Telemetry) (payload : Json) : Prop where
  reals : ∀ entry ∈ telemetry.reals,
    ∃ given, payload.at? entry.1 = some given ∧ given.GivesReal entry.2
  integers : ∀ entry ∈ telemetry.integers, payload.at? entry.1 = some (.int entry.2)
  texts : ∀ entry ∈ telemetry.texts, payload.at? entry.1 = some (.str entry.2)
  armed : payload.at? ["system", "armed"] = some (.bool telemetry.system.armed)
  messages : ∃ items, payload.at? ["messages"] = some (.arr items) ∧
    List.Forall₂ StatusEntry.Pictured telemetry.messages items

theorem givesReal_realJson (value : Binary64) : (realJson value).GivesReal value := by
  unfold realJson
  split
  next finite => exact .finite finite
  next infinite => exact .absent (eq_false_of_ne_true infinite)

/-- What is told of a state pictures it. -/
theorem pictured_toJson (telemetry : Telemetry) : telemetry.Pictured telemetry.toJson where
  reals entry membership := by
    refine ⟨realJson entry.2, ?_, givesReal_realJson entry.2⟩
    revert entry
    simp [reals, toJson, Json.at?, Json.field?, floatJson]
  integers := by simp [integers, toJson, Json.at?, Json.field?]
  texts := by simp [texts, toJson, Json.at?, Json.field?]
  armed := by simp [toJson, Json.at?, Json.field?]
  messages := by
    refine ⟨_, rfl, ?_⟩
    rw [List.forall₂_map_right_iff, List.forall₂_same]
    exact fun entry _ => ⟨rfl, rfl, rfl⟩

end Telemetry

end MavBridge
