import MavBridge.Proofs.Bridge.Pipeline

/-!
# The last message of each kind

Each group of the telemetry belongs to one kind of message, except the position, which two kinds
share without touching each other's fields.  `digest` reads the groups off the last messages of the
kinds, and the status texts off the newest ones.  What a store has been told is this digest, clocks
aside, so that only the order within each kind matters.
-/

namespace MavBridge

/-! ## Kinds of bodies -/

namespace Body

def heartbeat? : Body → Option Heartbeat
  | .heartbeat fields => some fields
  | _ => none

def attitude? : Body → Option Attitude
  | .attitude fields => some fields
  | _ => none

def sysStatus? : Body → Option SysStatus
  | .sysStatus fields => some fields
  | _ => none

def vfrHud? : Body → Option VfrHud
  | .vfrHud fields => some fields
  | _ => none

def globalPosition? : Body → Option GlobalPosition
  | .globalPosition fields => some fields
  | _ => none

def gpsRaw? : Body → Option GpsRaw
  | .gpsRaw fields => some fields
  | _ => none

def statusText? : Body → Option StatusText
  | .statusText fields => some fields
  | _ => none

/-- Whether a message tells something of the vehicle's state. -/
def isTelemetry : Body → Bool
  | .paramValue _ => false
  | .unknown _ => false
  | _ => true

end Body

/-- The names of the kinds of messages that tell something of the vehicle's state. -/
def telemetryTypes : List String :=
  ["HEARTBEAT", "ATTITUDE", "SYS_STATUS", "VFR_HUD", "GLOBAL_POSITION_INT", "GPS_RAW_INT",
    "STATUSTEXT"]

/-- The messages of the kind with a name, in order. -/
def ofType (name : String) (messages : List Decoded) : List Decoded :=
  messages.filter fun message => message.body.typeName == name

/-! ## The last of a kind -/

section Last

variable {α : Type} (part : Decoded → Option α)

/-- What `part` reads off the last message off which it reads something. -/
def lastOf (messages : List Decoded) : Option α := (messages.filterMap part).getLast?

@[simp]
theorem lastOf_nil : lastOf part [] = none := rfl

@[simp]
theorem lastOf_concat (messages : List Decoded) (message : Decoded) :
    lastOf part (messages ++ [message]) = (part message).or (lastOf part messages) := by
  unfold lastOf
  cases read : part message with
  | none => simp [read]
  | some value => simp [read]

variable {part}

/-- A part that is read off one kind of message only is read off the messages of that kind. -/
theorem filterMap_ofType {name : String}
    (only : ∀ message, (part message).isSome = true → message.body.typeName = name)
    (messages : List Decoded) :
    messages.filterMap part = (ofType name messages).filterMap part := by
  induction messages with
  | nil => rfl
  | cons message rest inductionHypothesis =>
      cases read : part message with
      | none =>
          by_cases named : message.body.typeName = name
          · simp [ofType, read, named, inductionHypothesis]
          · simp [ofType, read, named, inductionHypothesis]
      | some value =>
          have named := only message (by rw [read, Option.isSome_some])
          simp [ofType, read, named, inductionHypothesis]

end Last

namespace Telemetry

/-! ## The digest -/

/-- What a telemetry says, its clocks set to zero. -/
def withoutClocks (telemetry : Telemetry) : Telemetry :=
  { telemetry with
    messages := telemetry.messages.map fun entry => { entry with time := 0 }
    lastUpdate := 0 }

/-- The heartbeat that a message is, with its sender. -/
def heartbeatOf? (message : Decoded) : Option (Decoded × Heartbeat) :=
  message.body.heartbeat?.map fun fields => (message, fields)

/-- What a heartbeat says of its sender; the vehicle is armed if the top bit of its base mode is
set. -/
def heartbeatGroup (message : Decoded) (fields : Heartbeat) : SystemGroup where
  armed := fields.baseMode.toNat.testBit 7
  mode := Names.mode fields.vehicleType fields.customMode
  vehicleType := Names.vehicleType fields.vehicleType
  autopilot := Names.autopilot fields.autopilot
  state := Names.state fields.systemStatus
  systemId := message.systemId
  componentId := message.componentId
  baseMode := fields.baseMode
  customMode := fields.customMode
  vehicleTypeCode := fields.vehicleType
  autopilotCode := fields.autopilot
  stateCode := fields.systemStatus

theorem armed_eq_testBit (baseMode : UInt8) :
    decide (baseMode &&& armedFlag ≠ 0) = baseMode.toNat.testBit 7 := by
  have all : ∀ code < 256, decide (UInt8.ofNat code &&& armedFlag ≠ 0) = code.testBit 7 := by
    decide +kernel
  have here := all baseMode.toNat baseMode.toNat_lt
  rwa [UInt8.ofNat_toNat] at here

theorem systemGroup_eq (message : Decoded) (fields : Heartbeat) :
    systemGroup message fields = heartbeatGroup message fields := by
  simp only [systemGroup, heartbeatGroup, armed_eq_testBit]

/-- A whole number times the double with some bits, as a product of doubles. -/
def product (value : Int) (bits : UInt64) : Binary64 :=
  .ofFloat (Float.ofInt value * Float.ofBits bits)

theorem scaled_eq_product (value : Int32) (unit : Binary64) :
    scaled value unit = product value.toInt unit.bits := rfl

theorem toInt_voltage (voltage : UInt16) :
    voltage.toUInt32.toInt32.toInt = voltage.toNat := by
  have small : voltage.toNat < 2 ^ 31 := voltage.toNat_lt.trans (by decide)
  have whole : voltage.toUInt32.toInt32 = Int32.ofNat voltage.toNat := by
    rw [← UInt32.toInt32_ofNat', UInt32.ofNat_uInt16ToNat]
  rw [whole, Int32.toInt_ofNat_of_lt small]

def attitudeGroup (fields : Attitude) : AttitudeGroup := ⟨fields.roll, fields.pitch, fields.yaw⟩

/-- Volts from thousandths, amperes from hundredths. -/
def batteryGroup (fields : SysStatus) : BatteryGroup :=
  ⟨product fields.voltageBattery.toNat 0x3F50624DD2F1A9FC,
    product fields.currentBattery.toInt 0x3F847AE147AE147B, fields.batteryRemaining⟩

def speedGroup (fields : VfrHud) : SpeedGroup :=
  ⟨fields.groundspeed, fields.airspeed, fields.climb⟩

/-- Degrees from ten-millionths and metres from thousandths out of one kind of message, the quality
of the fix out of another. -/
def gpsGroup (position : Option GlobalPosition) (fix : Option GpsRaw) : GpsGroup where
  latitude :=
    (position.map fun fields => product fields.latitude.toInt 0x3E7AD7F29ABCAF48).getD .zero
  longitude :=
    (position.map fun fields => product fields.longitude.toInt 0x3E7AD7F29ABCAF48).getD .zero
  altitude :=
    (position.map fun fields => product fields.altitude.toInt 0x3F50624DD2F1A9FC).getD .zero
  satellites := (fix.map fun fields => fields.satellitesVisible).getD 0
  fixType := (fix.map fun fields => fields.fixType).getD 0

/-- The telemetry of some messages, its clocks set to zero: each group from the last message of its
kind, or as it is in the beginning, and of the status texts the last twenty, the newest first. -/
def digest (messages : List Decoded) : Telemetry where
  attitude := ((lastOf (·.body.attitude?) messages).map attitudeGroup).getD {}
  gps := gpsGroup (lastOf (·.body.globalPosition?) messages) (lastOf (·.body.gpsRaw?) messages)
  battery := ((lastOf (·.body.sysStatus?) messages).map batteryGroup).getD {}
  speed := ((lastOf (·.body.vfrHud?) messages).map speedGroup).getD {}
  system := ((lastOf heartbeatOf? messages).map fun last => heartbeatGroup last.1 last.2).getD {}
  messages :=
    ((messages.filterMap (·.body.statusText?)).reverse.take 20).map fun fields =>
      ⟨Names.severity fields.severity, fields.text, 0⟩

/-- Setting the clocks to zero before a message or after it is the same. -/
theorem withoutClocks_after? (telemetry : Telemetry) (message : Decoded) (time : Nat) :
    (telemetry.after? message time).map withoutClocks =
      telemetry.withoutClocks.after? message 0 := by
  unfold after?
  cases message.body <;> simp [withoutClocks, List.map_take]

theorem after?_eq_none_iff {telemetry : Telemetry} {message : Decoded} {time : Nat} :
    telemetry.after? message time = none ↔ message.body.isTelemetry = false := by
  unfold after?
  cases message.body <;> simp [Body.isTelemetry]

/-- A message is folded into the digest of those before it. -/
theorem digest_concat (messages : List Decoded) (message : Decoded) :
    digest (messages ++ [message]) =
      ((digest messages).after? message 0).getD (digest messages) := by
  cases said : message.body <;>
    simp [digest, after?, said, heartbeatOf?, Body.heartbeat?, Body.attitude?, Body.sysStatus?,
      Body.vfrHud?, Body.globalPosition?, Body.gpsRaw?, Body.statusText?, attitudeGroup,
      batteryGroup, speedGroup, gpsGroup, systemGroup_eq, scaled_eq_product, toInt_voltage,
      tenMillionth, thousandth, hundredth, messageCapacity, List.take_take, List.map_take]

theorem length_messages_digest (messages : List Decoded) :
    (digest messages).messages.length = min 20 (ofType "STATUSTEXT" messages).length := by
  have counted : (messages.filterMap (·.body.statusText?)).length =
      (ofType "STATUSTEXT" messages).length := by
    rw [List.length_filterMap_eq_countP, ofType, ← List.countP_eq_length_filter]
    refine List.countP_congr fun message _ => ?_
    cases message.body <;> simp [Body.statusText?, Body.typeName]
  simp only [digest, List.length_map, List.length_take, List.length_reverse, counted]

/-- The digest looks at the messages of each kind by themselves. -/
theorem digest_congr {first second : List Decoded}
    (same : ∀ name ∈ telemetryTypes, ofType name first = ofType name second) :
    digest first = digest second := by
  have agree {α : Type} {part : Decoded → Option α} (name : String) (listed : name ∈ telemetryTypes)
      (only : ∀ message, (part message).isSome = true → message.body.typeName = name) :
      first.filterMap part = second.filterMap part := by
    rw [filterMap_ofType only, filterMap_ofType only second, same name listed]
  have heartbeats : first.filterMap heartbeatOf? = second.filterMap heartbeatOf? := by
    refine agree "HEARTBEAT" (by decide) fun message => ?_
    cases said : message.body <;> simp [heartbeatOf?, said, Body.heartbeat?, Body.typeName]
  have attitudes : first.filterMap (·.body.attitude?) = second.filterMap (·.body.attitude?) := by
    refine agree "ATTITUDE" (by decide) fun message => ?_
    cases message.body <;> simp [Body.attitude?, Body.typeName]
  have statuses : first.filterMap (·.body.sysStatus?) = second.filterMap (·.body.sysStatus?) := by
    refine agree "SYS_STATUS" (by decide) fun message => ?_
    cases message.body <;> simp [Body.sysStatus?, Body.typeName]
  have speeds : first.filterMap (·.body.vfrHud?) = second.filterMap (·.body.vfrHud?) := by
    refine agree "VFR_HUD" (by decide) fun message => ?_
    cases message.body <;> simp [Body.vfrHud?, Body.typeName]
  have positions :
      first.filterMap (·.body.globalPosition?) = second.filterMap (·.body.globalPosition?) := by
    refine agree "GLOBAL_POSITION_INT" (by decide) fun message => ?_
    cases message.body <;> simp [Body.globalPosition?, Body.typeName]
  have fixes : first.filterMap (·.body.gpsRaw?) = second.filterMap (·.body.gpsRaw?) := by
    refine agree "GPS_RAW_INT" (by decide) fun message => ?_
    cases message.body <;> simp [Body.gpsRaw?, Body.typeName]
  have texts : first.filterMap (·.body.statusText?) = second.filterMap (·.body.statusText?) := by
    refine agree "STATUSTEXT" (by decide) fun message => ?_
    cases message.body <;> simp [Body.statusText?, Body.typeName]
  simp only [digest, lastOf, heartbeats, attitudes, statuses, speeds, positions, fixes, texts]

end Telemetry

/-! ## A store -/

namespace TelemetryFeed

theorem telemetry_apply (feed : TelemetryFeed) (message : Decoded) (time : Nat) :
    (feed.apply message time).2.telemetry =
      (feed.telemetry.after? message time).getD feed.telemetry := by
  unfold apply
  cases feed.telemetry.after? message time <;> rfl

/-- What a store keeps does not depend on who is told of it. -/
theorem telemetry_applyAll (telemetry : Telemetry) (hub other : EventHub)
    (heard : List (Decoded × Nat)) :
    (applyAll ⟨telemetry, hub⟩ heard).telemetry =
      (applyAll ⟨telemetry, other⟩ heard).telemetry := by
  induction heard using List.reverseRecOn with
  | nil => rfl
  | append_singleton heard last inductionHypothesis =>
      simp only [applyAll, List.foldl_concat, telemetry_apply] at inductionHypothesis ⊢
      rw [inductionHypothesis]

/-- A store takes a message that tells something of the vehicle, and no other changes it. -/
theorem apply_spec (feed : TelemetryFeed) (message : Decoded) (time : Nat) :
    (feed.apply message time).1 = message.body.isTelemetry ∧
      (message.body.isTelemetry = false → (feed.apply message time).2 = feed) := by
  unfold apply
  cases folded : feed.telemetry.after? message time with
  | none =>
      have other := Telemetry.after?_eq_none_iff.mp folded
      exact ⟨other.symm, fun _ => rfl⟩
  | some telemetry =>
      have told : message.body.isTelemetry ≠ false := by
        intro other
        rw [Telemetry.after?_eq_none_iff.mpr other] at folded
        simp at folded
      exact ⟨((Bool.not_eq_false _).mp told).symm, fun other => absurd other told⟩

theorem withoutClocks_applyAll (hub : EventHub) (heard : List (Decoded × Nat)) :
    (applyAll ⟨{}, hub⟩ heard).telemetry.withoutClocks =
      Telemetry.digest (heard.map (·.1)) := by
  induction heard using List.reverseRecOn with
  | nil => rfl
  | append_singleton heard last inductionHypothesis =>
      rw [List.map_append, List.map_singleton, Telemetry.digest_concat, ← inductionHypothesis,
        ← Telemetry.withoutClocks_after? _ last.1 last.2, applyAll, List.foldl_concat,
        telemetry_apply]
      exact (Option.getD_map ..).symm

/-- What a fresh store has been told, clocks aside, is the digest of the messages; it keeps as many
of the status texts as there are, and at most twenty.  Each message is answered with whether it
tells something of the vehicle, and one that does not changes nothing.  Hence messages that come in
the same order kind by kind lead to the same telemetry, however the kinds are interleaved. -/
theorem telemetry_eq_digest (hub : EventHub) (heard : List (Decoded × Nat)) :
    let final := applyAll ⟨{}, hub⟩ heard
    final.telemetry.withoutClocks = Telemetry.digest (heard.map (·.1)) ∧
      final.telemetry.messages.length =
        min 20 (ofType "STATUSTEXT" (heard.map (·.1))).length ∧
      (∀ message time,
        (final.apply message time).1 = message.body.isTelemetry ∧
          (message.body.isTelemetry = false → (final.apply message time).2 = final)) ∧
      ∀ (otherHub : EventHub) (other : List (Decoded × Nat)),
        (∀ name ∈ telemetryTypes,
          ofType name (heard.map (·.1)) = ofType name (other.map (·.1))) →
        (applyAll ⟨{}, otherHub⟩ other).telemetry.withoutClocks =
          final.telemetry.withoutClocks := by
  intro final
  have digested := withoutClocks_applyAll hub heard
  refine ⟨digested, ?_, fun message time => final.apply_spec message time, ?_⟩
  · rw [← Telemetry.length_messages_digest, ← digested, Telemetry.withoutClocks, List.length_map]
  · intro otherHub other same
    rw [withoutClocks_applyAll, digested, Telemetry.digest_congr same]

/-- A plane on the ground. -/
def sampleGrounded : Decoded where
  systemId := 7
  componentId := 3
  sequence := 5
  body := .heartbeat
    { vehicleType := 1, autopilot := 12, baseMode := 1, customMode := 0, systemStatus := 3,
      mavlinkVersion := 3 }

/-- An armed copter that loiters. -/
def sampleLoitering : Decoded where
  systemId := 2
  componentId := 1
  sequence := 6
  body := .heartbeat
    { vehicleType := 2, autopilot := 3, baseMode := 0x81, customMode := 5, systemStatus := 4,
      mavlinkVersion := 3 }

/-- Two heartbeats, a position, two fixes and a text, and the echo of a parameter. -/
def sampleMessages : List (Decoded × Nat) :=
  [(⟨1, 1, 0, .globalPosition ⟨473977420, 85455940, 488000, 0⟩⟩, 10), (sampleGrounded, 10),
    (⟨1, 1, 1, .paramValue ⟨"RATE", .zero, 9, 1, 0⟩⟩, 11), (⟨1, 1, 2, .gpsRaw ⟨3, 11⟩⟩, 12),
    (sampleLoitering, 12), (⟨1, 1, 3, .statusText ⟨4, "Ready"⟩⟩, 13),
    (⟨1, 1, 4, .gpsRaw ⟨4, 12⟩⟩, 14)]

/-- The same without the echo, in another order: the heartbeats and the two fixes come first. -/
def reorderedMessages : List (Decoded × Nat) :=
  [(sampleGrounded, 19), (sampleLoitering, 19), (⟨1, 1, 2, .gpsRaw ⟨3, 11⟩⟩, 20),
    (⟨1, 1, 4, .gpsRaw ⟨4, 12⟩⟩, 21), (⟨1, 1, 3, .statusText ⟨4, "Ready"⟩⟩, 22),
    (⟨1, 1, 0, .globalPosition ⟨473977420, 85455940, 488000, 0⟩⟩, 23)]

theorem telemetry_eq_digest_samples :
    (∀ name ∈ telemetryTypes,
        ofType name (sampleMessages.map (·.1)) = ofType name (reorderedMessages.map (·.1))) ∧
      (applyAll ⟨{}, {}⟩ sampleMessages).telemetry.system =
        ⟨true, "LOITER", "MAV_TYPE_QUADROTOR", "MAV_AUTOPILOT_ARDUPILOTMEGA", "MAV_STATE_ACTIVE",
          2, 1, 0x81, 5, 2, 3, 4⟩ ∧
      (applyAll ⟨{}, {}⟩ sampleMessages).telemetry.messages.length = 1 ∧
      (applyAll ⟨{}, {}⟩ reorderedMessages).telemetry.withoutClocks =
        (applyAll ⟨{}, {}⟩ sampleMessages).telemetry.withoutClocks := by
  have same : ∀ name ∈ telemetryTypes,
      ofType name (sampleMessages.map (·.1)) = ofType name (reorderedMessages.map (·.1)) := by
    decide
  rcases telemetry_eq_digest {} sampleMessages with ⟨digested, kept, -, reorder⟩
  have system := congrArg Telemetry.system digested
  exact ⟨same, system.trans (by decide +kernel), kept, reorder {} reorderedMessages same⟩

end TelemetryFeed

end MavBridge
