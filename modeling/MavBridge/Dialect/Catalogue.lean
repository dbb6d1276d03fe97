import MavBridge.Bytes
import MavBridge.Dialect.Enumeration

/-!
The messages of the common dialect, as data: for each its number, its name, the byte that closes its
checksum, the length of its whole payload, and the fields that only some values may have.
-/

namespace MavBridge

/-- A field that must hold a listed value. -/
structure EnumField where
  offset : Nat
  width : Nat
  values : Enumeration
  deriving DecidableEq, Repr

/-- A field of flags, of which only some are known. -/
structure FlagField where
  offset : Nat
  width : Nat
  known : Nat
  deriving DecidableEq, Repr

/-- One kind of message. -/
structure MessageKind where
  id : Nat
  name : String
  crcExtra : UInt8
  length : Nat
  enums : List EnumField := []
  /-- The fields of flags, for a kind whose payload is read: of any other only the number is kept,
  and flags, unlike enumerations, never make a payload unacceptable. -/
  flags : List FlagField := []
  deriving DecidableEq, Repr

namespace MessageKind

def heartbeat : MessageKind :=
  ⟨0, "HEARTBEAT", 50, 9, [⟨4, 1, .mavType⟩, ⟨5, 1, .mavAutopilot⟩, ⟨7, 1, .mavState⟩],
    [⟨6, 1, 0xff⟩]⟩

def sysStatus : MessageKind :=
  ⟨1, "SYS_STATUS", 124, 43, [],
    [⟨0, 4, 0xffffffff⟩, ⟨4, 4, 0xffffffff⟩, ⟨8, 4, 0xffffffff⟩, ⟨31, 4, 1⟩, ⟨35, 4, 1⟩,
      ⟨39, 4, 1⟩]⟩

def paramRequestRead : MessageKind :=
  ⟨20, "PARAM_REQUEST_READ", 214, 20, [], []⟩

def paramValue : MessageKind :=
  ⟨22, "PARAM_VALUE", 220, 25, [⟨24, 1, .mavParamType⟩], []⟩

def paramSet : MessageKind :=
  ⟨23, "PARAM_SET", 168, 23, [⟨22, 1, .mavParamType⟩], []⟩

def gpsRawInt : MessageKind :=
  ⟨24, "GPS_RAW_INT", 24, 52, [⟨28, 1, .gpsFixType⟩], []⟩

def attitude : MessageKind :=
  ⟨30, "ATTITUDE", 39, 28, [], []⟩

def globalPositionInt : MessageKind :=
  ⟨33, "GLOBAL_POSITION_INT", 104, 28, [], []⟩

def vfrHud : MessageKind :=
  ⟨74, "VFR_HUD", 20, 20, [], []⟩

def statusText : MessageKind :=
  ⟨253, "STATUSTEXT", 83, 54, [⟨0, 1, .mavSeverity⟩], []⟩

end MessageKind

/-- Every message of the dialect, by rising number. -/
def dialect : List MessageKind :=
  [.heartbeat,
    .sysStatus,
    ⟨2, "SYSTEM_TIME", 137, 12, [], []⟩,
    ⟨4, "PING", 237, 14, [], []⟩,
    ⟨5, "CHANGE_OPERATOR_CONTROL", 217, 28, [], []⟩,
    ⟨6, "CHANGE_OPERATOR_CONTROL_ACK", 104, 3, [], []⟩,
    ⟨7, "AUTH_KEY", 119, 32, [], []⟩,
    ⟨8, "LINK_NODE_STATUS", 117, 36, [], []⟩,
    ⟨11, "SET_MODE", 89, 6, [⟨5, 1, .mavMode⟩], []⟩,
    .paramRequestRead,
    ⟨21, "PARAM_REQUEST_LIST", 159, 2, [], []⟩,
    .paramValue,
    .paramSet,
    .gpsRawInt,
    ⟨25, "GPS_STATUS", 23, 101, [], []⟩,
    ⟨26, "SCALED_IMU", 170, 24, [], []⟩,
    ⟨27, "RAW_IMU", 144, 29, [], []⟩,
    ⟨28, "RAW_PRESSURE", 67, 16, [], []⟩,
    ⟨29, "SCALED_PRESSURE", 115, 16, [], []⟩,
    .attitude,
    ⟨31, "ATTITUDE_QUATERNION", 246, 48, [], []⟩,
    ⟨32, "LOCAL_POSITION_NED", 185, 28, [], []⟩,
    .globalPositionInt,
    ⟨34, "RC_CHANNELS_SCALED", 237, 22, [], []⟩,
    ⟨35, "RC_CHANNELS_RAW", 244, 22, [], []⟩,
    ⟨36, "SERVO_OUTPUT_RAW", 222, 37, [], []⟩,
    ⟨37, "MISSION_REQUEST_PARTIAL_LIST", 212, 7, [⟨6, 1, .mavMissionType⟩], []⟩,
    ⟨38, "MISSION_WRITE_PARTIAL_LIST", 9, 7, [⟨6, 1, .mavMissionType⟩], []⟩,
    ⟨39, "MISSION_ITEM", 254, 38, [⟨30, 2, .mavCmd⟩, ⟨34, 1, .mavFrame⟩, ⟨37, 1, .mavMissionType⟩],
      []⟩,
    ⟨40, "MISSION_REQUEST", 230, 5, [⟨4, 1, .mavMissionType⟩], []⟩,
    ⟨41, "MISSION_SET_CURRENT", 28, 4, [], []⟩,
    ⟨42, "MISSION_CURRENT", 28, 18, [⟨4, 1, .missionState⟩], []⟩,
    ⟨43, "MISSION_REQUEST_LIST", 132, 3, [⟨2, 1, .mavMissionType⟩], []⟩,
    ⟨44, "MISSION_COUNT", 221, 9, [⟨4, 1, .mavMissionType⟩], []⟩,
    ⟨45, "MISSION_CLEAR_ALL", 232, 3, [⟨2, 1, .mavMissionType⟩], []⟩,
    ⟨46, "MISSION_ITEM_REACHED", 11, 2, [], []⟩,
    ⟨47, "MISSION_ACK", 153, 8, [⟨2, 1, .mavMissionResult⟩, ⟨3, 1, .mavMissionType⟩], []⟩,
    ⟨48, "SET_GPS_GLOBAL_ORIGIN", 41, 21, [], []⟩,
    ⟨49, "GPS_GLOBAL_ORIGIN", 39, 20, [], []⟩,
    ⟨50, "PARAM_MAP_RC", 78, 37, [], []⟩,
    ⟨51, "MISSION_REQUEST_INT", 196, 5, [⟨4, 1, .mavMissionType⟩], []⟩,
    ⟨54, "SAFETY_SET_ALLOWED_AREA", 15, 27, [⟨26, 1, .mavFrame⟩], []⟩,
    ⟨55, "SAFETY_ALLOWED_AREA", 3, 25, [⟨24, 1, .mavFrame⟩], []⟩,
    ⟨61, "ATTITUDE_QUATERNION_COV", 167, 72, [], []⟩,
    ⟨62, "NAV_CONTROLLER_OUTPUT", 183, 26, [], []⟩,
    ⟨63, "GLOBAL_POSITION_INT_COV", 119, 181, [⟨180, 1, .mavEstimatorType⟩], []⟩,
    ⟨64, "LOCAL_POSITION_NED_COV", 191, 225, [⟨224, 1, .mavEstimatorType⟩], []⟩,
    ⟨65, "RC_CHANNELS", 118, 42, [], []⟩,
    ⟨66, "REQUEST_DATA_STREAM", 148, 6, [], []⟩,
    ⟨67, "DATA_STREAM", 21, 4, [], []⟩,
    ⟨69, "MANUAL_CONTROL", 243, 30, [], []⟩,
    ⟨70, "RC_CHANNELS_OVERRIDE", 124, 38, [], []⟩,
    ⟨73, "MISSION_ITEM_INT", 38, 38, [⟨30, 2, .mavCmd⟩, ⟨34, 1, .mavFrame⟩, ⟨37, 1,
      .mavMissionType⟩], []⟩,
    .vfrHud,
    ⟨75, "COMMAND_INT", 158, 35, [⟨28, 2, .mavCmd⟩, ⟨32, 1, .mavFrame⟩], []⟩,
    ⟨76, "COMMAND_LONG", 152, 33, [⟨28, 2, .mavCmd⟩], []⟩,
    ⟨77, "COMMAND_ACK", 143, 10, [⟨0, 2, .mavCmd⟩, ⟨2, 1, .mavResult⟩], []⟩,
    ⟨80, "COMMAND_CANCEL", 14, 4, [⟨0, 2, .mavCmd⟩], []⟩,
    ⟨81, "MANUAL_SETPOINT", 106, 22, [], []⟩,
    ⟨82, "SET_ATTITUDE_TARGET", 49, 51, [], []⟩,
    ⟨83, "ATTITUDE_TARGET", 22, 37, [], []⟩,
    ⟨84, "SET_POSITION_TARGET_LOCAL_NED", 143, 53, [⟨52, 1, .mavFrame⟩], []⟩,
    ⟨85, "POSITION_TARGET_LOCAL_NED", 140, 51, [⟨50, 1, .mavFrame⟩], []⟩,
    ⟨86, "SET_POSITION_TARGET_GLOBAL_INT", 5, 53, [⟨52, 1, .mavFrame⟩], []⟩,
    ⟨87, "POSITION_TARGET_GLOBAL_INT", 150, 51, [⟨50, 1, .mavFrame⟩], []⟩,
    ⟨89, "LOCAL_POSITION_NED_SYSTEM_GLOBAL_OFFSET", 231, 28, [], []⟩,
    ⟨90, "HIL_STATE", 183, 56, [], []⟩,
    ⟨91, "HIL_CONTROLS", 63, 42, [⟨40, 1, .mavMode⟩], []⟩,
    ⟨92, "HIL_RC_INPUTS_RAW", 54, 33, [], []⟩,
    ⟨93, "HIL_ACTUATOR_CONTROLS", 47, 81, [], []⟩,
    ⟨100, "OPTICAL_FLOW", 175, 34, [], []⟩,
    ⟨101, "GLOBAL_VISION_POSITION_ESTIMATE", 102, 117, [], []⟩,
    ⟨102, "VISION_POSITION_ESTIMATE", 158, 117, [], []⟩,
    ⟨103, "VISION_SPEED_ESTIMATE", 208, 57, [], []⟩,
    ⟨104, "VICON_POSITION_ESTIMATE", 56, 116, [], []⟩,
    ⟨105, "HIGHRES_IMU", 93, 63, [], []⟩,
    ⟨106, "OPTICAL_FLOW_RAD", 138, 44, [], []⟩,
    ⟨107, "HIL_SENSOR", 108, 65, [], []⟩,
    ⟨108, "SIM_STATE", 32, 92, [], []⟩,
    ⟨109, "RADIO_STATUS", 185, 9, [], []⟩,
    ⟨110, "FILE_TRANSFER_PROTOCOL", 84, 254, [], []⟩,
    ⟨111, "TIMESYNC", 34, 18, [], []⟩,
    ⟨112, "CAMERA_TRIGGER", 174, 12, [], []⟩,
    ⟨113, "HIL_GPS", 124, 39, [], []⟩,
    ⟨114, "HIL_OPTICAL_FLOW", 237, 44, [], []⟩,
    ⟨115, "HIL_STATE_QUATERNION", 4, 64, [], []⟩,
    ⟨116, "SCALED_IMU2", 76, 24, [], []⟩,
    ⟨117, "LOG_REQUEST_LIST", 128, 6, [], []⟩,
    ⟨118, "LOG_ENTRY", 56, 14, [], []⟩,
    ⟨119, "LOG_REQUEST_DATA", 116, 12, [], []⟩,
    ⟨120, "LOG_DATA", 134, 97, [], []⟩,
    ⟨121, "LOG_ERASE", 237, 2, [], []⟩,
    ⟨122, "LOG_REQUEST_END", 203, 2, [], []⟩,
    ⟨123, "GPS_INJECT_DATA", 250, 113, [], []⟩,
    ⟨124, "GPS2_RAW", 87, 57, [⟨32, 1, .gpsFixType⟩], []⟩,
    ⟨125, "POWER_STATUS", 203, 6, [], []⟩,
    ⟨126, "SERIAL_CONTROL", 220, 81, [⟨6, 1, .serialControlDev⟩], []⟩,
    ⟨127, "GPS_RTK", 25, 35, [⟨34, 1, .rtkBaselineCoordinateSystem⟩], []⟩,
    ⟨128, "GPS2_RTK", 226, 35, [⟨34, 1, .rtkBaselineCoordinateSystem⟩], []⟩,
    ⟨129, "SCALED_IMU3", 46, 24, [], []⟩,
    ⟨130, "DATA_TRANSMISSION_HANDSHAKE", 29, 13, [⟨10, 1, .mavlinkDataStreamType⟩], []⟩,
    ⟨131, "ENCAPSULATED_DATA", 223, 255, [], []⟩,
    ⟨132, "DISTANCE_SENSOR", 85, 39, [⟨10, 1, .mavDistanceSensor⟩, ⟨12, 1, .mavSensorOrientation⟩],
      []⟩,
    ⟨133, "TERRAIN_REQUEST", 6, 18, [], []⟩,
    ⟨134, "TERRAIN_DATA", 229, 43, [], []⟩,
    ⟨135, "TERRAIN_CHECK", 203, 8, [], []⟩,
    ⟨136, "TERRAIN_REPORT", 1, 22, [], []⟩,
    ⟨137, "SCALED_PRESSURE2", 195, 16, [], []⟩,
    ⟨138, "ATT_POS_MOCAP", 109, 120, [], []⟩,
    ⟨139, "SET_ACTUATOR_CONTROL_TARGET", 168, 43, [], []⟩,
    ⟨140, "ACTUATOR_CONTROL_TARGET", 181, 41, [], []⟩,
    ⟨141, "ALTITUDE", 47, 32, [], []⟩,
    ⟨142, "RESOURCE_REQUEST", 72, 243, [], []⟩,
    ⟨143, "SCALED_PRESSURE3", 131, 16, [], []⟩,
    ⟨144, "FOLLOW_TARGET", 127, 93, [], []⟩,
    ⟨146, "CONTROL_SYSTEM_STATE", 103, 100, [], []⟩,
    ⟨147, "BATTERY_STATUS", 154, 54, [⟨33, 1, .mavBatteryFunction⟩, ⟨34, 1, .mavBatteryType⟩, ⟨40,
      1, .mavBatteryChargeState⟩, ⟨49, 1, .mavBatteryMode⟩], []⟩,
    ⟨148, "AUTOPILOT_VERSION", 178, 78, [], []⟩,
    ⟨149, "LANDING_TARGET", 200, 60, [⟨29, 1, .mavFrame⟩, ⟨58, 1, .landingTargetType⟩], []⟩,
    ⟨162, "FENCE_STATUS", 189, 9, [⟨7, 1, .fenceBreach⟩, ⟨8, 1, .fenceMitigate⟩], []⟩,
    ⟨192, "MAG_CAL_REPORT", 36, 54, [⟨42, 1, .magCalStatus⟩, ⟨48, 1, .mavSensorOrientation⟩, ⟨49,
      1, .mavSensorOrientation⟩], []⟩,
    ⟨225, "EFI_STATUS", 208, 73, [], []⟩,
    ⟨230, "ESTIMATOR_STATUS", 163, 42, [], []⟩,
    ⟨231, "WIND_COV", 105, 40, [], []⟩,
    ⟨232, "GPS_INPUT", 151, 65, [], []⟩,
    ⟨233, "GPS_RTCM_DATA", 35, 182, [], []⟩,
    ⟨234, "HIGH_LATENCY", 150, 40, [⟨27, 1, .mavLandedState⟩, ⟨34, 1, .gpsFixType⟩], []⟩,
    ⟨235, "HIGH_LATENCY2", 179, 42, [⟨24, 1, .mavType⟩, ⟨25, 1, .mavAutopilot⟩], []⟩,
    ⟨241, "VIBRATION", 90, 32, [], []⟩,
    ⟨242, "HOME_POSITION", 104, 60, [], []⟩,
    ⟨243, "SET_HOME_POSITION", 85, 61, [], []⟩,
    ⟨244, "MESSAGE_INTERVAL", 95, 6, [], []⟩,
    ⟨245, "EXTENDED_SYS_STATE", 130, 2, [⟨0, 1, .mavVtolState⟩, ⟨1, 1, .mavLandedState⟩], []⟩,
    ⟨246, "ADSB_VEHICLE", 184, 38, [⟨26, 1, .adsbAltitudeType⟩, ⟨36, 1, .adsbEmitterType⟩], []⟩,
    ⟨247, "COLLISION", 81, 19, [⟨16, 1, .mavCollisionSrc⟩, ⟨17, 1, .mavCollisionAction⟩, ⟨18, 1,
      .mavCollisionThreatLevel⟩], []⟩,
    ⟨248, "V2_EXTENSION", 8, 254, [], []⟩,
    ⟨249, "MEMORY_VECT", 204, 36, [], []⟩,
    ⟨250, "DEBUG_VECT", 49, 30, [], []⟩,
    ⟨251, "NAMED_VALUE_FLOAT", 170, 18, [], []⟩,
    ⟨252, "NAMED_VALUE_INT", 44, 18, [], []⟩,
    .statusText,
    ⟨254, "DEBUG", 46, 9, [], []⟩,
    ⟨256, "SETUP_SIGNING", 71, 42, [], []⟩,
    ⟨257, "BUTTON_CHANGE", 131, 9, [], []⟩,
    ⟨258, "PLAY_TUNE", 187, 232, [], []⟩,
    ⟨259, "CAMERA_INFORMATION", 92, 237, [], []⟩,
    ⟨260, "CAMERA_SETTINGS", 146, 14, [⟨4, 1, .cameraMode⟩], []⟩,
    ⟨261, "STORAGE_INFORMATION", 179, 61, [⟨26, 1, .storageStatus⟩, ⟨27, 1, .storageType⟩], []⟩,
    ⟨262, "CAMERA_CAPTURE_STATUS", 12, 23, [], []⟩,
    ⟨263, "CAMERA_IMAGE_CAPTURED", 133, 255, [], []⟩,
    ⟨264, "FLIGHT_INFORMATION", 49, 32, [], []⟩,
    ⟨265, "MOUNT_ORIENTATION", 26, 20, [], []⟩,
    ⟨266, "LOGGING_DATA", 193, 255, [], []⟩,
    ⟨267, "LOGGING_DATA_ACKED", 35, 255, [], []⟩,
    ⟨268, "LOGGING_ACK", 14, 4, [], []⟩,
    ⟨269, "VIDEO_STREAM_INFORMATION", 109, 215, [⟨20, 1, .videoStreamType⟩, ⟨213, 1,
      .videoStreamEncoding⟩], []⟩,
    ⟨270, "VIDEO_STREAM_STATUS", 59, 20, [], []⟩,
    ⟨271, "CAMERA_FOV_STATUS", 22, 53, [], []⟩,
    ⟨275, "CAMERA_TRACKING_IMAGE_STATUS", 126, 32, [⟨28, 1, .cameraTrackingStatusFlags⟩, ⟨29, 1,
      .cameraTrackingMode⟩], []⟩,
    ⟨276, "CAMERA_TRACKING_GEO_STATUS", 18, 50, [⟨48, 1, .cameraTrackingStatusFlags⟩], []⟩,
    ⟨277, "CAMERA_THERMAL_RANGE", 62, 30, [], []⟩,
    ⟨280, "GIMBAL_MANAGER_INFORMATION", 70, 33, [], []⟩,
    ⟨281, "GIMBAL_MANAGER_STATUS", 48, 13, [], []⟩,
    ⟨282, "GIMBAL_MANAGER_SET_ATTITUDE", 123, 35, [], []⟩,
    ⟨283, "GIMBAL_DEVICE_INFORMATION", 74, 145, [], []⟩,
    ⟨284, "GIMBAL_DEVICE_SET_ATTITUDE", 99, 32, [], []⟩,
    ⟨285, "GIMBAL_DEVICE_ATTITUDE_STATUS", 137, 49, [], []⟩,
    ⟨286, "AUTOPILOT_STATE_FOR_GIMBAL_DEVICE", 210, 57, [⟨52, 1, .mavLandedState⟩], []⟩,
    ⟨287, "GIMBAL_MANAGER_SET_PITCHYAW", 1, 23, [], []⟩,
    ⟨288, "GIMBAL_MANAGER_SET_MANUAL_CONTROL", 20, 23, [], []⟩,
    ⟨290, "ESC_INFO", 251, 46, [⟨44, 1, .escConnectionType⟩], []⟩,
    ⟨291, "ESC_STATUS", 10, 57, [], []⟩,
    ⟨299, "WIFI_CONFIG_AP", 19, 98, [⟨96, 1, .wifiConfigApMode⟩, ⟨97, 1, .wifiConfigApResponse⟩],
      []⟩,
    ⟨300, "PROTOCOL_VERSION", 217, 22, [], []⟩,
    ⟨301, "AIS_VESSEL", 243, 58, [⟨27, 1, .aisNavStatus⟩, ⟨28, 1, .aisType⟩], []⟩,
    ⟨310, "UAVCAN_NODE_STATUS", 28, 17, [⟨14, 1, .uavcanNodeHealth⟩, ⟨15, 1, .uavcanNodeMode⟩],
      []⟩,
    ⟨311, "UAVCAN_NODE_INFO", 95, 116, [], []⟩,
    ⟨320, "PARAM_EXT_REQUEST_READ", 243, 20, [], []⟩,
    ⟨321, "PARAM_EXT_REQUEST_LIST", 88, 2, [], []⟩,
    ⟨322, "PARAM_EXT_VALUE", 243, 149, [⟨148, 1, .mavParamExtType⟩], []⟩,
    ⟨323, "PARAM_EXT_SET", 78, 147, [⟨146, 1, .mavParamExtType⟩], []⟩,
    ⟨324, "PARAM_EXT_ACK", 132, 146, [⟨144, 1, .mavParamExtType⟩, ⟨145, 1, .paramAck⟩], []⟩,
    ⟨330, "OBSTACLE_DISTANCE", 23, 167, [⟨156, 1, .mavDistanceSensor⟩, ⟨166, 1, .mavFrame⟩], []⟩,
    ⟨331, "ODOMETRY", 91, 233, [⟨228, 1, .mavFrame⟩, ⟨229, 1, .mavFrame⟩, ⟨231, 1,
      .mavEstimatorType⟩], []⟩,
    ⟨332, "TRAJECTORY_REPRESENTATION_WAYPOINTS", 236, 239, [], []⟩,
    ⟨333, "TRAJECTORY_REPRESENTATION_BEZIER", 231, 109, [], []⟩,
    ⟨334, "CELLULAR_STATUS", 72, 10, [⟨6, 1, .cellularStatusFlag⟩, ⟨7, 1,
      .cellularNetworkFailedReason⟩, ⟨8, 1, .cellularNetworkRadioType⟩], []⟩,
    ⟨335, "ISBD_LINK_STATUS", 225, 24, [], []⟩,
    ⟨336, "CELLULAR_CONFIG", 245, 84, [⟨83, 1, .cellularConfigResponse⟩], []⟩,
    ⟨339, "RAW_RPM", 199, 5, [], []⟩,
    ⟨340, "UTM_GLOBAL_POSITION", 99, 70, [⟨68, 1, .utmFlightState⟩], []⟩,
    ⟨350, "DEBUG_FLOAT_ARRAY", 232, 252, [], []⟩,
    ⟨360, "ORBIT_EXECUTION_STATUS", 11, 25, [⟨24, 1, .mavFrame⟩], []⟩,
    ⟨370, "SMART_BATTERY_INFO", 75, 109, [⟨19, 1, .mavBatteryFunction⟩, ⟨20, 1, .mavBatteryType⟩],
      []⟩,
    ⟨371, "FUEL_STATUS", 10, 26, [⟨20, 4, .mavFuelType⟩], []⟩,
    ⟨372, "BATTERY_INFO", 26, 140, [⟨45, 1, .mavBatteryFunction⟩, ⟨46, 1, .mavBatteryType⟩], []⟩,
    ⟨373, "GENERATOR_STATUS", 117, 42, [], []⟩,
    ⟨375, "ACTUATOR_OUTPUT_STATUS", 251, 140, [], []⟩,
    ⟨380, "TIME_ESTIMATE_TO_TARGET", 232, 20, [], []⟩,
    ⟨385, "TUNNEL", 147, 133, [⟨0, 2, .mavTunnelPayloadType⟩], []⟩,
    ⟨386, "CAN_FRAME", 132, 16, [], []⟩,
    ⟨387, "CANFD_FRAME", 4, 72, [], []⟩,
    ⟨388, "CAN_FILTER_MODIFY", 8, 37, [⟨35, 1, .canFilterOp⟩], []⟩,
    ⟨390, "ONBOARD_COMPUTER_STATUS", 156, 238, [], []⟩,
    ⟨395, "COMPONENT_INFORMATION", 0, 212, [], []⟩,
    ⟨396, "COMPONENT_INFORMATION_BASIC", 50, 160, [], []⟩,
    ⟨397, "COMPONENT_METADATA", 182, 108, [], []⟩,
    ⟨400, "PLAY_TUNE_V2", 110, 254, [⟨0, 4, .tuneFormat⟩], []⟩,
    ⟨401, "SUPPORTED_TUNES", 183, 6, [⟨0, 4, .tuneFormat⟩], []⟩,
    ⟨410, "EVENT", 160, 53, [], []⟩,
    ⟨411, "CURRENT_EVENT_SEQUENCE", 106, 3, [⟨2, 1, .mavEventCurrentSequenceFlags⟩], []⟩,
    ⟨412, "REQUEST_EVENT", 33, 6, [], []⟩,
    ⟨413, "RESPONSE_EVENT_ERROR", 77, 7, [⟨6, 1, .mavEventErrorReason⟩], []⟩,
    ⟨435, "AVAILABLE_MODES", 134, 46, [⟨10, 1, .mavStandardMode⟩], []⟩,
    ⟨436, "CURRENT_MODE", 193, 9, [⟨8, 1, .mavStandardMode⟩], []⟩,
    ⟨437, "AVAILABLE_MODES_MONITOR", 30, 1, [], []⟩,
    ⟨440, "ILLUMINATOR_STATUS", 66, 35, [⟨33, 1, .illuminatorMode⟩, ⟨34, 1, .illuminatorMode⟩],
      []⟩,
    ⟨9000, "WHEEL_DISTANCE", 113, 137, [], []⟩,
    ⟨9005, "WINCH_STATUS", 117, 34, [], []⟩,
    ⟨12900, "OPEN_DRONE_ID_BASIC_ID", 114, 44, [⟨22, 1, .mavOdidIdType⟩, ⟨23, 1, .mavOdidUaType⟩],
      []⟩,
    ⟨12901, "OPEN_DRONE_ID_LOCATION", 254, 59, [⟨52, 1, .mavOdidStatus⟩, ⟨53, 1,
      .mavOdidHeightRef⟩, ⟨54, 1, .mavOdidHorAcc⟩, ⟨55, 1, .mavOdidVerAcc⟩, ⟨56, 1,
      .mavOdidVerAcc⟩, ⟨57, 1, .mavOdidSpeedAcc⟩, ⟨58, 1, .mavOdidTimeAcc⟩], []⟩,
    ⟨12902, "OPEN_DRONE_ID_AUTHENTICATION", 140, 53, [⟨26, 1, .mavOdidAuthType⟩], []⟩,
    ⟨12903, "OPEN_DRONE_ID_SELF_ID", 249, 46, [⟨22, 1, .mavOdidDescType⟩], []⟩,
    ⟨12904, "OPEN_DRONE_ID_SYSTEM", 77, 54, [⟨50, 1, .mavOdidOperatorLocationType⟩, ⟨51, 1,
      .mavOdidClassificationType⟩, ⟨52, 1, .mavOdidCategoryEu⟩, ⟨53, 1, .mavOdidClassEu⟩], []⟩,
    ⟨12905, "OPEN_DRONE_ID_OPERATOR_ID", 49, 43, [⟨22, 1, .mavOdidOperatorIdType⟩], []⟩,
    ⟨12915, "OPEN_DRONE_ID_MESSAGE_PACK", 94, 249, [], []⟩,
    ⟨12918, "OPEN_DRONE_ID_ARM_STATUS", 139, 51, [⟨0, 1, .mavOdidArmStatus⟩], []⟩,
    ⟨12919, "OPEN_DRONE_ID_SYSTEM_UPDATE", 7, 18, [], []⟩,
    ⟨12920, "HYGROMETER_SENSOR", 20, 5, [], []⟩]

/-- The kind of message with a number. -/
def MessageKind.ofId? (id : Nat) : Option MessageKind := dialect.find? fun kind => kind.id == id

end MavBridge
