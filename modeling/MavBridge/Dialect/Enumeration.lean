/-!
The values that the enumerations of the dialect list.
-/

namespace MavBridge

/-- An enumeration, as the closed intervals of its values. -/
abbrev Enumeration := List (Nat × Nat)

namespace Enumeration

/-- The value is listed. -/
def lists (enumeration : Enumeration) (value : Nat) : Bool :=
  enumeration.any fun range => range.1 ≤ value && value ≤ range.2

def adsbAltitudeType : Enumeration := [(0, 1)]

def adsbEmitterType : Enumeration := [(0, 19)]

def aisNavStatus : Enumeration := [(0, 15)]

def aisType : Enumeration := [(0, 99)]

def cameraMode : Enumeration := [(0, 2)]

def cameraTrackingMode : Enumeration := [(0, 2)]

def cameraTrackingStatusFlags : Enumeration := [(0, 2)]

def canFilterOp : Enumeration := [(0, 2)]

def cellularConfigResponse : Enumeration := [(0, 4)]

def cellularNetworkFailedReason : Enumeration := [(0, 3)]

def cellularNetworkRadioType : Enumeration := [(0, 4)]

def cellularStatusFlag : Enumeration := [(0, 12)]

def escConnectionType : Enumeration := [(0, 5)]

def fenceBreach : Enumeration := [(0, 3)]

def fenceMitigate : Enumeration := [(0, 2)]

def gpsFixType : Enumeration := [(0, 8)]

def illuminatorMode : Enumeration := [(0, 2)]

def landingTargetType : Enumeration := [(0, 3)]

def magCalStatus : Enumeration := [(0, 7)]

def mavAutopilot : Enumeration := [(0, 20)]

def mavBatteryChargeState : Enumeration := [(0, 7)]

def mavBatteryFunction : Enumeration := [(0, 4)]

def mavBatteryMode : Enumeration := [(0, 2)]

def mavBatteryType : Enumeration := [(0, 4)]

def mavCmd : Enumeration :=
  [(16, 25), (30, 34), (80, 82), (84, 85), (92, 95), (112, 115), (159, 159), (176, 198), (200, 214),
    (220, 224), (240, 243), (245, 246), (252, 252), (260, 260), (262, 262), (300, 300), (310, 311),
    (400, 401), (405, 406), (410, 410), (420, 420), (500, 500), (510, 512), (519, 522), (525, 534),
    (600, 601), (1000, 1001), (2000, 2005), (2010, 2010), (2500, 2505), (2510, 2511), (2520, 2520),
    (2600, 2600), (2800, 2800), (3000, 3001), (4000, 4001), (4501, 4501), (5000, 5004),
    (5100, 5100), (5200, 5200), (5300, 5300), (10001, 10001), (30001, 30002), (31000, 31014),
    (32000, 32000), (42006, 42006), (42600, 42600), (43003, 43003)]

def mavCollisionAction : Enumeration := [(0, 6)]

def mavCollisionSrc : Enumeration := [(0, 1)]

def mavCollisionThreatLevel : Enumeration := [(0, 2)]

def mavDistanceSensor : Enumeration := [(0, 4)]

def mavEstimatorType : Enumeration := [(0, 8)]

def mavEventCurrentSequenceFlags : Enumeration := [(1, 1)]

def mavEventErrorReason : Enumeration := [(0, 0)]

def mavFrame : Enumeration := [(0, 21)]

def mavFuelType : Enumeration := [(0, 2)]

def mavLandedState : Enumeration := [(0, 4)]

def mavMissionResult : Enumeration := [(0, 15)]

def mavMissionType : Enumeration := [(0, 2), (255, 255)]

def mavMode : Enumeration :=
  [(0, 0), (64, 64), (66, 66), (80, 80), (88, 88), (92, 92), (192, 192), (194, 194), (208, 208),
    (216, 216), (220, 220)]

def mavOdidArmStatus : Enumeration := [(0, 1)]

def mavOdidAuthType : Enumeration := [(0, 5)]

def mavOdidCategoryEu : Enumeration := [(0, 3)]

def mavOdidClassEu : Enumeration := [(0, 7)]

def mavOdidClassificationType : Enumeration := [(0, 1)]

def mavOdidDescType : Enumeration := [(0, 2)]

def mavOdidHeightRef : Enumeration := [(0, 1)]

def mavOdidHorAcc : Enumeration := [(0, 12)]

def mavOdidIdType : Enumeration := [(0, 4)]

def mavOdidOperatorIdType : Enumeration := [(0, 0)]

def mavOdidOperatorLocationType : Enumeration := [(0, 2)]

def mavOdidSpeedAcc : Enumeration := [(0, 4)]

def mavOdidStatus : Enumeration := [(0, 4)]

def mavOdidTimeAcc : Enumeration := [(0, 15)]

def mavOdidUaType : Enumeration := [(0, 15)]

def mavOdidVerAcc : Enumeration := [(0, 6)]

def mavParamExtType : Enumeration := [(1, 11)]

def mavParamType : Enumeration := [(1, 10)]

def mavResult : Enumeration := [(0, 9)]

def mavSensorOrientation : Enumeration := [(0, 40), (100, 100)]

def mavSeverity : Enumeration := [(0, 7)]

def mavStandardMode : Enumeration := [(0, 8)]

def mavState : Enumeration := [(0, 8)]

def mavTunnelPayloadType : Enumeration := [(0, 0), (200, 212)]

def mavType : Enumeration := [(0, 45)]

def mavVtolState : Enumeration := [(0, 4)]

def mavlinkDataStreamType : Enumeration := [(0, 5)]

def missionState : Enumeration := [(0, 5)]

def paramAck : Enumeration := [(0, 3)]

def rtkBaselineCoordinateSystem : Enumeration := [(0, 1)]

def serialControlDev : Enumeration := [(0, 3), (10, 10), (100, 109)]

def storageStatus : Enumeration := [(0, 3)]

def storageType : Enumeration := [(0, 7), (254, 254)]

def tuneFormat : Enumeration := [(1, 2)]

def uavcanNodeHealth : Enumeration := [(0, 3)]

def uavcanNodeMode : Enumeration := [(0, 3), (7, 7)]

def utmFlightState : Enumeration := [(1, 3), (16, 16), (32, 32)]

def videoStreamEncoding : Enumeration := [(0, 2)]

def videoStreamType : Enumeration := [(0, 3)]

def wifiConfigApMode : Enumeration := [(0, 3)]

def wifiConfigApResponse : Enumeration := [(0, 5)]

end Enumeration

end MavBridge
