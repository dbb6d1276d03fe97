import MavBridge.Output.Config
import MavBridge.Proofs.Json.Reading

/-!
# Configurations as JSON
-/

namespace MavBridge

theorem OutputKind.ofJson?_name (kind : OutputKind) :
    OutputKind.ofJson? (.str kind.name) = some kind := by
  cases kind <;> decide

namespace OutputConfig

variable (config : OutputConfig)

theorem isPlain_toJson : config.toJson.isPlain = true := by
  have small := config.port.toNat_lt
  have wide : Json.IsWide config.port.toNat := by
    constructor <;> omega
  simp [toJson, fields, Json.isPlain, Json.isPlainFields, wide]

theorem depth_toJson : config.toJson.depth = 1 := by
  simp [toJson, fields, Json.depth, Json.depthFields]

/-- The names of the fields are distinct. -/
theorem lastWins_toJson : config.toJson.lastWins = config.toJson := by
  simp [toJson, fields, Json.lastWins, Json.lastWinsFields]

theorem port?_toNat (port : UInt16) : port? (.int port.toNat) = some port := by
  have small := port.toNat_lt
  rw [port?, Json.natural?, if_pos (by omega), Option.map_some, Int.toNat_natCast,
    UInt16.ofNat_toNat]

/-- A configuration is read back from its form. -/
theorem ofJson?_toJson : ofJson? config.toJson = some config := by
  have slots : config.toJson.slots? fieldNames =
      some (config.fields.map fun field => some field.2) := by
    simp [toJson, fields, fieldNames, Json.slots?]
  rw [ofJson?, slots, Option.bind_eq_bind, Option.bind_some]
  simp only [fields, List.map_cons, List.map_nil]
  rw [OutputKind.ofJson?_name, port?_toNat]
  rfl

end OutputConfig

end MavBridge
