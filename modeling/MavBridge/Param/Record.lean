import MavBridge.Json.Basic
import MavBridge.Param.Batch

/-!
Parameters and the outcomes of requests as JSON.
-/

namespace MavBridge

def ParamValue.toJson (param : ParamValue) : Json :=
  .obj [("name", .str param.name), ("value", .real param.value),
    ("type", param.type.elim .null fun type => .str type.name), ("index", .int param.index.toNat),
    ("count", .int param.count.toNat)]

def WriteResult.toJson (result : WriteResult) : Json :=
  .obj [("success", .bool result.success), ("verified", .bool result.verified),
    ("requested", .real result.requested), ("actual_value", .real result.actual)]

def BatchReport.toJson {α : Type} (valueToJson : α → Json) (report : BatchReport α) : Json :=
  .obj [("success", .bool report.success),
    ("values", .obj (report.values.map fun entry => (entry.1, valueToJson entry.2))),
    ("errors", .obj (report.errors.map fun entry => (entry.1, .str entry.2)))]

end MavBridge
