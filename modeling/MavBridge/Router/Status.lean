import MavBridge.Fault
import MavBridge.Output.Config

/-!
What can be seen of the outputs: their configurations, whether they run, and how often sending to
them succeeded or failed.
-/

namespace MavBridge

/-- Frames sent, chunks received, and failed sends. -/
structure OutputStats where
  tx : Nat := 0
  rx : Nat := 0
  errors : Nat := 0
  deriving DecidableEq, Repr

namespace OutputStats

def toJson (stats : OutputStats) : Json :=
  .obj [("tx", .int stats.tx), ("rx", .int stats.rx), ("errors", .int stats.errors)]

/-- Count a send; one that reached nobody counts for nothing. -/
def recordSend (stats : OutputStats) : Except Fault Nat → OutputStats
  | .ok reached => if reached = 0 then stats else { stats with tx := stats.tx + 1 }
  | .error _ => { stats with errors := stats.errors + 1 }

def recordReceived (stats : OutputStats) : OutputStats := { stats with rx := stats.rx + 1 }

end OutputStats

/-- What can be seen of an output. -/
structure OutputStatus where
  config : OutputConfig
  isRunning : Bool
  clients : Nat
  localAddress : Option String
  stats : OutputStats
  deriving DecidableEq, Repr

/-- What can be seen of all outputs. -/
structure RouterStatus where
  outputs : List OutputStatus
  deriving DecidableEq, Repr

namespace OutputStatus

def toJson (status : OutputStatus) : Json :=
  .obj (status.config.fields ++
    [("running", .bool status.isRunning), ("clients", .int status.clients),
      ("local_addr", status.localAddress.elim .null .str), ("stats", status.stats.toJson)])

end OutputStatus

namespace RouterStatus

def total (status : RouterStatus) : Nat := status.outputs.length

def active (status : RouterStatus) : Nat := (status.outputs.filter (·.isRunning)).length

def toJson (status : RouterStatus) : Json :=
  .obj [("outputs", .arr (status.outputs.map (·.toJson))), ("total", .int status.total),
    ("active", .int status.active)]

end RouterStatus

end MavBridge
