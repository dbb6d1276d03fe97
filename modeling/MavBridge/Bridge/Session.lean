import MavBridge.Bridge.Egress
import MavBridge.Bridge.Intake

/-!
One connection to a vehicle, and the numbers and the state that can be seen of it.
-/

namespace MavBridge

structure Session where
  /-- The number of the device. -/
  device : Nat
  baudRate : Nat
  egress : Egress
  intake : Intake Decoder := { decoder := {} }
  /-- The listener that the session has of its own. -/
  listener : Option TcpServer := none
  deriving Repr

/-- How much a session has read, written and lost. -/
structure SessionCounters where
  bytesIn : Nat := 0
  framesIn : Nat := 0
  decodeFailures : Nat := 0
  bytesOut : Nat := 0
  relayDropped : Nat := 0
  deriving DecidableEq, Repr

namespace Session

def link (session : Session) : Link := session.egress.link

def isLive (session : Session) : Bool := session.link.isAlive

def counters (session : Session) : SessionCounters where
  bytesIn := session.intake.bytesIn
  framesIn := session.intake.framesIn
  decodeFailures := session.intake.decodeFailures
  bytesOut := session.link.bytesWritten
  relayDropped := session.egress.dropped

end Session

/-- What can be seen of a bridge. -/
structure BridgeStatus where
  isConnected : Bool := false
  port : Option String := none
  baudRate : Option Nat := none
  vehicle : Option Identity := none
  counters : SessionCounters := {}
  /-- Clients of the listener. -/
  clients : Nat := 0
  deriving DecidableEq, Repr

/-- What can be seen of a bridge with a session. -/
def Session.status (session : Session) : BridgeStatus where
  isConnected := session.isLive
  port := some session.link.port
  baudRate := some session.baudRate
  vehicle := some session.link.vehicle
  counters := session.counters
  clients := (session.listener.map (·.clients.length)).getD 0

def Identity.toJson (identity : Identity) : Json :=
  .obj [("system_id", .int identity.systemId.toNat),
    ("component_id", .int identity.componentId.toNat)]

def SessionCounters.toJson (counters : SessionCounters) : Json :=
  .obj [("bytes_in", .int counters.bytesIn), ("frames_in", .int counters.framesIn),
    ("decode_failures", .int counters.decodeFailures), ("bytes_out", .int counters.bytesOut),
    ("relay_dropped", .int counters.relayDropped)]

def BridgeStatus.toJson (status : BridgeStatus) : Json :=
  .obj [("connected", .bool status.isConnected), ("port", status.port.elim .null .str),
    ("baudrate", status.baudRate.elim .null fun rate => .int rate),
    ("vehicle", status.vehicle.elim .null Identity.toJson),
    ("counters", status.counters.toJson), ("legacy_clients", .int status.clients)]

end MavBridge
