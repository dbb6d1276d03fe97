import MavBridge.Json.Parser
import MavBridge.Json.Record

/-!
Configurations of network outputs, changes to them, and their form as JSON.
-/

namespace MavBridge

/-- The kinds of outputs; any kind that is not known is unsupported. -/
inductive OutputKind where
  | tcpServer
  | tcpClient
  | udp
  | unsupported
  deriving DecidableEq, Repr, Inhabited

namespace OutputKind

def name : OutputKind → String
  | tcpServer => "tcp_server"
  | tcpClient => "tcp_client"
  | udp => "udp"
  | unsupported => "unsupported"

def ofName (text : String) : OutputKind :=
  if text = tcpServer.name then tcpServer
  else if text = tcpClient.name then tcpClient
  else if text = udp.name then udp
  else unsupported

def ofJson? (json : Json) : Option OutputKind := json.choice?.map ofName

end OutputKind

/-- The configuration of an output, identified by `id`. -/
structure OutputConfig where
  id : String
  kind : OutputKind
  host : String
  port : UInt16
  name : String := ""
  enabled : Bool := true
  autoStart : Bool := true
  deriving DecidableEq, Repr, Inhabited

/-- A change to a configuration; what is not given stays. -/
structure OutputUpdate where
  kind : Option OutputKind := none
  host : Option String := none
  port : Option UInt16 := none
  name : Option String := none
  enabled : Option Bool := none
  autoStart : Option Bool := none
  deriving DecidableEq, Repr, Inhabited

namespace OutputConfig

/-- A new configuration, named after its identifier. -/
def create (id : String) (kind : OutputKind) (host : String) (port : UInt16) : OutputConfig :=
  { id, kind, host, port, name := id }

def address (config : OutputConfig) : String := config.host ++ ":" ++ toString config.port.toNat

/-- It starts when it is added or loaded. -/
def startsItself (config : OutputConfig) : Bool := config.enabled && config.autoStart

def update (config : OutputConfig) (change : OutputUpdate) : OutputConfig where
  id := config.id
  kind := change.kind.getD config.kind
  host := change.host.getD config.host
  port := change.port.getD config.port
  name := change.name.getD config.name
  enabled := change.enabled.getD config.enabled
  autoStart := change.autoStart.getD config.autoStart

def fieldNames : List String := ["id", "type", "host", "port", "name", "enabled", "auto_start"]

def fields (config : OutputConfig) : List (String × Json) :=
  [("id", .str config.id), ("type", .str config.kind.name), ("host", .str config.host),
    ("port", .int config.port.toNat), ("name", .str config.name), ("enabled", .bool config.enabled),
    ("auto_start", .bool config.autoStart)]

def toJson (config : OutputConfig) : Json := .obj config.fields

/-- A port as JSON has it: a whole number of 16 bits. -/
def port? (json : Json) : Option UInt16 := (json.natural? 65536).map UInt16.ofNat

def ofJson? (json : Json) : Option OutputConfig := do
  match ← json.slots? fieldNames with
  | [some id, some kind, some host, some port, name, enabled, autoStart] =>
      return {
        id := ← id.text?
        kind := ← OutputKind.ofJson? kind
        host := ← host.text?
        port := ← port? port
        name := ← Json.orDefault "" Json.text? name
        enabled := ← Json.orDefault true Json.flag? enabled
        autoStart := ← Json.orDefault true Json.flag? autoStart }
  | _ => none

def ofText? (text : String) : Option OutputConfig := (Json.parseTree? text.toList).bind ofJson?

end OutputConfig

namespace OutputUpdate

def fieldNames : List String := ["type", "host", "port", "name", "enabled", "auto_start"]

def ofJson? (json : Json) : Option OutputUpdate := do
  match ← json.slots? fieldNames with
  | [kind, host, port, name, enabled, autoStart] =>
      return {
        kind := ← Json.orNone OutputKind.ofJson? kind
        host := ← Json.orNone Json.text? host
        port := ← Json.orNone OutputConfig.port? port
        name := ← Json.orNone Json.text? name
        enabled := ← Json.orNone Json.flag? enabled
        autoStart := ← Json.orNone Json.flag? autoStart }
  | _ => none

def ofText? (text : String) : Option OutputUpdate := (Json.parseTree? text.toList).bind ofJson?

end OutputUpdate

end MavBridge
