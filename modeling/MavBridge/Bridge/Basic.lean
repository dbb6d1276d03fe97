import MavBridge.Bridge.Session
import MavBridge.Param.Batch

/-!
The bridge: at most one session with a vehicle, the outputs that its frames go to, and whoever has
subscribed to what happens.

A session is live until its link dies, and then dead until it is cleared away: by a disconnection,
or by the next connection, which a live session refuses. Whatever asks something of the vehicle
needs a live session. What outputs have received is relayed to the live session, or dropped.

`Station` says how devices and outputs behave in the world around the bridge.
-/

namespace MavBridge

/-- Devices, outputs and addresses, as what happens to the world when they are used. -/
structure Station (ω χ : Type) where
  outlets : Outlets ω χ
  /-- The device with a number. -/
  device : Nat → Transport ω
  /-- Open the serial port at a path, at a baud rate; the answer is the device's number. -/
  openPort : String → Nat → ω → Except Fault Nat × ω
  /-- Let go of a device. -/
  release : Nat → ω → ω
  /-- Take the address that a listener listens at. -/
  listen : String → ω → ListenCalls × ω
  /-- Give the address of a listener back. -/
  unlisten : Endpoint → ω → ω
  /-- Start the writer and the reader of a session. -/
  startWorkers : ω → Except Fault Unit × ω := fun world => (.ok (), world)
  now : ω → Nat

structure BridgeSettings where
  handshakeTimeout : Duration := .ofSeconds 10
  maxFailures : Nat := 10
  /-- Where each session listens, if it does. -/
  listenAddress : Option String := none
  deriving DecidableEq, Repr

structure Bridge (ω χ : Type) where
  settings : BridgeSettings := {}
  router : Router χ := {}
  hub : EventHub := {}
  session : Option Session := none
  world : ω
  deriving Repr

/-- How far connecting came before it failed. -/
inductive ConnectStage where
  /-- There is a live session. -/
  | clearing
  | opening
  | greeting
  /-- The vehicle has been heard, and the session was being prepared. -/
  | preparing (vehicle : Identity)
  deriving DecidableEq, Repr

structure ConnectFailure where
  stage : ConnectStage
  fault : Fault
  deriving DecidableEq, Repr

/-- The vehicle at a port, and what a listener said when it started. -/
structure Connected where
  port : String
  vehicle : Identity
  listening : Option String := none
  deriving DecidableEq, Repr

def Connected.message (connected : Connected) : String :=
  "Connected to " ++ connected.port ++ " (system " ++ toString connected.vehicle.systemId.toNat
    ++ ", component " ++ toString connected.vehicle.componentId.toNat ++ ")"

/-- The outlets of a larger world, which tell a hub of each change. -/
def Outlets.announcing {ω χ : Type} (outlets : Outlets ω χ) : Outlets (ω × EventHub) χ :=
  outlets.beside fun status hub => hub.notify ⟨"router_status", status.toJson⟩

namespace Bridge

variable {ω χ : Type}

def status (bridge : Bridge ω χ) : BridgeStatus :=
  (bridge.session.map (·.status)).getD {}

/-- The session, while it is live. -/
def live? (bridge : Bridge ω χ) : Option Session := bridge.session.filter (·.isLive)

def isConnected (bridge : Bridge ω χ) : Bool := bridge.live?.isSome

/-- Relay what an output has received. -/
def relay (bridge : Bridge ω χ) (chunk : Bytes) : Bridge ω χ :=
  { bridge with
    session := bridge.session.map fun session =>
      { session with egress := session.egress.offer chunk } }

/-- A chunk has come in from an output: it is counted, and relayed. -/
def inbound (bridge : Bridge ω χ) (id : String) (chunk : Bytes) : Bridge ω χ :=
  { bridge with router := bridge.router.receive id }.relay chunk

def telemetry (bridge : Bridge ω χ) : Except Fault Telemetry :=
  match bridge.live? with
  | some session => .ok session.intake.telemetry
  | none => .error .notConnected

variable (station : Station ω χ)

/-- The outlets that tell the bridge's subscribers of changes. -/
abbrev outlets : Outlets (ω × EventHub) χ := station.outlets.announcing

/-- Do something to the router. -/
def route {α : Type} (bridge : Bridge ω χ)
    (act : Router χ → ω × EventHub → α × Router χ × ω × EventHub) : α × Bridge ω χ :=
  let (answer, router, world, hub) := act bridge.router (bridge.world, bridge.hub)
  (answer, { bridge with router, world, hub })

/-- Hand a chunk that the vehicle has sent to the session. -/
def receive (bridge : Bridge ω χ) (chunk : Bytes) : Bridge ω χ :=
  match bridge.session with
  | none => bridge
  | some session =>
      let done := Pipeline.receive station.outlets station.now
        ⟨session.intake, session.listener, bridge.hub, bridge.router, bridge.world⟩ chunk
      { bridge with
        router := done.router
        hub := done.hub
        session := some { session with intake := done.intake, listener := done.listener }
        world := done.world }

/-- One poll of the session's reader; the answer is whether another may bring something. -/
def poll (bridge : Bridge ω χ) : Bool × Bridge ω χ :=
  match bridge.session with
  | none => (false, bridge)
  | some session =>
      if session.link.isReading then
        let (outcome, world) := Link.pollDevice (station.device session.device) bridge.world
        let (chunk, egress) := session.egress.observe outcome
        let bridge := { bridge with session := some { session with egress }, world }
        match outcome, chunk with
        | .ok [], _ => (false, bridge)
        | _, some chunk => (true, bridge.receive station chunk)
        | _, none => (true, bridge)
      else (false, bridge)

/-- Poll until a poll brings nothing, at most so many times. -/
def pollWhile : (polls : Nat) → Bridge ω χ → Bridge ω χ
  | 0, bridge => bridge
  | polls + 1, bridge =>
      match bridge.poll station with
      | (true, bridge) => pollWhile polls bridge
      | (false, bridge) => bridge

/-- How long a device may stay silent before nothing more is expected of it. -/
def patience : Duration := .ofSeconds 1

/-- Let the reader handle all that can be read. -/
def pump (bridge : Bridge ω χ) : Bridge ω χ :=
  match bridge.session with
  | none => bridge
  | some session =>
      bridge.pollWhile station
        ((station.device session.device).pollsWithin patience bridge.world + session.link.budget)

/-- Let the writer write all that was relayed. -/
def drain (bridge : Bridge ω χ) : Bridge ω χ :=
  match bridge.session with
  | none => bridge
  | some session =>
      let (egress, world) := session.egress.drain (station.device session.device) bridge.world
      { bridge with session := some { session with egress }, world }

/-- Let reader and writer come to rest. -/
def settle (bridge : Bridge ω χ) : Bridge ω χ :=
  ((bridge.pump station).drain station).pump station

/-! ## Connecting and disconnecting -/

/-- End a session: its link, its writer and its listener. -/
def shutDown (bridge : Bridge ω χ) (session : Session) : Bridge ω χ :=
  let world := station.release session.device bridge.world
  let address := session.listener.bind (·.localAddress)
  { bridge with session := none, world := address.elim world (station.unlisten · world) }

/-- Make room for a new session. -/
def clear (bridge : Bridge ω χ) : Except ConnectFailure Unit × Bridge ω χ :=
  match bridge.session with
  | none => (.ok (), bridge)
  | some session =>
      if session.isLive then (.error ⟨.clearing, .alreadyConnected session.link.port⟩, bridge)
      else (.ok (), bridge.shutDown station session)

/-- Start the listener of a session: what it says, and the listener. -/
def startListener (settings : BridgeSettings) (world : ω) :
    Except Fault (Option (String × TcpServer)) × ω :=
  match settings.listenAddress with
  | none => (.ok none, world)
  | some address =>
      let (calls, world) := station.listen address world
      match (TcpServer.create "legacy" address).start calls with
      | (.ok message, listener) => (.ok (some (message, listener)), world)
      | (.error fault, _) => (.error fault, world)

/-- Begin a session over a device: hear the vehicle, prepare, and hand over what was heard. -/
def begin (bridge : Bridge ω χ) (device : Nat) (port : String) (baudRate : Nat) :
    Except ConnectFailure Connected × Bridge ω χ :=
  let options := ⟨bridge.settings.handshakeTimeout, bridge.settings.maxFailures⟩
  let transport := station.device device
  let fail (stage : ConnectStage) (fault : Fault) (world : ω) :
      Except ConnectFailure Connected × Bridge ω χ :=
    (.error ⟨stage, fault⟩, { bridge with world := station.release device world })
  match transport.handshake options.handshakeTimeout Decoder.empty bridge.world with
  | (.error fault, _, world) => fail .greeting fault world
  | (.ok greeting, decoder, world) =>
      match Link.ofGreeting transport port options greeting world with
      | (.error fault, world) => fail (.preparing greeting.vehicle) fault world
      | (.ok link, world) =>
          match startListener station bridge.settings world with
          | (.error fault, world) => fail (.preparing greeting.vehicle) fault world
          | (.ok listening, world) =>
              let session : Session :=
                { device, baudRate, egress := { link := link.startReader.2 }, intake := { decoder },
                  listener := listening.map (·.2) }
              match station.startWorkers world with
              | (.error fault, world) =>
                  (.error ⟨.preparing greeting.vehicle, fault⟩,
                    { bridge with world }.shutDown station session)
              | (.ok (), world) =>
                  (.ok ⟨port, greeting.vehicle, listening.map (·.1)⟩,
                    { bridge with session := some session, world }.receive station
                      (link.startReader.1.toOption.getD []))

/-- Begin a session over a device that is open. -/
def connectDevice (bridge : Bridge ω χ) (device : Nat) (port : String) :
    Except ConnectFailure Connected × Bridge ω χ :=
  match bridge.clear station with
  | (.error failure, bridge) => (.error failure, bridge)
  | (.ok (), bridge) => bridge.begin station device port 0

/-- Open a serial port and begin a session over it. -/
def connect (bridge : Bridge ω χ) (port : String) (baudRate : Nat) :
    Except ConnectFailure Connected × Bridge ω χ :=
  match bridge.clear station with
  | (.error failure, bridge) => (.error failure, bridge)
  | (.ok (), bridge) =>
      match station.openPort port baudRate bridge.world with
      | (.error fault, world) => (.error ⟨.opening, fault⟩, { bridge with world })
      | (.ok device, world) => { bridge with world }.begin station device port baudRate

/-- End the session, live or dead; the answer is what it counted. -/
def disconnect (bridge : Bridge ω χ) : Except Fault SessionCounters × Bridge ω χ :=
  match bridge.session with
  | none => (.error .notConnected, bridge)
  | some session => (.ok session.counters, bridge.shutDown station session)

/-! ## Parameters -/

/-- The surroundings in which a call about a parameter runs. -/
def surroundings : Surroundings (Bridge ω χ) where
  exchange bridge := (bridge.session.map (·.intake.exchange)).getD {}
  put exchange bridge :=
    { bridge with
      session := bridge.session.map fun session =>
        { session with intake := { session.intake with exchange } } }
  send frame bridge :=
    match bridge.session with
    | none => (.error .notConnected, bridge)
    | some session =>
        let (outcome, egress, world) :=
          session.egress.send (station.device session.device) frame bridge.world
        (outcome, { bridge with session := some { session with egress }, world })
  wait bridge := bridge.pump station

/-- Ask something of the vehicle of the live session. -/
def ask {α : Type} (bridge : Bridge ω χ)
    (call : Surroundings (Bridge ω χ) → Identity → Bridge ω χ → Except Fault α × Bridge ω χ) :
    Except Fault α × Bridge ω χ :=
  match bridge.live? with
  | none => (.error .notConnected, bridge)
  | some session => call (surroundings station) session.link.vehicle bridge

def getParameter (bridge : Bridge ω χ) (name : String) : Except Fault ParamValue × Bridge ω χ :=
  bridge.ask station fun around target => around.read target name

def setParameter (bridge : Bridge ω χ) (assignment : ParamAssignment) :
    Except Fault WriteResult × Bridge ω χ :=
  bridge.ask station fun around target =>
    around.write target assignment.name assignment.value assignment.type

def getParameters (bridge : Bridge ω χ) (names : List String) :
    Except Fault (BatchReport ParamValue) × Bridge ω χ :=
  bridge.ask station fun around target bridge =>
    let (report, bridge) := around.readBatch target names bridge
    (.ok report, bridge)

def setParameters (bridge : Bridge ω χ) (assignments : List ParamAssignment) :
    Except Fault (BatchReport WriteResult) × Bridge ω χ :=
  bridge.ask station fun around target bridge =>
    let (report, bridge) := around.writeBatch target assignments bridge
    (.ok report, bridge)

end Bridge

end MavBridge
