import MavBridge.Bytes
import MavBridge.Fault
import MavBridge.Router.Status

/-!
The registry of outputs.

`Outlets` says how channels behave, where the list of outputs is kept, and who is told of a change;
all of it may depend on the world around, and change it. A registered channel is held by its entry.
A channel that an update or a removal has taken out of the registry is kept in `retired`, the newest
last.

The operations come in pairs. The section of an operation does the work, while nothing else can; the
operation itself tells of the change afterwards.
-/

namespace MavBridge

/-- The behaviour of channels, and what surrounds the router. -/
structure Outlets (ω χ : Type) where
  create : OutputConfig → ω → Except Fault χ × ω
  start : χ → ω → Except Fault String × χ × ω
  stop : χ → ω → χ × ω
  /-- Send a frame; the answer is how many peers took it. -/
  send : Bytes → χ → ω → Except Fault Nat × χ × ω
  isRunning : χ → Bool
  peers : χ → Nat
  localAddress : χ → Option String
  load : ω → Except Fault (List OutputConfig)
  save : List OutputConfig → ω → Except Fault Unit × ω
  /-- Tell of a change. -/
  announce : RouterStatus → ω → ω

namespace Outlets

variable {ω χ τ : Type}

/-- The outlets of a larger world, of which the smaller one is a part. -/
def within (outlets : Outlets ω χ) (part : τ → ω) (put : ω → τ → τ) : Outlets τ χ where
  create config world :=
    let (channel, inner) := outlets.create config (part world)
    (channel, put inner world)
  start channel world :=
    let (outcome, channel, inner) := outlets.start channel (part world)
    (outcome, channel, put inner world)
  stop channel world :=
    let (channel, inner) := outlets.stop channel (part world)
    (channel, put inner world)
  send frame channel world :=
    let (outcome, channel, inner) := outlets.send frame channel (part world)
    (outcome, channel, put inner world)
  isRunning := outlets.isRunning
  peers := outlets.peers
  localAddress := outlets.localAddress
  load world := outlets.load (part world)
  save outputs world :=
    let (outcome, inner) := outlets.save outputs (part world)
    (outcome, put inner world)
  announce status world := put (outlets.announce status (part world)) world

/-- The outlets of a world of two parts, of which the second is told of changes. -/
def beside (outlets : Outlets ω χ) (tell : RouterStatus → τ → τ) : Outlets (ω × τ) χ :=
  { outlets.within Prod.fst fun inner world => (inner, world.2) with
    announce := fun status world => (outlets.announce status world.1, tell status world.2) }

end Outlets

/-- A registered output. -/
structure RouterEntry (χ : Type) where
  config : OutputConfig
  channel : χ
  stats : OutputStats := {}
  deriving Repr

/-- The registered outputs, and the channels that no longer are. -/
structure Router (χ : Type) where
  entries : List (RouterEntry χ) := []
  retired : List (String × χ) := []
  deriving Repr

namespace Router

variable {ω χ : Type}

def empty : Router χ := {}

def find? (router : Router χ) (id : String) : Option (RouterEntry χ) :=
  router.entries.find? fun entry => entry.config.id == id

/-- The newest channel that was built for an output. -/
def channel? (router : Router χ) (id : String) : Option χ :=
  match router.find? id with
  | some entry => some entry.channel
  | none => (router.retired.reverse.find? fun channel => channel.1 == id).map (·.2)

def configs (router : Router χ) : List OutputConfig := router.entries.map (·.config)

/-- Change the entry of an output. -/
def alter (router : Router χ) (id : String) (change : RouterEntry χ → RouterEntry χ) : Router χ :=
  { router with
    entries := router.entries.map fun entry =>
      if entry.config.id = id then change entry else entry }

def setChannel (router : Router χ) (id : String) (channel : χ) : Router χ :=
  router.alter id fun entry => { entry with channel }

/-- Add an output at the end. -/
def register (router : Router χ) (config : OutputConfig) (channel : χ) : Router χ :=
  ⟨router.entries ++ [⟨config, channel, {}⟩], router.retired⟩

/-- Take a channel out of service. -/
def retire (router : Router χ) (id : String) (channel : χ) : Router χ :=
  { router with retired := router.retired ++ [(id, channel)] }

variable (outlets : Outlets ω χ)

def status (router : Router χ) : RouterStatus :=
  ⟨router.entries.map fun entry =>
    { config := entry.config
      isRunning := outlets.isRunning entry.channel
      clients := outlets.peers entry.channel
      localAddress := outlets.localAddress entry.channel
      stats := entry.stats }⟩

/-- Keep the list of outputs; that it cannot be kept stops nothing. -/
def persist (router : Router χ) (world : ω) : ω := (outlets.save router.configs world).2

/-- Tell of a change. -/
def announce (router : Router χ) (world : ω) : ω := outlets.announce (router.status outlets) world

/-- Start the channel of a registered output. -/
def startChannel (router : Router χ) (id : String) (channel : χ) (world : ω) :
    Except Fault String × Router χ × ω :=
  let (outcome, channel, world) := outlets.start channel world
  (outcome, router.setChannel id channel, world)

/-- Stop the channel of a registered output. -/
def stopChannel (router : Router χ) (id : String) (channel : χ) (world : ω) : Router χ × ω :=
  let (channel, world) := outlets.stop channel world
  (router.setChannel id channel, world)

/-- The start of an output that starts itself, as a note to what was done before. -/
def startNote (router : Router χ) (config : OutputConfig) (channel : χ) (world : ω) :
    String × Router χ × ω :=
  if config.startsItself then
    match router.startChannel outlets config.id channel world with
    | (.ok message, router, world) => (": " ++ message, router, world)
    | (.error fault, router, world) => (", but start failed: " ++ fault.message, router, world)
  else ("", router, world)

/-- Register an output and start it if it starts itself. -/
def addSection (router : Router χ) (config : OutputConfig) (world : ω) :
    Except Fault String × Router χ × ω :=
  if config.kind = .unsupported then (.error (.unsupportedOutput config.id), router, world)
  else if (router.find? config.id).isSome then
    (.error (.duplicateOutput config.id), router, world)
  else
    match outlets.create config world with
    | (.error fault, world) => (.error fault, router, world)
    | (.ok channel, world) =>
        let router := router.register config channel
        let world := router.persist outlets world
        let (note, router, world) := router.startNote outlets config channel world
        (.ok ("Output '" ++ config.id ++ "' added" ++ note), router, world)

/-- Take an output out of the registry and stop it. -/
def removeSection (router : Router χ) (id : String) (world : ω) :
    Except Fault String × Router χ × ω :=
  match router.find? id with
  | none => (.error (.outputNotFound id), router, world)
  | some entry =>
      let router := { router with
        entries := router.entries.filter fun other => other.config.id != id }
      let (channel, world) := outlets.stop entry.channel world
      let router := router.retire id channel
      (.ok ("Output '" ++ id ++ "' removed"), router, router.persist outlets world)

/-- The restart of an output that was updated while it ran, as a note to the update. -/
def restartNote (router : Router χ) (config : OutputConfig) (channel : χ) (wasRunning : Bool)
    (world : ω) : String × Router χ × ω :=
  if wasRunning ∧ config.enabled then
    match router.startChannel outlets config.id channel world with
    | (.ok _, router, world) => (" and restarted", router, world)
    | (.error fault, router, world) => (", but restart failed: " ++ fault.message, router, world)
  else ("", router, world)

/-- Put a new channel in the place of a registered one. -/
def replace (router : Router χ) (old : RouterEntry χ) (config : OutputConfig) (channel : χ)
    (world : ω) : Router χ × ω :=
  let (stopped, world) :=
    if outlets.isRunning old.channel then outlets.stop old.channel world else (old.channel, world)
  let router := (router.alter config.id fun entry => { entry with config, channel }).retire
    config.id stopped
  (router, router.persist outlets world)

/-- Change the configuration of an output; one that ran runs again if it may. -/
def updateSection (router : Router χ) (id : String) (change : OutputUpdate) (world : ω) :
    Except Fault String × Router χ × ω :=
  if change.kind = some .unsupported then (.error (.unsupportedOutput id), router, world)
  else
    match router.find? id with
    | none => (.error (.outputNotFound id), router, world)
    | some old =>
        let config := old.config.update change
        match outlets.create config world with
        | (.error fault, world) => (.error fault, router, world)
        | (.ok channel, world) =>
            let (router, world) := router.replace outlets old config channel world
            let (note, router, world) :=
              router.restartNote outlets config channel (outlets.isRunning old.channel) world
            (.ok ("Output '" ++ id ++ "' updated" ++ note), router, world)

def startSection (router : Router χ) (id : String) (world : ω) :
    Except Fault String × Router χ × ω :=
  match router.find? id with
  | none => (.error (.outputNotFound id), router, world)
  | some entry =>
      if outlets.isRunning entry.channel then (.error (.alreadyRunning id), router, world)
      else router.startChannel outlets id entry.channel world

def stopSection (router : Router χ) (id : String) (world : ω) :
    Except Fault String × Router χ × ω :=
  match router.find? id with
  | none => (.error (.outputNotFound id), router, world)
  | some entry =>
      if outlets.isRunning entry.channel then
        let (router, world) := router.stopChannel outlets id entry.channel world
        (.ok ("Output '" ++ id ++ "' stopped"), router, world)
      else (.error (.notRunning id), router, world)

/-- Stop an output, running or not, and start it. -/
def restartSection (router : Router χ) (id : String) (world : ω) :
    Except Fault String × Router χ × ω :=
  match router.find? id with
  | none => (.error (.outputNotFound id), router, world)
  | some entry =>
      let (channel, world) := outlets.stop entry.channel world
      (router.setChannel id channel).startChannel outlets id channel world

/-- The end of an operation: a success is told. -/
def conclude (done : Except Fault String × Router χ × ω) : Except Fault String × Router χ × ω :=
  match done with
  | (.ok message, router, world) => (.ok message, router, router.announce outlets world)
  | (.error fault, router, world) => (.error fault, router, world)

def add (router : Router χ) (config : OutputConfig) (world : ω) :
    Except Fault String × Router χ × ω :=
  conclude outlets (router.addSection outlets config world)

def remove (router : Router χ) (id : String) (world : ω) : Except Fault String × Router χ × ω :=
  conclude outlets (router.removeSection outlets id world)

def update (router : Router χ) (id : String) (change : OutputUpdate) (world : ω) :
    Except Fault String × Router χ × ω :=
  conclude outlets (router.updateSection outlets id change world)

def start (router : Router χ) (id : String) (world : ω) : Except Fault String × Router χ × ω :=
  conclude outlets (router.startSection outlets id world)

def stop (router : Router χ) (id : String) (world : ω) : Except Fault String × Router χ × ω :=
  conclude outlets (router.stopSection outlets id world)

/-- Restart an output; this is told even if the start fails. -/
def restart (router : Router χ) (id : String) (world : ω) : Except Fault String × Router χ × ω :=
  match router.find? id with
  | none => (.error (.outputNotFound id), router, world)
  | some _ =>
      let (outcome, router, world) := router.restartSection outlets id world
      (outcome, router, router.announce outlets world)

/-- Stop the running channels of some entries, one after the other. -/
def stopEntries : List (RouterEntry χ) → ω → List (RouterEntry χ) × ω
  | [], world => ([], world)
  | entry :: rest, world =>
      let (channel, world) :=
        if outlets.isRunning entry.channel then outlets.stop entry.channel world
        else (entry.channel, world)
      let (entries, world) := stopEntries rest world
      ({ entry with channel } :: entries, world)

/-- Stop every output; what is kept stays as it is. -/
def stopAll (router : Router χ) (world : ω) : Router χ × ω :=
  let (entries, world) := stopEntries outlets router.entries world
  ({ router with entries }, world)

/-- Send a frame to the running ones of some entries, one after the other. -/
def sendEntries (frame : Bytes) : List (RouterEntry χ) → ω → List (RouterEntry χ) × ω
  | [], world => ([], world)
  | entry :: rest, world =>
      if outlets.isRunning entry.channel then
        let (outcome, channel, world) := outlets.send frame entry.channel world
        let (entries, world) := sendEntries frame rest world
        ({ entry with channel, stats := entry.stats.recordSend outcome } :: entries, world)
      else
        let (entries, world) := sendEntries frame rest world
        (entry :: entries, world)

/-- Send a frame to every running output; one that fails does not keep it from the others. -/
def forward (router : Router χ) (frame : Bytes) (world : ω) : Router χ × ω :=
  let (entries, world) := sendEntries outlets frame router.entries world
  ({ router with entries }, world)

/-- The channel of an output, if there is one, says that its peers have changed. -/
def peersChanged (router : Router χ) (id : String) (world : ω) : ω :=
  if (router.channel? id).isSome then router.announce outlets world else world

/-- A chunk has come in from an output. -/
def receive (router : Router χ) (id : String) : Router χ :=
  router.alter id fun entry => { entry with stats := entry.stats.recordReceived }

end Router

end MavBridge
