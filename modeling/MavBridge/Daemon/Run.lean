import MavBridge.Daemon.Host
import MavBridge.Daemon.LogFilter
import MavBridge.Daemon.Options
import MavBridge.Router.Load
import MavBridge.Settings.File

/-!
A run of the program: it reads its options and settings, restores the outputs, connects to the
vehicle if it is to, and waits to be interrupted; then it disconnects and stops the outputs.
-/

namespace MavBridge.Daemon

/-! ## Settings -/

def defaultConfig : String := "/etc/setu-io.toml"

def hasFile (files : FileSystem) (path : String) : Bool :=
  let names := FilePath.ofText path
  path != "" && (files.check names).isOk && (files.node? names.place).isSome

/-- The settings of a file that is there, with what the options say instead. -/
def settingsFor (options : Options) (files : FileSystem) : Except Fault Settings := do
  let path := options.config.getD defaultConfig
  let settings ← if hasFile files path then Settings.load files (FilePath.ofText path) else pure {}
  let serial := settings.serial
  let serial := match options.port with
    | some port => { serial with port, autoConnect := true }
    | none => serial
  let serial := { serial with baudRate := options.baudRate.getD serial.baudRate }
  let legacy := { settings.legacy with enabled := settings.legacy.enabled || options.legacy }
  return { settings with serial, legacy }

/-! ## What is told -/

def program : String := "setu_io"

def note (level : LogLevel) (module message : String) : LogEntry :=
  ⟨level, program ++ module, message⟩

def announceSettings (options : Options) (files : FileSystem) : LogEntry :=
  let path := options.config.getD defaultConfig
  if hasFile files path then note .info "" ("Using config: " ++ path)
  else note .warn "" ("Config " ++ path ++ " not found, using defaults")

def outputModule : NetworkOutput → String
  | .server _ => "::output::tcp_server"
  | .client _ => "::output::tcp_client"
  | .datagram _ => "::output::udp"

def outputNote (level : LogLevel) (id : String) (output : NetworkOutput) (text : String) :
    LogEntry :=
  note level (outputModule output) ("[" ++ id ++ "] " ++ text)

/-- What an output that has started tells. -/
def startNote (id : String) (output : NetworkOutput) (message : String) : LogEntry :=
  outputNote .info id output (match output with
    | .datagram { socket := some socket, .. } =>
        "UDP output " ++ socket.localAddress.text ++ " -> " ++ socket.remote.text
    | _ => message)

/-- What an output tells while it is stopped. -/
def stopNotes (id : String) (output : NetworkOutput) : List LogEntry :=
  if output.isRunning then
    match output with
    | .server _ =>
        [outputNote .debug id output "Accept loop exiting",
          outputNote .info id output "TCP server stopped"]
    | .client _ => [outputNote .info id output "TCP client stopped"]
    | .datagram _ => [outputNote .info id output "UDP output stopped"]
  else []

def loadNotes (router : Router NetworkOutput) : LoadNote → List LogEntry
  | .unsupported id => skipped id "unsupported type"
  | .duplicate id => skipped id "duplicate id"
  | .unbuildable id fault => skipped id fault.message
  | .registered _ => []
  | .started config message =>
      (router.channel? config.id).toList.map fun output => startNote config.id output message
  | .notStarted config fault =>
      [note .warn "::router"
        ("Persisted output '" ++ config.id ++ "' failed to start: " ++ fault.message)]
where
  skipped (id why : String) : List LogEntry :=
    [note .warn "::router" ("Skipping persisted output '" ++ id ++ "': " ++ why)]

/-- What is told about the entries of the file that are no configurations. -/
def malformedNotes (files : FileSystem) (path : String) : List LogEntry :=
  match OutputFile.entries files (FilePath.ofText path) with
  | .error _ => []
  | .ok entries =>
      (entries.filter (·.isNone)).map fun _ =>
        note .warn "::store" ("Skipping malformed output entry in \"" ++ path ++ "\"")

/-- What the decoder tells about a frame that it rejects. -/
def rejectionNotes (frame : Bytes) : List LogEntry :=
  match judge frame, Header.read? frame with
  | .rejected, some header =>
      [note .trace "::protocol::decoder"
        ("Rejected msg " ++ toString header.messageId ++ " from "
          ++ toString header.systemId.toNat ++ ":" ++ toString header.componentId.toNat)]
  | _, _ => []

/-- What is told while a vehicle is waited for among these bytes. -/
def greetingNotes (timeout : Duration) (incoming : Bytes) : List LogEntry :=
  if timeout.nanoseconds = 0 then []
  else
    ((drain incoming).1.takeWhile fun frame =>
      ((judge frame).message?.bind Decoded.vehicle?).isNone).flatMap rejectionNotes

/-- What a session tells about a frame of its vehicle. -/
def frameNotes (router : Router NetworkOutput) (network : Network) (frame : Bytes) :
    List LogEntry :=
  rejectionNotes frame ++ unsolicited ++ router.entries.flatMap fun entry =>
    if entry.channel.isRunning then
      match entry.channel.send frame network with
      | (.error fault, _) =>
          [note .debug "::router" ("Send to '" ++ entry.config.id ++ "' failed: " ++ fault.message)]
      | (.ok _, _) => []
    else []
where
  unsolicited : List LogEntry :=
    match judge frame with
    | .message ⟨_, _, _, .paramValue report⟩ =>
        [note .debug "::bridge" ("Unsolicited PARAM_VALUE " ++ report.name)]
    | _ => []

/-- What is told about an attempt to connect; `greeting` is told while the vehicle is waited for. -/
def connectNotes (port : String) (baudRate : Nat) (greeting : List LogEntry) :
    Except ConnectFailure Connected → List LogEntry
  | .ok connected =>
      opened :: greeting ++ [heard connected.vehicle]
        ++ (connected.listening.toList.map fun text => note .info "::output::tcp_server"
          ("[legacy] " ++ text))
        ++ [note .info "::bridge" connected.message, note .info "" connected.message]
  | .error ⟨stage, fault⟩ =>
      (match stage with
        | .clearing => []
        | .opening => []
        | .greeting =>
            opened :: greeting
              ++ [note .warn "::link" ("Handshake on " ++ port ++ " failed: " ++ fault.message)]
        | .preparing vehicle => opened :: greeting ++ [heard vehicle])
      ++ [note .error "" ("Connect to " ++ port ++ " failed: " ++ fault.message)]
where
  opened : LogEntry :=
    note .info "::transport::serial"
      ("Opened serial port: " ++ port ++ " at " ++ toString baudRate ++ " baud")
  heard (vehicle : Identity) : LogEntry :=
    note .info "::link" ("Heartbeat from system " ++ toString vehicle.systemId.toNat
      ++ " component " ++ toString vehicle.componentId.toNat ++ " on " ++ port)

/-- What is told while a session ends. -/
def disconnectNotes (session : Session) : List LogEntry :=
  let port := session.link.port
  let counters := session.counters
  [note .debug "::link" ("Serial reader for " ++ port ++ " exiting"),
    note .info "::link" ("Serial link " ++ port ++ " closed")]
  ++ (session.listener.toList.flatMap fun listener => stopNotes "legacy" (.server listener))
  ++ [note .info "::bridge"
    ("Disconnected from " ++ port ++ ": " ++ toString counters.bytesIn ++ " bytes / "
      ++ toString counters.framesIn ++ " frames in, " ++ toString counters.decodeFailures
      ++ " decode failures, " ++ toString counters.bytesOut ++ " bytes out")]

/-! ## Running -/

/-- Restore the outputs: what is told, and the bridge. -/
def restore (settings : Settings) (host : Host) : List LogEntry × Bridge Host NetworkOutput :=
  let path := settings.router.outputsFile
  let store := .file (FilePath.ofText path) host.files
  let (notes, router, world) :=
    Router.load Host.station.outlets { host with machine := { host.machine with store } }
  let told := match notes with
    | .error fault =>
        [note .warn "::router" ("Failed to load router outputs: " ++ fault.message)]
    | .ok notes =>
        malformedNotes host.files path ++ notes.flatMap (loadNotes router)
          ++ [note .info "::router"
            ("Router loaded " ++ toString router.entries.length ++ " output(s)")]
  let bridgeSettings : BridgeSettings :=
    { handshakeTimeout := settings.handshakeTimeout
      maxFailures := settings.serial.maxFailures.toNat
      listenAddress := settings.legacyListener }
  (told, { settings := bridgeSettings, router, world })

/-- Everything up to waiting, and what the vehicle has sent so far: what is told, and the bridge. -/
def startUp (options : Options) (settings : Settings) (host : Host) :
    List LogEntry × Bridge Host NetworkOutput :=
  let (restored, bridge) := restore settings host
  let port := settings.serial.port
  let baudRate := settings.serial.baudRate.toNat
  let incoming := host.terminal.incoming
  let greeting := greetingNotes settings.handshakeTimeout incoming
  let (connected, bridge) :=
    if settings.serial.autoConnect then
      let (outcome, bridge) := bridge.connect Host.station port baudRate
      (connectNotes port baudRate greeting outcome, bridge)
    else ([], bridge)
  let handled :=
    if bridge.session.isSome then
      (drain incoming).1.flatMap (frameNotes bridge.router bridge.world.machine.network)
    else []
  ([note .info "" "SetuIO v0.1.0 starting...", announceSettings options host.files] ++ restored
    ++ connected ++ [note .info "" "SetuIO running. Press Ctrl-C to stop."] ++ handled,
    bridge.settle Host.station)

/-- Everything after an interruption: what is told. -/
def shutDown (bridge : Bridge Host NetworkOutput) : List LogEntry :=
  [note .info "" "Received shutdown signal", note .info "" "Shutting down..."]
    ++ bridge.session.toList.flatMap disconnectNotes
    ++ (bridge.router.entries.flatMap fun entry => stopNotes entry.config.id entry.channel)
    ++ [note .info "" "SetuIO stopped"]

/-- What a run shows: its exit code, its messages, and the first other line on either stream. -/
structure Report where
  exitCode : Nat := 0
  log : List LogEntry := []
  errorLine : Option String := none
  outputLine : Option String := none
  deriving DecidableEq, Repr

/-- What comes of the command line and the settings, before anything is told. -/
def prepare (words : List String) (files : FileSystem) :
    Except Report (Options × Settings × List String × LogFilter) :=
  match Options.read words with
  | .error ending =>
      .error (if ending.isAnswer then { outputLine := some ending.message }
        else { exitCode := 2, errorLine := some ending.message })
  | .ok options =>
      match settingsFor options files with
      | .error fault => .error { exitCode := 1, errorLine := some ("Error: " ++ fault.name) }
      | .ok settings => .ok (options, settings, LogFilter.read settings.logging.level)

/-- A run that is interrupted once it waits. -/
def run (words : List String) (host : Host) : Report :=
  match prepare words host.files with
  | .error report => report
  | .ok (options, settings, warnings, filter) =>
      let (told, bridge) := startUp options settings host
      { log := (told ++ shutDown bridge).filter filter.admits
        errorLine := warnings.head? }

end MavBridge.Daemon
