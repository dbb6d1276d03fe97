import MavBridge.Proofs.Bridge.Sessions
import MavBridge.Proofs.Telemetry

/-!
# The beginning and the end of a session

A bridge has no session, a live one or a dead one.  A live session refuses another; otherwise
connecting tears down what is there and leaves no session, or one that has only what its own
handshake has read.  Whatever asks something of a vehicle or relays to it needs a live session.
-/

namespace MavBridge

open MessageDecoder (answers after)

/-- A session that began with nothing, and has heard what its handshake read. -/
structure Session.Begun (session : Session) (decoder : Decoder) (replay : Bytes) : Prop where
  live : session.isLive = true
  held : session.link.Held
  /-- Nothing has been relayed. -/
  egress : session.egress = { link := session.link }
  /-- No call is registered, and none has been. -/
  exchange : session.intake.exchange = {}
  counters : session.counters =
    { bytesIn := replay.length
      framesIn := (drain replay).1.length
      decodeFailures := (answers decoder (drain replay).1).countP (·.isNone) }
  telemetry : ∃ times : List Nat, times.length = (drain replay).1.length ∧
    session.intake.telemetry = (TelemetryFeed.applyAll ⟨{}, {}⟩
      (updatesIn (answers decoder (drain replay).1) times)).telemetry

theorem Session.Begun.sound {session : Session} {decoder : Decoder} {replay : Bytes}
    (begun : session.Begun decoder replay) : session.Sound [] where
  held := begun.held
  isRunning := by rw [begun.egress]
  unrefused := by
    rw [begun.exchange]
    exact Exchange.unrefused_empty
  carried := by rw [begun.egress]; exact .slnil

theorem Exchange.resolveAll_empty (reports : List ParamReport) :
    Exchange.resolveAll {} reports = {} := by
  induction reports with
  | nil => rfl
  | cons report reports inductionHypothesis => exact inductionHypothesis

namespace Bridge

variable {ω χ : Type}

/-! ## States -/

inductive Phase where
  | idle
  | live
  /-- There is a session, and its link has died. -/
  | dead
  deriving DecidableEq, Repr

def phase (bridge : Bridge ω χ) : Phase :=
  match bridge.session with
  | none => .idle
  | some session => if session.isLive then .live else .dead

variable {station : Station ω χ} {bridge : Bridge ω χ} {relayed : List Bytes}

theorem live?_eq_some_iff {session : Session} :
    bridge.live? = some session ↔ bridge.session = some session ∧ session.isLive = true := by
  simp [live?, Option.filter_eq_some_iff]

theorem live?_eq_none_iff :
    bridge.live? = none ↔ ∀ session, bridge.session = some session → session.isLive = false := by
  simp [live?, Option.filter_eq_none_iff]

theorem isConnected_of_session {session : Session} (present : bridge.session = some session) :
    bridge.isConnected = session.isLive := by
  cases alive : session.isLive <;> simp [isConnected, live?, present, alive]

theorem phase_eq_idle_iff : bridge.phase = .idle ↔ bridge.session = none := by
  unfold phase
  cases bridge.session with
  | none => simp
  | some session => cases alive : session.isLive <;> simp [alive]

theorem phase_eq_live_iff : bridge.phase = .live ↔ bridge.live? ≠ none := by
  unfold phase live?
  cases bridge.session with
  | none => simp
  | some session => cases alive : session.isLive <;> simp [alive]

/-- A bridge whose session has been torn down, if it had one. -/
def cleared (station : Station ω χ) (bridge : Bridge ω χ) : Bridge ω χ :=
  bridge.session.elim bridge (bridge.shutDown station)

theorem session_cleared (station : Station ω χ) (bridge : Bridge ω χ) :
    (bridge.cleared station).session = none := by
  unfold cleared
  cases present : bridge.session with
  | none => exact present
  | some session => rfl

theorem settings_cleared (station : Station ω χ) (bridge : Bridge ω χ) :
    (bridge.cleared station).settings = bridge.settings := by
  unfold cleared
  cases bridge.session <;> rfl

theorem clear_cleared (station : Station ω χ) (bridge : Bridge ω χ) :
    (bridge.cleared station).clear station = (.ok (), bridge.cleared station) := by
  unfold clear
  rw [session_cleared]

theorem clear_of_live {session : Session} (live : bridge.live? = some session) :
    bridge.clear station = (.error ⟨.clearing, .alreadyConnected session.link.port⟩, bridge) := by
  rcases live?_eq_some_iff.mp live with ⟨present, alive⟩
  simp [clear, present, alive]

theorem clear_of_not_live (vacant : bridge.live? = none) :
    bridge.clear station = (.ok (), bridge.cleared station) := by
  unfold clear cleared
  split
  next absent => simp [absent]
  next session present =>
    simp [live?_eq_none_iff.mp vacant session present, present]

/-! ## Connecting -/

/-- What comes of connecting, after what came of opening a device: no session, or one that has just
begun over the device with a handshake of its own. -/
inductive Attempt (station : Station ω χ) (settings : BridgeSettings) :
    Except Fault Nat × ω → Except ConnectFailure Connected × Bridge ω χ → Prop where
  | unopened {fault : Fault} {world : ω} {after : Bridge ω χ} :
      after.session = none →
      Attempt station settings (.error fault, world) (.error ⟨.opening, fault⟩, after)
  | failed {device : Nat} {world : ω} {failure : ConnectFailure} {after : Bridge ω χ} :
      after.session = none → failure.stage ≠ .clearing →
      Attempt station settings (.ok device, world) (.error failure, after)
  | begun {device : Nat} {world heard : ω} {greeting : Greeting} {decoder : Decoder}
      {connected : Connected} {session : Session} {after : Bridge ω χ} :
      (station.device device).handshake settings.handshakeTimeout Decoder.empty world =
        (.ok greeting, decoder, heard) →
      after.session = some session → session.device = device →
      session.link.vehicle = greeting.vehicle → session.Begun decoder greeting.replay →
      Attempt station settings (.ok device, world) (.ok connected, after)

/-- A session that knows nothing yet becomes one that has heard what its handshake read. -/
theorem begun_receive (station : Station ω χ) {session : Session} {decoder : Decoder}
    {replay : Bytes} (present : bridge.session = some session) (live : session.isLive = true)
    (held : session.link.Held) (unused : session.link.bytesWritten = 0)
    (egress : session.egress = { link := session.link })
    (intake : session.intake = { decoder }) :
    ∃ later, (bridge.receive station replay).session = some later ∧
      later.device = session.device ∧ later.link = session.link ∧ later.Begun decoder replay := by
  have heard := Pipeline.receive_stream station.outlets station.now decoder {} session.listener
    bridge.hub bridge.router bridge.world [replay]
  simp only [List.flatten_singleton, List.foldl_cons, List.foldl_nil] at heard
  rcases heard with ⟨-, -, bytes, frames, failures, told, resolved, -, -⟩
  unfold receive
  rw [present]
  dsimp only
  rw [intake]
  refine ⟨_, rfl, rfl, rfl, ?_⟩
  constructor
  case live => exact live
  case held => exact held
  case egress => exact egress
  case exchange => exact resolved.trans (Exchange.resolveAll_empty _)
  case counters =>
    have written : session.link.bytesWritten = 0 := unused
    simp only [Session.counters, Session.link] at written ⊢
    rw [bytes, frames, failures, written, egress]
  case telemetry =>
    have kept := (congrArg TelemetryFeed.telemetry told).trans
      (TelemetryFeed.telemetry_applyAll {} bridge.hub {} _)
    refine ⟨_, ?_, kept⟩
    exact Router.length_readings ..

theorem begin_attempt (vacant : bridge.session = none) (device : Nat) (port : String)
    (baudRate : Nat) :
    Attempt station bridge.settings (.ok device, bridge.world)
      (bridge.begin station device port baudRate) := by
  unfold Bridge.begin
  dsimp only
  split
  next fault decoder world silent => exact .failed vacant (by simp)
  next greeting decoder world greeted =>
    split
    next fault world unlinked => exact .failed vacant (by simp)
    next link world linked =>
      split
      next fault world unheard => exact .failed vacant (by simp)
      next listening world listened =>
        split
        next fault world unstarted => exact .failed rfl (by simp)
        next world started =>
          obtain rfl := Link.eq_of_ofGreeting linked
          let fresh : Session :=
            { device
              baudRate
              egress :=
                { link :=
                  { port
                    vehicle := greeting.vehicle
                    maxFailures := bridge.settings.maxFailures
                    reader := .reading 0 } }
              intake := { decoder }
              listener := listening.map (·.2) }
          have there : ({ bridge with session := some fresh, world } : Bridge ω χ).session =
              some fresh := rfl
          have held : fresh.link.Held := ⟨rfl, fun dead => by cases dead⟩
          rcases begun_receive station there rfl held rfl rfl rfl with
            ⟨session, present, mine, sameLink, begun⟩
          exact .begun greeted present mine (congrArg Link.vehicle sameLink) begun

theorem connectDevice_attempt (vacant : bridge.live? = none) (device : Nat) (port : String) :
    Attempt station bridge.settings (.ok device, (bridge.cleared station).world)
      (bridge.connectDevice station device port) := by
  unfold connectDevice
  rw [clear_of_not_live vacant, ← settings_cleared station bridge]
  exact begin_attempt (session_cleared station bridge) device port 0

theorem connect_attempt (vacant : bridge.live? = none) (port : String) (baudRate : Nat) :
    Attempt station bridge.settings
      (station.openPort port baudRate (bridge.cleared station).world)
      (bridge.connect station port baudRate) := by
  unfold connect
  rw [clear_of_not_live vacant, ← settings_cleared station bridge]
  dsimp only
  split
  next fault world unopened =>
    rw [unopened]
    exact .unopened (session_cleared station bridge)
  next device world opened =>
    rw [opened]
    have idle : ({ bridge.cleared station with world } : Bridge ω χ).session = none :=
      session_cleared station bridge
    exact begin_attempt idle device port baudRate

theorem connectDevice_of_live {session : Session} (live : bridge.live? = some session)
    (device : Nat) (port : String) :
    bridge.connectDevice station device port =
      (.error ⟨.clearing, .alreadyConnected session.link.port⟩, bridge) := by
  rw [connectDevice, clear_of_live live]

theorem connect_of_live {session : Session} (live : bridge.live? = some session) (port : String)
    (baudRate : Nat) :
    bridge.connect station port baudRate =
      (.error ⟨.clearing, .alreadyConnected session.link.port⟩, bridge) := by
  rw [connect, clear_of_live live]

/-- The end of a session is told with its counters. -/
theorem disconnect_eq (station : Station ω χ) (bridge : Bridge ω χ) :
    bridge.disconnect station =
      (match bridge.session with
        | none => .error .notConnected
        | some session => .ok session.counters,
      bridge.cleared station) := by
  unfold disconnect cleared
  cases bridge.session <;> rfl

/-! ## Asking and relaying -/

theorem telemetry_eq (bridge : Bridge ω χ) :
    bridge.telemetry =
      match bridge.live? with
      | none => .error .notConnected
      | some session => .ok session.intake.telemetry := by
  unfold telemetry
  cases bridge.live? <;> rfl

theorem ask_of_not_live {α : Type} (vacant : bridge.live? = none)
    (call : Surroundings (Bridge ω χ) → Identity → Bridge ω χ → Except Fault α × Bridge ω χ) :
    bridge.ask station call = (.error .notConnected, bridge) := by
  simp [ask, vacant]

theorem ask_of_live {α : Type} {session : Session} (live : bridge.live? = some session)
    (call : Surroundings (Bridge ω χ) → Identity → Bridge ω χ → Except Fault α × Bridge ω χ) :
    bridge.ask station call = call (surroundings station) session.link.vehicle bridge := by
  simp [ask, live]

/-- A session takes a chunk when it is live; without a live one nothing happens. -/
theorem relay_of_not_live (vacant : bridge.live? = none) (chunk : Bytes) :
    bridge.relay chunk = bridge := by
  cases bridge with
  | mk settings router hub session world =>
      cases session with
      | none => rfl
      | some session =>
          have dead := live?_eq_none_iff.mp vacant session rfl
          simp only [Session.isLive, Session.link] at dead
          simp [relay, Egress.offer, dead]

end Bridge

end MavBridge
