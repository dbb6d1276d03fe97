import MavBridge.Bridge.Bench
import MavBridge.Proofs.Bridge.Connecting
import MavBridge.Proofs.Link.Replay

/-!
# The life of sessions

A bridge is asked this and that, its threads act, and the world around it changes, all in any order.
Connecting and disconnecting are what begins and ends a session; between them a link may die by
itself, and nothing brings it back.  What waits to be written to a vehicle was relayed to the
session with it, while that session was live.
-/

namespace MavBridge

open MessageDecoder (answers)

namespace Bridge

variable {ω χ : Type} {station : Station ω χ} {bridge : Bridge ω χ} {relayed : List Bytes}

/-! ## Operations -/

/-- What is asked of a bridge, what its threads do, and what happens around it. -/
inductive Operation (ω χ : Type) where
  | connectDevice (device : Nat) (port : String)
  | connect (port : String) (baudRate : Nat)
  | disconnect
  | getParameter (name : String)
  | setParameter (assignment : ParamAssignment)
  | getParameters (names : List String)
  | setParameters (assignments : List ParamAssignment)
  | relay (chunk : Bytes)
  /-- The reader polls once; the link dies when this has failed too often. -/
  | poll
  | takeChunk
  | writeChunk
  /-- The session's own listener, or one of its clients, takes a step. -/
  | listener (step : TcpServer.Step)
  /-- Outputs, subscribers and devices do what they do. -/
  | elsewhere (router : Router χ) (hub : EventHub) (world : ω)

namespace Operation

/-- It may begin or end a session. -/
def isBoundary : Operation ω χ → Bool
  | connectDevice _ _ | connect _ _ | disconnect => true
  | _ => false

def changeSession (bridge : Bridge ω χ) (change : Session → Session) : Bridge ω χ :=
  { bridge with session := bridge.session.map change }

def perform (station : Station ω χ) (bridge : Bridge ω χ) : Operation ω χ → Bridge ω χ
  | connectDevice device port => (bridge.connectDevice station device port).2
  | connect port baudRate => (bridge.connect station port baudRate).2
  | disconnect => (bridge.disconnect station).2
  | getParameter name => (bridge.getParameter station name).2
  | setParameter assignment => (bridge.setParameter station assignment).2
  | getParameters names => (bridge.getParameters station names).2
  | setParameters assignments => (bridge.setParameters station assignments).2
  | relay chunk => bridge.relay chunk
  | poll => (bridge.poll station).2
  | takeChunk =>
      changeSession bridge fun session => { session with egress := session.egress.take }
  | writeChunk =>
      match bridge.session with
      | none => bridge
      | some session =>
          let (egress, world) :=
            session.egress.writeHeld (station.device session.device) bridge.world
          { bridge with session := some { session with egress }, world }
  | listener step =>
      changeSession bridge fun session =>
        { session with listener := session.listener.map (·.step step) }
  | elsewhere router hub world => { bridge with router, hub, world }

/-- The chunks that a session was asked to relay while it was live, and an operation more: a chunk
is asked of the live session, and a new session has been asked nothing. -/
def relays (bridge : Bridge ω χ) (relayed : List Bytes) : Operation ω χ → List Bytes
  | relay chunk => if bridge.isConnected then relayed ++ [chunk] else relayed
  | connectDevice _ _ | connect _ _ => if bridge.isConnected then relayed else []
  | disconnect => []
  | _ => relayed

end Operation

/-- The bridge after some operations, and what its session was asked to relay while it was live. -/
def track (station : Station ω χ) (start : Bridge ω χ × List Bytes)
    (operations : List (Operation ω χ)) : Bridge ω χ × List Bytes :=
  operations.foldl
    (fun reached operation =>
      (operation.perform station reached.1, operation.relays reached.1 reached.2))
    start

variable {operation : Operation ω χ}

/-- The session, if there is one, is sound. -/
def Ready (relayed : List Bytes) (bridge : Bridge ω χ) : Prop :=
  ∀ session, bridge.session = some session → session.Sound relayed

theorem HasSession.ask {holds : Session → Prop} (has : bridge.HasSession holds) {α : Type}
    {call : Surroundings (Bridge ω χ) → Identity → Bridge ω χ → Except Fault α × Bridge ω χ}
    (keeps : ∀ target, (call (surroundings station) target bridge).2.HasSession holds) :
    (bridge.ask station call).2.HasSession holds := by
  unfold Bridge.ask
  split
  next => exact has
  next session live => exact keeps session.link.vehicle

/-- Between its boundaries a session stays, and stays sound. -/
theorem Holds.perform (faults : station.FaultsOfDevices) (holds : bridge.Holds relayed)
    (inside : operation.isBoundary = false) :
    (operation.perform station bridge).Holds (operation.relays bridge relayed) := by
  have sustains : (surroundings station).Sustains (Holds relayed) := sustains_surroundings faults
  have kept := holds
  rcases kept with ⟨session, present, sound⟩
  cases operation with
  | connectDevice device port => cases inside
  | connect port baudRate => cases inside
  | disconnect => cases inside
  | getParameter name => exact HasSession.ask holds fun target => (sustains.perform _ _ holds).2
  | setParameter assignment =>
      exact HasSession.ask holds fun target => (sustains.write _ _ _ _ holds).2
  | getParameters names =>
      exact HasSession.ask holds fun target => sustains.readBatch target names holds
  | setParameters assignments =>
      exact HasSession.ask holds fun target => sustains.writeBatch target assignments holds
  | relay chunk =>
      rw [Operation.relays, isConnected_of_session present]
      exact ⟨_, by simp [Operation.perform, Bridge.relay, present], sound.offer chunk⟩
  | poll => exact holds.poll
  | takeChunk =>
      exact ⟨_, by simp [Operation.perform, Operation.changeSession, present], sound.take⟩
  | writeChunk =>
      simp only [Operation.perform, present]
      exact ⟨_, rfl, sound.writeHeld _ _⟩
  | listener step =>
      exact ⟨{ session with listener := session.listener.map (·.step step) },
        by simp [Operation.perform, Operation.changeSession, present],
        sound.hears sound.unrefused _⟩
  | elsewhere router hub world => exact ⟨session, present, sound⟩

theorem poll_of_not_live (ready : bridge.Ready relayed) (vacant : bridge.live? = none) :
    bridge.poll station = (false, bridge) := by
  unfold Bridge.poll
  split
  next => rfl
  next session present =>
    have ended : session.link.reader = .ended :=
      (ready session present).held.ended (live?_eq_none_iff.mp vacant session present)
    simp [Link.isReading, ended]

theorem isLive_take (session : Session) :
    Session.isLive { session with egress := session.egress.take } = session.isLive := by
  simp only [Session.isLive, Session.link, Egress.take]
  split <;> rfl

theorem isLive_writeHeld {session : Session} (device : Transport ω) (world : ω) :
    Session.isLive { session with egress := (session.egress.writeHeld device world).1 } =
      session.isLive := by
  simp only [Session.isLive, Session.link, Egress.writeHeld]
  split
  next => rfl
  next chunk holding =>
    unfold Link.write
    split
    next => split <;> rfl
    next => rfl

theorem phase_congr {after : Bridge ω χ}
    (same : after.session.map (·.isLive) = bridge.session.map (·.isLive)) :
    after.phase = bridge.phase := by
  unfold phase
  cases was : bridge.session <;> cases is : after.session <;> simp_all

theorem phase_changeSession {change : Session → Session}
    (keeps : ∀ session, (change session).isLive = session.isLive) :
    (Operation.changeSession bridge change).phase = bridge.phase := by
  refine phase_congr ?_
  rw [Operation.changeSession, Option.map_map]
  exact congrArg (fun read => bridge.session.map read) (funext keeps)

/-- Nothing but a boundary begins a session, and nothing brings a dead link back. -/
theorem phase_perform_of_not_live (ready : bridge.Ready relayed) (vacant : bridge.live? = none)
    (inside : operation.isBoundary = false) :
    (operation.perform station bridge).phase = bridge.phase := by
  have asked {α : Type}
      (call : Surroundings (Bridge ω χ) → Identity → Bridge ω χ → Except Fault α × Bridge ω χ) :
      (bridge.ask station call).2.phase = bridge.phase := by
    rw [ask_of_not_live vacant]
  cases operation with
  | connectDevice device port => cases inside
  | connect port baudRate => cases inside
  | disconnect => cases inside
  | getParameter name => exact asked _
  | setParameter assignment => exact asked _
  | getParameters names => exact asked _
  | setParameters assignments => exact asked _
  | relay chunk => rw [Operation.perform, relay_of_not_live vacant]
  | poll => rw [Operation.perform, poll_of_not_live ready vacant]
  | takeChunk => exact phase_changeSession isLive_take
  | writeChunk =>
      rw [Operation.perform]
      split
      next => rfl
      next session present =>
        refine phase_congr ?_
        rw [present]
        exact congrArg some (isLive_writeHeld _ _)
  | listener step => exact phase_changeSession fun session => rfl
  | elsewhere router hub world => rfl

theorem Ready.holds (ready : bridge.Ready relayed) {session : Session}
    (present : bridge.session = some session) : bridge.Holds relayed :=
  ⟨session, present, ready session present⟩

theorem Holds.ready (holds : bridge.Holds relayed) : bridge.Ready relayed := by
  rcases holds with ⟨session, present, sound⟩
  intro other found
  rw [present] at found
  cases found
  exact sound

theorem ready_of_idle (idle : bridge.session = none) : bridge.Ready relayed := by
  intro session present
  rw [idle] at present
  cases present

theorem Attempt.begins {settings : BridgeSettings} {opened : Except Fault Nat × ω}
    {outcome : Except ConnectFailure Connected × Bridge ω χ}
    (attempt : Attempt station settings opened outcome) {session : Session}
    (present : outcome.2.session = some session) :
    ∃ decoder replay, session.Begun decoder replay := by
  cases attempt with
  | unopened idle => rw [idle] at present; cases present
  | failed idle stage => rw [idle] at present; cases present
  | begun greeted found device vehicle begun =>
      rw [found] at present
      cases present
      exact ⟨_, _, begun⟩

/-- A boundary leaves a live session as it is; otherwise a session has just begun, or there is none,
and it has been asked to relay nothing. -/
theorem perform_boundary (station : Station ω χ) (bridge : Bridge ω χ)
    (boundary : operation.isBoundary = true) :
    (operation.perform station bridge = bridge ∧
      ∀ relayed, operation.relays bridge relayed = relayed) ∨
    ((∀ session, (operation.perform station bridge).session = some session →
        ∃ decoder replay, session.Begun decoder replay) ∧
      ∀ relayed, operation.relays bridge relayed = []) := by
  cases operation with
  | disconnect =>
      refine .inr ⟨?_, fun _ => rfl⟩
      intro session present
      rw [Operation.perform, disconnect_eq, session_cleared] at present
      cases present
  | connectDevice device port =>
      cases live : bridge.live? with
      | some session =>
          exact .inl ⟨by rw [Operation.perform, connectDevice_of_live live],
            fun relayed => by simp [Operation.relays, isConnected, live]⟩
      | none =>
          exact .inr ⟨fun _ present => (connectDevice_attempt live device port).begins present,
            fun relayed => by simp [Operation.relays, isConnected, live]⟩
  | connect port baudRate =>
      cases live : bridge.live? with
      | some session =>
          exact .inl ⟨by rw [Operation.perform, connect_of_live live],
            fun relayed => by simp [Operation.relays, isConnected, live]⟩
      | none =>
          exact .inr ⟨fun _ present => (connect_attempt live port baudRate).begins present,
            fun relayed => by simp [Operation.relays, isConnected, live]⟩
  | _ => cases boundary

/-- Without a session, only a boundary brings one. -/
theorem perform_of_idle (idle : bridge.session = none) (inside : operation.isBoundary = false) :
    (operation.perform station bridge).session = none := by
  have vacant : bridge.live? = none := by simp [live?, idle]
  have ready : bridge.Ready [] := ready_of_idle idle
  have phase : (operation.perform station bridge).phase = bridge.phase :=
    phase_perform_of_not_live ready vacant inside
  rw [phase_eq_idle_iff.mpr idle] at phase
  exact phase_eq_idle_iff.mp phase

/-- An operation keeps the session sound, or puts a sound one in its place. -/
theorem Ready.perform (faults : station.FaultsOfDevices) (ready : bridge.Ready relayed)
    (operation : Operation ω χ) :
    (operation.perform station bridge).Ready (operation.relays bridge relayed) := by
  cases boundary : operation.isBoundary with
  | false =>
      cases present : bridge.session with
      | none => exact ready_of_idle (perform_of_idle present boundary)
      | some session => exact ((ready.holds present).perform faults boundary).ready
  | true =>
      rcases perform_boundary station bridge boundary with ⟨same, asked⟩ | ⟨begins, asked⟩
      · rw [same, asked]
        exact ready
      · rw [asked]
        intro session present
        rcases begins session present with ⟨decoder, replay, begun⟩
        exact begun.sound

theorem ready_track (faults : station.FaultsOfDevices) (ready : bridge.Ready relayed)
    (operations : List (Operation ω χ)) :
    (track station (bridge, relayed) operations).1.Ready
      (track station (bridge, relayed) operations).2 := by
  induction operations generalizing bridge relayed with
  | nil => exact ready
  | cons operation operations inductionHypothesis =>
      exact inductionHypothesis (ready.perform faults operation)

/-- What a live session becomes between its boundaries is a session, live or dead. -/
theorem phase_perform (faults : station.FaultsOfDevices) (ready : bridge.Ready relayed)
    (inside : operation.isBoundary = false) :
    (operation.perform station bridge).phase = bridge.phase ∨
      bridge.phase = .live ∧ (operation.perform station bridge).phase = .dead := by
  cases live : bridge.live? with
  | none => exact .inl (phase_perform_of_not_live ready live inside)
  | some session =>
      have before : bridge.phase = .live := phase_eq_live_iff.mpr (by simp [live])
      rcases (ready.holds (live?_eq_some_iff.mp live).1).perform faults inside with
        ⟨later, present, sound⟩
      cases after : (operation.perform station bridge).phase with
      | idle =>
          rw [phase_eq_idle_iff, present] at after
          cases after
      | live => exact .inl before.symm
      | dead => exact .inr ⟨before, rfl⟩

/-- What a bridge answers in each of its states, and what becomes of its session. -/
structure Lifecycle (station : Station ω χ) (relayed : List Bytes) (bridge : Bridge ω χ) :
    Prop where
  /-- A live session keeps others out, and is not changed by them. -/
  occupied : ∀ session, bridge.live? = some session →
    (∀ device port, bridge.connectDevice station device port =
      (.error ⟨.clearing, .alreadyConnected session.link.port⟩, bridge)) ∧
    ∀ port baudRate, bridge.connect station port baudRate =
      (.error ⟨.clearing, .alreadyConnected session.link.port⟩, bridge)
  torn : (bridge.cleared station).session = none
  /-- Otherwise connecting is as if there had been no session. -/
  vacant : bridge.live? = none →
    (∀ device port,
      bridge.connectDevice station device port =
        (bridge.cleared station).connectDevice station device port ∧
      Attempt station bridge.settings (.ok device, (bridge.cleared station).world)
        (bridge.connectDevice station device port)) ∧
    ∀ port baudRate,
      bridge.connect station port baudRate =
        (bridge.cleared station).connect station port baudRate ∧
      Attempt station bridge.settings
        (station.openPort port baudRate (bridge.cleared station).world)
        (bridge.connect station port baudRate)
  disconnected : bridge.disconnect station =
    (match bridge.session with
      | none => .error .notConnected
      | some session => .ok session.counters,
    bridge.cleared station)
  telemetry : bridge.telemetry =
    match bridge.live? with
    | none => .error .notConnected
    | some session => .ok session.intake.telemetry
  /-- Without a live session nothing is sent, and nothing registered. -/
  refused : bridge.live? = none →
    (∀ name, bridge.getParameter station name = (.error .notConnected, bridge)) ∧
    (∀ assignment, bridge.setParameter station assignment = (.error .notConnected, bridge)) ∧
    (∀ names, bridge.getParameters station names = (.error .notConnected, bridge)) ∧
    ∀ assignments, bridge.setParameters station assignments = (.error .notConnected, bridge)
  answered : bridge.live? ≠ none →
    (∀ name, (bridge.getParameter station name).1 ≠ .error .notConnected) ∧
    (∀ assignment, (bridge.setParameter station assignment).1 ≠ .error .notConnected) ∧
    (∀ names, ∃ report, (bridge.getParameters station names).1 = .ok report) ∧
    ∀ assignments, ∃ report, (bridge.setParameters station assignments).1 = .ok report
  dropped : bridge.live? = none → ∀ chunk, bridge.relay chunk = bridge
  /-- What waits for the vehicle was relayed to this session, while it was live. -/
  ready : bridge.Ready relayed
  /-- Between its boundaries a session can only die. -/
  between : ∀ operation : Operation ω χ, operation.isBoundary = false →
    (operation.perform station bridge).phase = bridge.phase ∨
      bridge.phase = .live ∧ (operation.perform station bridge).phase = .dead

theorem Ready.lifecycle (faults : station.FaultsOfDevices) (ready : bridge.Ready relayed) :
    bridge.Lifecycle station relayed where
  occupied := by
    intro session live
    exact ⟨connectDevice_of_live live, connect_of_live live⟩
  torn := session_cleared station bridge
  vacant := by
    intro vacant
    constructor
    · intro device port
      refine ⟨?_, connectDevice_attempt vacant device port⟩
      rw [connectDevice, connectDevice, clear_cleared, clear_of_not_live vacant]
    · intro port baudRate
      refine ⟨?_, connect_attempt vacant port baudRate⟩
      rw [connect, connect, clear_cleared, clear_of_not_live vacant]
  disconnected := disconnect_eq station bridge
  telemetry := telemetry_eq bridge
  refused := by
    intro vacant
    exact ⟨fun _ => ask_of_not_live vacant _, fun _ => ask_of_not_live vacant _,
      fun _ => ask_of_not_live vacant _, fun _ => ask_of_not_live vacant _⟩
  answered := by
    intro connected
    rcases Option.ne_none_iff_exists'.mp connected with ⟨session, live⟩
    have holds := ready.holds (live?_eq_some_iff.mp live).1
    have sustains : (surroundings station).Sustains (Holds relayed) :=
      sustains_surroundings faults
    refine ⟨fun name => ?_, fun assignment => ?_, fun names => ?_, fun assignments => ?_⟩
    · rw [getParameter, ask_of_live live]
      exact (sustains.perform _ _ holds).1
    · rw [setParameter, ask_of_live live]
      exact (sustains.write _ _ _ _ holds).1
    · rw [getParameters, ask_of_live live]
      exact ⟨_, rfl⟩
    · rw [setParameters, ask_of_live live]
      exact ⟨_, rfl⟩
  dropped := relay_of_not_live
  ready := ready
  between := by
    intro operation inside
    exact phase_perform faults ready inside

/-- Whatever is asked of a bridge that begins without a session, whatever its threads and its
surroundings do, and however connecting fails: in each of its states it answers as that state
demands, a session that begins has nothing of those before it, and what is relayed while there is
none that is live reaches no vehicle. -/
theorem lifecycle_track (faults : station.FaultsOfDevices) (idle : bridge.session = none)
    (operations : List (Operation ω χ)) :
    (track station (bridge, []) operations).1.Lifecycle station
      (track station (bridge, []) operations).2 :=
  (ready_track faults (ready_of_idle idle) operations).lifecycle faults

end Bridge

namespace Bench

theorem faultsOfDevices : station.FaultsOfDevices where
  write number data world := by
    simp only [station, Transport.within, MemoryDevice.transport, MemoryDevice.write]
    split <;> simp [Fault.ofKind]
  flush number world := by simp [station, Transport.within, MemoryDevice.transport]

/-- A bench with a device from which a vehicle can be heard. -/
def withVehicle : Bench where
  devices := [{ readable := ScriptedDevice.vehicleHeartbeat }]

theorem extract_vehicleHeartbeat :
    extract ScriptedDevice.vehicleHeartbeat = (some ScriptedDevice.vehicleHeartbeat, []) := by
  decide

theorem feedFrame_vehicleHeartbeat :
    MessageDecoder.feedFrame Decoder.empty ScriptedDevice.vehicleHeartbeat =
      (some ⟨1, 1, 0, .heartbeat ⟨0, 2, 3, 0x80, 4, 3⟩⟩, .empty) := by
  decide +kernel

theorem handshake_withVehicle :
    (station.device 0).handshake (.ofSeconds 10) Decoder.empty withVehicle =
      (.ok ⟨⟨1, 1⟩, ScriptedDevice.vehicleHeartbeat⟩, .empty, { devices := [{}] }) := by
  have enough : (station.device 0).pollsWithin (.ofSeconds 10) withVehicle = 21 + 1 := by decide
  have polled : Handshake.poll (station.device 0) withVehicle =
      (.ok ScriptedDevice.vehicleHeartbeat, { devices := [{}] }) := rfl
  have heard : Handshake.hear { decoder := Decoder.empty } ScriptedDevice.vehicleHeartbeat =
      (some ⟨⟨1, 1⟩, ScriptedDevice.vehicleHeartbeat⟩,
        ⟨.empty, [], ScriptedDevice.vehicleHeartbeat⟩) := by
    rw [Handshake.hear, Handshake.settle_of_frame extract_vehicleHeartbeat,
      feedFrame_vehicleHeartbeat]
    rfl
  simp only [Transport.handshake, enough, Handshake.listen, polled, heard]

end Bench

namespace Bridge

/-- A bridge by a vehicle. -/
def byVehicle : Bridge Bench Recorder := { world := .withVehicle }

theorem connectDevice_byVehicle :
    (byVehicle.connectDevice Bench.station 0 "bench").1 =
      .ok { port := "bench", vehicle := ⟨1, 1⟩ } := by
  simp only [connectDevice, clear, byVehicle, Bridge.begin, Bench.handshake_withVehicle]
  rfl

theorem lifecycle_track_byVehicle :
    let reached := track Bench.station (byVehicle, []) [.connectDevice 0 "bench"]
    reached.1.Lifecycle Bench.station reached.2 ∧ reached.1.phase = .live ∧
      (reached.1.disconnect Bench.station).1 = .ok { bytesIn := 21, framesIn := 1 } := by
  intro reached
  refine ⟨lifecycle_track Bench.faultsOfDevices rfl _, ?_⟩
  have attempt : Attempt Bench.station byVehicle.settings (.ok 0, Bench.withVehicle)
      (byVehicle.connectDevice Bench.station 0 "bench") :=
    connectDevice_attempt rfl 0 "bench"
  have answered := connectDevice_byVehicle
  have reachedBy : reached.1 = (byVehicle.connectDevice Bench.station 0 "bench").2 := rfl
  rw [reachedBy]
  generalize byVehicle.connectDevice Bench.station 0 "bench" = outcome at attempt answered
  cases attempt with
  | failed idle stage => cases answered
  | begun greeted present device vehicle begun =>
      rw [show byVehicle.settings.handshakeTimeout = .ofSeconds 10 from rfl,
        Bench.handshake_withVehicle] at greeted
      cases greeted
      refine ⟨phase_eq_live_iff.mpr ?_, ?_⟩
      · rw [live?_eq_some_iff.mpr ⟨present, begun.live⟩]
        simp
      · rw [disconnect_eq, present]
        refine congrArg Except.ok (begun.counters.trans ?_)
        have drained : (MavBridge.drain ScriptedDevice.vehicleHeartbeat).1 =
            [ScriptedDevice.vehicleHeartbeat] := by
          rw [drain_of_frame Bench.extract_vehicleHeartbeat, drain_nil]
        simp only [drained, answers, Bench.feedFrame_vehicleHeartbeat]
        rfl

end Bridge

end MavBridge
