import MavBridge.Output.Network

/-!
# Starts that fail

A start makes its calls one after the other, and between them it sets the output going: it raises
the flag, and starts a loop, be it a reader or an acceptor.  Where a call fails, `FailsTo` says that
the output is left as it was, because nothing had been changed or because all that had been is
undone.  The address query of an output for datagrams comes when the reader is at work, and undoes
nothing.
-/

namespace MavBridge

/-- A start: a state that is changed until a call fails. -/
abbrev Starting (σ α : Type) : Type := ExceptT Fault (StateM σ) α

namespace Starting

variable {σ α β : Type}

/-- All that a start does. -/
def launch (action : Starting σ α) (s : σ) : Except Fault α × σ := (action.run.run s).run

/-- Refuse to start what has been started. -/
def refuseIf (started : σ → Bool) (id : σ → String) : Starting σ Unit := do
  if started (← get) then throw (.alreadyRunning (id (← get)))

/-- A call that may fail. -/
def call (outcome : Except Fault α) : Starting σ α := ExceptT.mk (pure outcome)

/-- A call that may fail, and what is undone then. -/
def callOr (outcome : Except Fault α) (undo : σ → σ) : Starting σ α := do
  match outcome with
  | .ok value => return value
  | .error fault =>
      modify undo
      throw fault

section Launching

variable (s : σ)

@[simp]
theorem launch_get : launch (get : Starting σ σ) s = (.ok s, s) := rfl

@[simp]
theorem launch_modify (change : σ → σ) :
    launch (modify change : Starting σ Unit) s = (.ok (), change s) := rfl

@[simp]
theorem launch_call (outcome : Except Fault α) : launch (call outcome) s = (outcome, s) := rfl

@[simp]
theorem launch_bind (action : Starting σ α) (rest : α → Starting σ β) :
    launch (action >>= rest) s =
      match launch action s with
      | (.ok value, after) => launch (rest value) after
      | (.error fault, after) => (.error fault, after) := by
  have continued : launch (action >>= rest) s =
      ((ExceptT.bindCont rest (launch action s).1).run (launch action s).2).run := rfl
  rw [continued]
  obtain ⟨outcome, after⟩ := launch action s
  cases outcome <;> rfl

@[simp]
theorem launch_map (action : Starting σ α) (change : α → β) :
    launch (change <$> action) s = ((launch action s).1.map change, (launch action s).2) := by
  rw [← bind_pure_comp, launch_bind]
  obtain ⟨outcome, after⟩ := launch action s
  cases outcome <;> rfl

@[simp]
theorem launch_callOr_ok (value : α) (undo : σ → σ) :
    launch (callOr (.ok value) undo) s = (.ok value, s) := rfl

@[simp]
theorem launch_callOr_error (fault : Fault) (undo : σ → σ) :
    launch (callOr (.error fault : Except Fault α) undo) s = (.error fault, undo s) := rfl

@[simp]
theorem launch_refuseIf (started : σ → Bool) (id : σ → String) :
    launch (refuseIf started id) s =
      (if started s then .error (.alreadyRunning (id s)) else .ok (), s) := by
  unfold refuseIf
  simp only [launch_bind, launch_get]
  split <;> rfl

end Launching

/-- From a state, a start that fails leaves `origin`. -/
def FailsTo (origin : σ) (action : Starting σ α) (s : σ) : Prop :=
  ∀ fault after, launch action s = (.error fault, after) → after = origin

/-- A start fails in its first part, or after it. -/
theorem launch_bind_eq_error {action : Starting σ α} {rest : α → Starting σ β} {s after : σ}
    {fault : Fault} (failed : launch (action >>= rest) s = (.error fault, after)) :
    launch action s = (.error fault, after) ∨
      ∃ value middle, launch action s = (.ok value, middle) ∧
        launch (rest value) middle = (.error fault, after) := by
  rw [launch_bind] at failed
  split at failed
  next value middle succeeded => exact .inr ⟨value, middle, succeeded, failed⟩
  next other middle failedFirst =>
    cases failed
    exact .inl failedFirst

theorem FailsTo.bind {origin s : σ} {action : Starting σ α} {rest : α → Starting σ β}
    (first : FailsTo origin action s)
    (later : ∀ value after, launch action s = (.ok value, after) →
      FailsTo origin (rest value) after) :
    FailsTo origin (action >>= rest) s := by
  intro fault after failed
  rcases launch_bind_eq_error failed with failedFirst | ⟨value, middle, succeeded, failedLater⟩
  · exact first fault after failedFirst
  · exact later value middle succeeded fault after failedLater

theorem failsTo_pure (origin s : σ) (value : α) : FailsTo origin (pure value) s := by
  intro fault after failed
  cases failed

/-- A call that has nothing to undo. -/
theorem failsTo_call_bind {origin : σ} {outcome : Except Fault α} {rest : α → Starting σ β}
    (later : ∀ value, FailsTo origin (rest value) origin) :
    FailsTo origin (call outcome >>= rest) origin := by
  refine .bind ?_ ?_
  · intro fault after failed
    cases failed
    rfl
  · intro value after succeeded
    cases succeeded
    exact later value

theorem failsTo_refuseIf_bind {origin : σ} {started : σ → Bool} {id : σ → String}
    {rest : Unit → Starting σ β} (later : FailsTo origin (rest ()) origin) :
    FailsTo origin (refuseIf started id >>= rest) origin := by
  refine .bind ?_ ?_
  · intro fault after failed
    rw [launch_refuseIf] at failed
    exact (congrArg Prod.snd failed).symm
  · intro value after succeeded
    rw [launch_refuseIf] at succeeded
    cases congrArg Prod.snd succeeded
    exact later

theorem failsTo_modify_bind {origin s : σ} {change : σ → σ} {rest : Unit → Starting σ β}
    (later : FailsTo origin (rest ()) (change s)) :
    FailsTo origin (modify change >>= rest) s := by
  refine .bind ?_ ?_
  · intro fault after failed
    cases failed
  · intro value after succeeded
    cases succeeded
    exact later

/-- A call that undoes what has been done. -/
theorem failsTo_callOr_bind {origin s : σ} {outcome : Except Fault α} {undo : σ → σ}
    {rest : α → Starting σ β} (undone : undo s = origin)
    (later : ∀ value, FailsTo origin (rest value) s) :
    FailsTo origin (callOr outcome undo >>= rest) s := by
  cases outcome with
  | ok given =>
      refine .bind ?_ ?_
      · intro fault after failed
        cases failed
      · intro value after succeeded
        cases succeeded
        exact later given
  | error fault =>
      refine .bind ?_ ?_
      · intro fault after failed
        cases failed
        exact undone
      · intro value after succeeded
        cases succeeded

end Starting

open Starting (launch refuseIf call callOr FailsTo)

/-! ## The three starts, call by call -/

namespace TcpServer

/-- What a start does, and how it goes if the acceptor cannot be started. -/
def starting (calls : ListenCalls) (spawn : Except Fault Unit) : Starting TcpServer String := do
  refuseIf TcpServer.isRunning TcpServer.id
  let _bound ← call calls.bind
  call calls.configure
  let endpoint ← call calls.localAddress
  modify fun server => { server with isRunning := true }
  callOr spawn fun server => { server with isRunning := false }
  modify fun server => { server with workers := server.workers ++ [.acceptor] }
  modify fun server => { server with localAddress := some endpoint }
  return "TCP server listening on " ++ endpoint.text

theorem launch_starting (calls : ListenCalls) (server : TcpServer) :
    launch (starting calls (.ok ())) server = server.start calls := by
  unfold starting start
  obtain ⟨bind, configure, localAddress⟩ := calls
  cases running : server.isRunning
  · cases bind <;> cases configure <;> cases localAddress <;> simp [running, Except.map]
  · simp [running]

theorem failsTo_starting {server : TcpServer} (stopped : server.isRunning = false)
    (calls : ListenCalls) (spawn : Except Fault Unit) :
    FailsTo server (starting calls spawn) server := by
  refine Starting.failsTo_refuseIf_bind (Starting.failsTo_call_bind fun _ => ?_)
  refine Starting.failsTo_call_bind fun _ => Starting.failsTo_call_bind fun endpoint => ?_
  refine Starting.failsTo_modify_bind (Starting.failsTo_callOr_bind ?_ fun _ => ?_)
  · -- Lowering the flag is all there is to undo.
    rw [← stopped]
  · refine Starting.failsTo_modify_bind (Starting.failsTo_modify_bind ?_)
    exact Starting.failsTo_pure server _ _

end TcpServer

namespace TcpClient

/-- What a start does, and how it goes if the reader cannot be started. -/
def starting (calls : ConnectCalls) (spawn : Except Fault Unit) : Starting TcpClient String := do
  refuseIf TcpClient.isRunning TcpClient.id
  let remote ← call calls.resolve
  let localAddress ← call calls.connect
  call calls.configure
  call calls.duplicate
  modify fun client => { client with stream := some { localAddress } }
  modify fun client => { client with isRunning := true }
  callOr spawn fun client => { client with isRunning := false, stream := none }
  modify fun client => { client with readers := client.readers + 1 }
  return "Connected to " ++ remote.text

theorem launch_starting (calls : ConnectCalls) (client : TcpClient) :
    launch (starting calls (.ok ())) client = client.start calls := by
  unfold starting start
  obtain ⟨resolve, connect, configure, duplicate⟩ := calls
  cases running : client.isRunning
  · cases resolve <;> cases connect <;> cases configure <;> cases duplicate <;>
      simp [running, Except.map]
  · simp [running]

theorem failsTo_starting {client : TcpClient} (stopped : client.isRunning = false)
    (unconnected : client.stream = none) (calls : ConnectCalls) (spawn : Except Fault Unit) :
    FailsTo client (starting calls spawn) client := by
  refine Starting.failsTo_refuseIf_bind (Starting.failsTo_call_bind fun remote => ?_)
  refine Starting.failsTo_call_bind fun localAddress => Starting.failsTo_call_bind fun _ => ?_
  refine Starting.failsTo_call_bind fun _ => Starting.failsTo_modify_bind ?_
  refine Starting.failsTo_modify_bind (Starting.failsTo_callOr_bind ?_ fun _ => ?_)
  · -- The connection is given up as well: before the start there was none.
    rw [← stopped, ← unconnected]
  · exact Starting.failsTo_modify_bind (Starting.failsTo_pure client _ _)

end TcpClient

namespace UdpOutput

/-- What a start does until its reader is at work. -/
def opening (calls : DatagramCalls) (spawn : Except Fault Unit) : Starting UdpOutput Endpoint := do
  refuseIf (fun output => output.socket.isSome) UdpOutput.id
  let remote ← call calls.resolve
  call calls.bind
  call calls.configure
  call calls.duplicate
  modify fun output => { output with isRunning := true }
  callOr spawn fun output => { output with isRunning := false }
  modify fun output => { output with readers := output.readers + 1 }
  return remote

/-- What a start does, and how it goes if the reader cannot be started. -/
def starting (calls : DatagramCalls) (spawn : Except Fault Unit) : Starting UdpOutput String := do
  let remote ← opening calls spawn
  let localAddress ← call calls.localAddress
  modify fun output => { output with socket := some ⟨localAddress, remote⟩ }
  return "Sending to " ++ remote.text ++ " from " ++ localAddress.text

/-- An output whose reader has been set to work. -/
def reading (output : UdpOutput) : UdpOutput :=
  { output with isRunning := true, readers := output.readers + 1 }

theorem launch_starting (calls : DatagramCalls) (output : UdpOutput) :
    launch (starting calls (.ok ())) output = output.start calls := by
  unfold starting opening start
  obtain ⟨resolve, bind, configure, duplicate, localAddress⟩ := calls
  cases opened : output.socket.isSome
  · cases resolve <;> cases bind <;> cases configure <;> cases duplicate <;>
      cases localAddress <;> simp [opened, Except.map]
  · simp [opened]

theorem failsTo_opening {output : UdpOutput} (stopped : output.isRunning = false)
    (calls : DatagramCalls) (spawn : Except Fault Unit) :
    FailsTo output (opening calls spawn) output := by
  refine Starting.failsTo_refuseIf_bind (Starting.failsTo_call_bind fun remote => ?_)
  refine Starting.failsTo_call_bind fun _ => Starting.failsTo_call_bind fun _ => ?_
  refine Starting.failsTo_call_bind fun _ => Starting.failsTo_modify_bind ?_
  refine Starting.failsTo_callOr_bind ?_ fun _ => ?_
  · rw [← stopped]
  · exact Starting.failsTo_modify_bind (Starting.failsTo_pure output _ _)

theorem launch_opening_eq_ok_iff {calls : DatagramCalls} {spawn : Except Fault Unit}
    {output after : UdpOutput} (closed : output.socket = none) {remote : Endpoint} :
    launch (opening calls spawn) output = (.ok remote, after) ↔
      calls.resolve = .ok remote ∧ calls.bind = .ok () ∧ calls.configure = .ok () ∧
        calls.duplicate = .ok () ∧ spawn = .ok () ∧ output.reading = after := by
  unfold opening
  obtain ⟨resolve, bind, configure, duplicate, localAddress⟩ := calls
  cases resolve <;> cases bind <;> cases configure <;> cases duplicate <;> cases spawn <;>
    simp [closed, reading, Except.map]

end UdpOutput

/-- The calls of a start succeed until the reader is at work, and then the address query fails. -/
structure DatagramCalls.FailLate (calls : DatagramCalls) (spawn : Except Fault Unit) : Prop where
  resolve : calls.resolve.isOk = true
  bind : calls.bind = .ok ()
  configure : calls.configure = .ok ()
  duplicate : calls.duplicate = .ok ()
  spawn : spawn = .ok ()
  localAddress : calls.localAddress.isOk = false

/-- A start that fails late has set the reader to work; any other leaves the output as it was. -/
theorem UdpOutput.failed_starting {output after : UdpOutput} (stopped : output.isRunning = false)
    (closed : output.socket = none) {calls : DatagramCalls} {spawn : Except Fault Unit}
    {fault : Fault} (failed : launch (starting calls spawn) output = (.error fault, after)) :
    (calls.FailLate spawn ∧ after = output.reading) ∨
      (¬ calls.FailLate spawn ∧ after = output) := by
  -- Only the address query comes when the reader is at work.
  rcases Starting.launch_bind_eq_error failed with early | ⟨remote, middle, opened, later⟩
  · refine .inr ⟨?_, failsTo_opening stopped calls spawn fault after early⟩
    rintro ⟨resolved, bound, configured, duplicated, spawned, -⟩
    obtain ⟨remote, resolved⟩ : ∃ remote, calls.resolve = .ok remote := by
      cases given : calls.resolve with
      | ok remote => exact ⟨remote, rfl⟩
      | error fault => simp [given, Except.isOk, Except.toBool] at resolved
    have opened := (launch_opening_eq_ok_iff closed).mpr
      ⟨resolved, bound, configured, duplicated, spawned, rfl⟩
    rw [early] at opened
    cases congrArg Prod.fst opened
  · obtain ⟨resolved, bound, configured, duplicated, spawned, rfl⟩ :=
      (launch_opening_eq_ok_iff closed).mp opened
    rcases Starting.launch_bind_eq_error later with query | ⟨localAddress, asked, -, finished⟩
    · rw [Starting.launch_call] at query
      obtain ⟨unanswered, rfl⟩ := Prod.ext_iff.mp query
      refine .inl ⟨⟨?_, bound, configured, duplicated, spawned, ?_⟩, rfl⟩
      · rw [resolved]
        rfl
      · exact (congrArg Except.isOk unanswered).trans rfl
    · simp [Except.map] at finished

/-! ## All outputs -/

/-- The outcomes of the socket calls that a start makes, whichever kind of output starts. -/
structure SocketCalls where
  listen : ListenCalls
  connect : ConnectCalls
  datagram : DatagramCalls

/-- No call fails. -/
structure SocketCalls.Succeed (calls : SocketCalls) : Prop where
  listen : ∃ bound endpoint, calls.listen = ⟨.ok bound, .ok (), .ok endpoint⟩
  connect : ∃ remote near, calls.connect = ⟨.ok remote, .ok near, .ok (), .ok ()⟩
  datagram : ∃ remote near, calls.datagram = ⟨.ok remote, .ok (), .ok (), .ok (), .ok near⟩

namespace NetworkOutput

/-- Start with these outcomes, and with this one of starting the loop. -/
def startWith (calls : SocketCalls) (spawn : Except Fault Unit) :
    NetworkOutput → Except Fault String × NetworkOutput
  | server output => (launch (TcpServer.starting calls.listen spawn) output).map id server
  | client output => (launch (TcpClient.starting calls.connect spawn) output).map id client
  | datagram output => (launch (UdpOutput.starting calls.datagram spawn) output).map id datagram

/-- The acceptors and readers that are at work. -/
def loops : NetworkOutput → Nat
  | server output => output.workers.length
  | client output => output.readers
  | datagram output => output.readers

/-- An output that shows nothing and does nothing. -/
structure IsStopped (output : NetworkOutput) : Prop where
  isRunning : output.isRunning = false
  localAddress : output.localAddress = none
  peers : output.peers = 0
  loops : output.loops = 0

/-- An output for datagrams whose start fails when its reader is at work already. -/
def FailsLate (output : NetworkOutput) (calls : SocketCalls) (spawn : Except Fault Unit) : Prop :=
  match output with
  | datagram _ => calls.datagram.FailLate spawn
  | _ => False

/-- The start of each kind, with these outcomes. -/
def startNow (calls : SocketCalls) : NetworkOutput → Except Fault String × NetworkOutput
  | server output => (output.start calls.listen).map id server
  | client output => (output.start calls.connect).map id client
  | datagram output => (output.start calls.datagram).map id datagram

theorem startWith_ok (calls : SocketCalls) (output : NetworkOutput) :
    output.startWith calls (.ok ()) = output.startNow calls := by
  cases output with
  | server output => rw [startWith, TcpServer.launch_starting, startNow]
  | client output => rw [startWith, TcpClient.launch_starting, startNow]
  | datagram output => rw [startWith, UdpOutput.launch_starting, startNow]

variable {output after : NetworkOutput}

theorem IsStopped.unconnected {client : TcpClient}
    (stopped : (NetworkOutput.client client).IsStopped) : client.stream = none := by
  have alone : client.peers = 0 := stopped.peers
  unfold TcpClient.peers at alone
  cases given : client.stream with
  | none => rfl
  | some stream => simp [given] at alone

theorem socket_of_localAddress {udp : UdpOutput} (unseen : udp.localAddress = none) :
    udp.socket = none := Option.map_eq_none_iff.mp unseen

theorem failed_cases (stopped : output.IsStopped) {calls : SocketCalls} {spawn : Except Fault Unit}
    {fault : Fault} (failed : output.startWith calls spawn = (.error fault, after)) :
    (¬ output.FailsLate calls spawn ∧ after = output) ∨
      (output.FailsLate calls spawn ∧
        ∃ udp, output = .datagram udp ∧ after = .datagram udp.reading) := by
  cases output with
  | server server =>
      obtain ⟨launched, rfl⟩ := Prod.ext_iff.mp failed
      have unchanged := TcpServer.failsTo_starting stopped.isRunning calls.listen spawn fault _
        (Prod.ext launched rfl)
      exact .inl ⟨id, congrArg NetworkOutput.server unchanged⟩
  | client client =>
      obtain ⟨launched, rfl⟩ := Prod.ext_iff.mp failed
      have unchanged := TcpClient.failsTo_starting stopped.isRunning stopped.unconnected
        calls.connect spawn fault _ (Prod.ext launched rfl)
      exact .inl ⟨id, congrArg NetworkOutput.client unchanged⟩
  | datagram udp =>
      obtain ⟨launched, rfl⟩ := Prod.ext_iff.mp failed
      rcases UdpOutput.failed_starting stopped.isRunning
        (socket_of_localAddress stopped.localAddress) (Prod.ext launched rfl) with
        ⟨late, changed⟩ | ⟨early, unchanged⟩
      · exact .inr ⟨late, udp, rfl, congrArg NetworkOutput.datagram changed⟩
      · exact .inl ⟨early, congrArg NetworkOutput.datagram unchanged⟩

/-- Stopping does nothing to an output without a socket. -/
theorem stop_of_isStopped (stopped : output.IsStopped) (network : Network) :
    output.stop network = (output, network) := by
  cases output with
  | server server =>
      have idle : server.isRunning = false := stopped.isRunning
      have unseen : server.localAddress = none := stopped.localAddress
      simp [stop, TcpServer.stop, idle, unseen]
  | client client =>
      have idle : client.isRunning = false := stopped.isRunning
      have unread : client.readers = 0 := stopped.loops
      have same : client.stop = client := by
        rw [TcpClient.stop, ← idle, ← stopped.unconnected, ← unread]
      rw [stop, same]
  | datagram udp =>
      have closed := socket_of_localAddress stopped.localAddress
      simp [stop, UdpOutput.stop, closed]

/-- An output that runs and shows where is stopped by stopping. -/
theorem isStopped_stop (running : output.isRunning = true)
    (shown : output.localAddress.isSome = true) (network : Network) :
    (output.stop network).1.IsStopped := by
  cases output with
  | server server =>
      have isRunning : server.isRunning = true := running
      rw [stop, TcpServer.stop, if_pos isRunning]
      exact ⟨rfl, rfl, rfl, rfl⟩
  | client client => exact ⟨rfl, rfl, rfl, rfl⟩
  | datagram udp =>
      have bound : udp.socket.isSome = true := by
        simpa [localAddress, UdpOutput.localAddress] using shown
      rw [stop, UdpOutput.stop, if_pos bound]
      exact ⟨rfl, rfl, rfl, rfl⟩

/-- A start all of whose calls succeed starts one loop, and can be undone by stopping. -/
def StartsAgain (output : NetworkOutput) : Prop :=
  ∀ calls : SocketCalls, calls.Succeed → ∃ message started,
    output.startWith calls (.ok ()) = (.ok message, started) ∧
      started.loops = output.loops + 1 ∧ ∀ network, (started.stop network).1.IsStopped

theorem startsAgain_datagram {udp : UdpOutput} (closed : udp.socket = none) :
    StartsAgain (.datagram udp) := by
  intro calls succeed
  obtain ⟨remote, near, outcomes⟩ := succeed.datagram
  rw [startWith_ok, startNow, outcomes]
  unfold UdpOutput.start
  rw [if_neg (by simp [closed])]
  exact ⟨_, _, rfl, rfl, isStopped_stop rfl rfl⟩

theorem IsStopped.startsAgain (stopped : output.IsStopped) : output.StartsAgain := by
  cases output with
  | server server =>
      have idle : server.isRunning = false := stopped.isRunning
      intro calls succeed
      obtain ⟨bound, endpoint, outcomes⟩ := succeed.listen
      rw [startWith_ok, startNow, outcomes]
      unfold TcpServer.start
      rw [if_neg (by simp [idle])]
      exact ⟨_, _, rfl, List.length_append, isStopped_stop rfl rfl⟩
  | client client =>
      have idle : client.isRunning = false := stopped.isRunning
      intro calls succeed
      obtain ⟨remote, near, outcomes⟩ := succeed.connect
      rw [startWith_ok, startNow, outcomes]
      unfold TcpClient.start
      rw [if_neg (by simp [idle])]
      exact ⟨_, _, rfl, rfl, isStopped_stop rfl rfl⟩
  | datagram udp => exact startsAgain_datagram (socket_of_localAddress stopped.localAddress)

theorem isStopped_create {config : OutputConfig} (created : create config = .ok output) :
    output.IsStopped := by
  unfold create at created
  split at created <;> cases created
  all_goals exact ⟨rfl, rfl, rfl, rfl⟩

/-- A stopped output of any kind whose start fails, at whichever call.  It is left as it was, save
for the one that asks for its address when its reader is at work: that one says that it runs, and
its reader goes on, though it shows no address.  Either way stopping does nothing to it, and a later
start whose calls succeed starts a loop, for that one a second. -/
theorem failed_start (stopped : output.IsStopped) {calls : SocketCalls} {spawn : Except Fault Unit}
    {fault : Fault} (failed : output.startWith calls spawn = (.error fault, after)) :
    output.startWith calls (.ok ()) = output.startNow calls ∧
      (after.IsStopped ↔ ¬ output.FailsLate calls spawn) ∧
      (¬ output.FailsLate calls spawn → after = output) ∧
      (output.FailsLate calls spawn → after.isRunning = true ∧ after.localAddress = none ∧
        after.peers = 0 ∧ after.loops = 1) ∧
      (∀ network, after.stop network = (after, network)) ∧ after.StartsAgain := by
  refine ⟨startWith_ok calls output, ?_⟩
  rcases failed_cases stopped failed with ⟨early, rfl⟩ | ⟨late, udp, rfl, rfl⟩
  · exact ⟨iff_of_true stopped early, fun _ => rfl, fun late => absurd late early,
      stop_of_isStopped stopped, stopped.startsAgain⟩
  · have closed := socket_of_localAddress stopped.localAddress
    have unread : udp.readers = 0 := stopped.loops
    have running : (NetworkOutput.datagram udp.reading).isRunning = true := rfl
    refine ⟨iff_of_false ?_ (not_not_intro late), fun early => absurd late early, fun _ => ?_, ?_,
      startsAgain_datagram closed⟩
    · intro isStopped
      rw [isStopped.isRunning] at running
      cases running
    · exact ⟨running, stopped.localAddress, rfl, congrArg Nat.succ unread⟩
    · intro network
      simp [stop, UdpOutput.stop, UdpOutput.reading, closed]

/-- The calls of starts where the near end has no address. -/
def addressless : SocketCalls where
  listen := ⟨.ok ⟨.v4 [0, 0, 0, 0], 14550⟩, .ok (), .error (.other "no local address")⟩
  connect := ⟨.ok ⟨.v4 [10, 0, 0, 1], 14550⟩, .ok ⟨.v4 [10, 0, 0, 2], 49152⟩, .ok (), .ok ()⟩
  datagram := ⟨.ok ⟨.v4 [10, 0, 0, 1], 14550⟩, .ok (), .ok (), .ok (),
    .error (.other "no local address")⟩

/-- The output for datagrams says that it runs though its start failed, and stopping does nothing to
it, where a listening output that meets the same failure is as before. -/
theorem start_failed_running :
    let udp := NetworkOutput.datagram (.create "east" "10.0.0.1:14550")
    let listening := NetworkOutput.server (.create "west" "0.0.0.0:14550")
    udp.IsStopped ∧ (udp.startNow addressless).1 = .error (.other "no local address") ∧
      (udp.startNow addressless).2.isRunning = true ∧ (udp.startNow addressless).2.loops = 1 ∧
      ((udp.startNow addressless).2.stop {}).1.isRunning = true ∧
      listening.startNow addressless = (.error (.other "no local address"), listening) :=
  ⟨⟨rfl, rfl, rfl, rfl⟩, rfl, rfl, rfl, rfl, rfl⟩

/-- A client that connects, and whose reader cannot be started. -/
theorem failed_start_unread :
    let client := NetworkOutput.client (.create "south" "10.0.0.1:14550")
    let fault := Fault.other "no more threads"
    ∃ after, client.startWith addressless (.error fault) = (.error fault, after) ∧
      after = client ∧ after.IsStopped ∧ after.StartsAgain := by
  intro client fault
  have created : create (.create "south" .tcpClient "10.0.0.1" 14550) = .ok client := rfl
  have stopped := isStopped_create created
  have failed : client.startWith addressless (.error fault) = (.error fault, client) := rfl
  obtain ⟨-, isStopped, unchanged, -, -, again⟩ := failed_start stopped failed
  exact ⟨client, failed, unchanged id, isStopped.mpr id, again⟩

end NetworkOutput

end MavBridge
