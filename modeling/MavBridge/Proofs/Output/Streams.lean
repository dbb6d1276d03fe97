import MavBridge.Output.TcpServer
import MavBridge.Proofs.Lookup
import Mathlib.Data.List.Range

/-!
# The streams of a listening output

What the writer of a connection has written, what it holds and what is queued for it are one stream.
It has no gaps when it is what was sent while the connection was a client, but for the frame of the
sending that removed it.  What the workers do moves bytes along and leaves every stream as it is.
-/

namespace MavBridge

namespace Connection

/-- What the writer has written, what it holds, and what is queued for it. -/
def carried (connection : Connection) : Bytes :=
  connection.written ++ connection.inHand.getD [] ++ connection.queue.flatten

/-- A connection at a later time, with the same stream. -/
structure Keeps (before after : Connection) : Prop where
  number : after.number = before.number
  admitted : after.reader.isSome = before.reader.isSome
  shut : before.isShut = true → after.isShut = true
  carried : after.carried = before.carried

theorem Keeps.refl (connection : Connection) : connection.Keeps connection :=
  ⟨rfl, rfl, id, rfl⟩

theorem Keeps.trans {before middle after : Connection} (first : before.Keeps middle)
    (second : middle.Keeps after) : before.Keeps after where
  number := second.number.trans first.number
  admitted := second.admitted.trans first.admitted
  shut := second.shut ∘ first.shut
  carried := second.carried.trans first.carried

theorem written_prefix_carried (connection : Connection) :
    connection.written <+: connection.carried := by
  rw [carried, List.append_assoc]
  exact List.prefix_append _ _

end Connection

namespace TcpServer

/-! ## What is sent to a client -/

/-- The frame that a step sends to a connection. -/
def offers (server : TcpServer) (number : Nat) : Step → List Bytes
  | .send frame => if server.isRunning ∧ number ∈ server.clients then [frame] else []
  | .fanOut frame => if number ∈ server.clients then [frame] else []
  | _ => []

/-- The frames that are sent over a run while a connection is a client, the oldest first. -/
def offered (number : Nat) : TcpServer → List Step → List Bytes
  | _, [] => []
  | server, step :: later => server.offers number step ++ offered number (server.step step) later

/-- The stream of a connection is what it was offered, but for the last frame when that was the one
that removed it. -/
def Serves (server : TcpServer) (connection : Connection) (frames : List Bytes) : Prop :=
  ∃ queued missed, frames = queued ++ missed ∧ connection.carried = queued.flatten ∧
    missed.length ≤ 1 ∧ (missed ≠ [] → connection.number ∉ server.clients)

/-- Connections are numbered as they came, the clients are admitted connections, and the stream of
every connection has no gaps. -/
structure Gapless (server : TcpServer) (frames : Nat → List Bytes) : Prop where
  numbered : server.connections.map Connection.number = List.range server.connections.length
  distinct : server.clients.Nodup
  admitted : ∀ number ∈ server.clients,
    ∃ connection ∈ server.connections, connection.number = number ∧ connection.reader.isSome
  removed : ∀ connection ∈ server.connections, connection.reader.isSome →
    connection.number ∉ server.clients → connection.isShut = true
  unheard : ∀ number, (∀ connection ∈ server.connections, connection.number = number →
    connection.reader.isSome = false) → frames number = []
  served : ∀ connection ∈ server.connections, server.Serves connection (frames connection.number)

variable {server after : TcpServer} {frames : Nat → List Bytes}

theorem gapless_create (id bindAddress : String) :
    (create id bindAddress).Gapless fun _ => [] := by
  constructor <;> simp [create]

theorem Gapless.keyed (gapless : server.Gapless frames) :
    (server.connections.map Connection.number).Nodup := by
  rw [gapless.numbered]
  exact List.nodup_range

theorem Gapless.connection?_eq_some_iff (gapless : server.Gapless frames) {number : Nat}
    {connection : Connection} :
    server.connection? number = some connection ↔
      connection ∈ server.connections ∧ connection.number = number :=
  find?_key_eq_some_iff Connection.number gapless.keyed

theorem Gapless.awaits_iff (gapless : server.Gapless frames) {number : Nat} :
    server.awaits number = true ↔
      ∃ connection ∈ server.connections, connection.number = number ∧
        connection.reader.isSome = false ∧ connection.isShut = false := by
  simp only [awaits, Option.any_eq_true, gapless.connection?_eq_some_iff, Bool.and_eq_true,
    Option.isSome_eq_false_iff, Bool.not_eq_true', and_assoc]

/-- Nobody has been admitted under a number that awaits its admission. -/
theorem Gapless.unadmitted (gapless : server.Gapless frames) {number : Nat}
    (awaits : server.awaits number = true) {connection : Connection}
    (membership : connection ∈ server.connections) (named : connection.number = number) :
    connection.reader.isSome = false := by
  rcases gapless.awaits_iff.mp awaits with ⟨other, otherMembership, otherNamed, absent, _⟩
  rw [List.inj_on_of_nodup_map gapless.keyed membership otherMembership
    (named.trans otherNamed.symm)]
  exact absent

theorem Gapless.not_client (gapless : server.Gapless frames) {number : Nat}
    (awaits : server.awaits number = true) : number ∉ server.clients := by
  intro client
  rcases gapless.admitted number client with ⟨connection, membership, named, admitted⟩
  rw [gapless.unadmitted awaits membership named] at admitted
  cases admitted

/-! ## Steps that only move bytes along -/

/-- The connections have the same streams, no client has come, and those that have gone are shut. -/
structure Calms (before after : TcpServer) : Prop where
  connections : ∃ change : Connection → Connection,
    after.connections = before.connections.map change ∧
      ∀ connection ∈ before.connections, connection.Keeps (change connection)
  clients : after.clients.Sublist before.clients
  removed : ∀ number ∈ before.clients, number ∉ after.clients →
    ∀ connection ∈ after.connections, connection.number = number → connection.isShut = true

theorem Calms.of_same (connections : after.connections = server.connections)
    (clients : after.clients = server.clients) : server.Calms after where
  connections := ⟨fun connection => connection, by simp [connections], fun _ _ => .refl _⟩
  clients := by rw [clients]
  removed := by
    intro number client gone
    exact absurd (clients ▸ client) gone

theorem Calms.refl (server : TcpServer) : server.Calms server := .of_same rfl rfl

/-- Every connection is a later one of before. -/
theorem Calms.exists_keeps (calms : server.Calms after) {connection : Connection}
    (membership : connection ∈ after.connections) :
    ∃ old ∈ server.connections, old.Keeps connection := by
  rcases calms.connections with ⟨change, changed, keeps⟩
  rw [changed] at membership
  rcases List.mem_map.mp membership with ⟨old, oldMembership, rfl⟩
  exact ⟨old, oldMembership, keeps old oldMembership⟩

/-- Every connection of before has a later one. -/
theorem Calms.exists_kept (calms : server.Calms after) {connection : Connection}
    (membership : connection ∈ server.connections) :
    ∃ new ∈ after.connections, connection.Keeps new := by
  rcases calms.connections with ⟨change, changed, keeps⟩
  refine ⟨change connection, ?_, keeps connection membership⟩
  rw [changed]
  exact List.mem_map_of_mem membership

theorem Calms.trans {middle : TcpServer} (first : server.Calms middle)
    (second : middle.Calms after) : server.Calms after where
  connections := by
    rcases first.connections with ⟨change, changed, keeps⟩
    rcases second.connections with ⟨further, furtherChanged, furtherKeeps⟩
    refine ⟨further ∘ change, by rw [furtherChanged, changed, List.map_map], ?_⟩
    intro connection membership
    refine (keeps connection membership).trans (furtherKeeps (change connection) ?_)
    rw [changed]
    exact List.mem_map_of_mem membership
  clients := second.clients.trans first.clients
  removed := by
    intro number client gone connection membership named
    by_cases between : number ∈ middle.clients
    · exact second.removed number between gone connection membership named
    · rcases second.exists_keeps membership with ⟨old, oldMembership, keeps⟩
      exact keeps.shut (first.removed number client between old oldMembership
        (keeps.number.symm.trans named))

theorem calms_alter {change : Connection → Connection} (number : Nat)
    (keeps : ∀ connection ∈ server.connections, connection.number = number →
      connection.Keeps (change connection)) :
    server.Calms (server.alter number change) where
  connections := by
    refine ⟨_, rfl, ?_⟩
    intro connection membership
    split
    next named => exact keeps connection membership named
    next => exact .refl connection
  clients := .refl _
  removed := by
    intro number client gone
    exact absurd client gone

/-- Some clients are shut down and removed. -/
theorem calms_remove {numbers clients : List Nat} (sublist : clients.Sublist server.clients)
    (covered : ∀ number ∈ server.clients, number ∉ clients → number ∈ numbers) :
    server.Calms { server.shut numbers with clients } where
  connections := by
    refine ⟨_, rfl, ?_⟩
    intro connection membership
    split
    next => exact ⟨rfl, rfl, fun _ => rfl, rfl⟩
    next => exact .refl connection
  clients := sublist
  removed := by
    intro number client gone connection membership named
    rcases List.mem_map.mp membership with ⟨old, oldMembership, rfl⟩
    split at named
    next listed => simp [listed]
    next unlisted => exact absurd (covered number client gone) (named ▸ unlisted)

theorem calms_shut (numbers : List Nat) : server.Calms (server.shut numbers) :=
  calms_remove (.refl _) fun _ client gone => absurd client gone

theorem calms_clientLeft (address : Endpoint) : server.Calms (server.clientLeft address) := by
  unfold clientLeft
  dsimp only
  split
  next => exact .refl server
  next =>
    refine (calms_remove List.filter_sublist ?_).trans (.of_same rfl rfl)
    intro number client gone
    by_contra unlisted
    refine gone (List.mem_filter.mpr ⟨client, ?_⟩)
    rw [Bool.not_eq_true', List.contains_eq_mem]
    exact decide_eq_false unlisted

/-- What a worker says when it ends. -/
theorem Gapless.calms_leave (gapless : server.Gapless frames) (worker : Worker) :
    server.Calms (server.leave worker) := by
  unfold leave
  split
  next => exact .refl server
  next number =>
    split
    next found =>
      rcases gapless.connection?_eq_some_iff.mp found with ⟨membership, named⟩
      refine (calms_clientLeft _).trans (calms_alter number ?_)
      intro later laterMembership laterNamed
      rcases (calms_clientLeft _).exists_keeps laterMembership with ⟨old, oldMembership, keeps⟩
      have same := List.inj_on_of_nodup_map gapless.keyed oldMembership membership
        (keeps.number.symm.trans (laterNamed.trans named.symm))
      refine ⟨rfl, ?_, fun shut => shut, rfl⟩
      rw [keeps.admitted, same]
      rfl
    next => exact .refl server
  next number =>
    split
    next =>
      refine (calms_clientLeft _).trans (calms_alter _ ?_)
      intro connection _ _
      exact ⟨rfl, rfl, fun shut => shut, rfl⟩
    next => exact .refl server

theorem calms_takeFrame (number : Nat) : server.Calms (server.takeFrame number) := by
  refine calms_alter number ?_
  intro connection _ _
  split
  next frame queue _ held queued =>
    refine ⟨rfl, rfl, fun shut => shut, ?_⟩
    simp [Connection.carried, held, queued]
  next => exact .refl connection

theorem calms_writeSome (number : Nat) (outcome : Except Unit Nat) :
    server.Calms (server.writeSome number outcome) := by
  refine calms_alter number ?_
  intro connection _ _
  split
  next rest count _ held =>
    refine ⟨rfl, rfl, fun shut => shut, ?_⟩
    have left : (if (rest.drop count).isEmpty then none else some (rest.drop count)).getD [] =
        rest.drop count := by
      split
      next done => simp [List.isEmpty_iff.mp done]
      next => rfl
    simp only [Connection.carried, held, left, Option.getD_some, List.append_assoc]
    rw [← List.append_assoc (rest.take count), List.take_append_drop]
  next => exact ⟨rfl, rfl, fun shut => shut, rfl⟩
  next => exact .refl connection

theorem calms_endWriter (number : Nat) : server.Calms (server.endWriter number) := by
  unfold endWriter
  split
  next => exact .refl server
  next =>
    refine calms_alter number ?_
    intro connection _ _
    split
    next => exact ⟨rfl, rfl, fun shut => shut, rfl⟩
    next => exact .refl connection

theorem calms_endReader (number : Nat) : server.Calms (server.endReader number) := by
  refine calms_alter number ?_
  intro connection _ _
  split
  next working => exact ⟨rfl, by rw [working]; rfl, fun shut => shut, rfl⟩
  next => exact .refl connection

theorem calms_start (calls : ListenCalls) : server.Calms (server.start calls).2 := by
  unfold start
  split
  next => exact .refl server
  next => split <;> exact .of_same rfl rfl

theorem calms_deliver (number : Nat) (chunk : Bytes) :
    server.Calms (server.deliver number chunk) := by
  unfold deliver
  split <;> exact .of_same rfl rfl

theorem calms_abandon (number : Nat) : server.Calms (server.abandon number) := by
  unfold abandon
  split
  next => exact calms_shut [number]
  next => exact .refl server

/-- The streams go on without gaps when nothing is sent and nobody is admitted. -/
theorem Gapless.calm (gapless : server.Gapless frames) (calms : server.Calms after) :
    after.Gapless frames where
  numbered := by
    rcases calms.connections with ⟨change, changed, keeps⟩
    rw [changed, List.length_map, List.map_map, ← gapless.numbered]
    exact List.map_congr_left fun connection membership => (keeps connection membership).number
  distinct := gapless.distinct.sublist calms.clients
  admitted := by
    intro number client
    rcases gapless.admitted number (calms.clients.subset client) with
      ⟨connection, membership, named, admitted⟩
    rcases calms.exists_kept membership with ⟨later, laterMembership, keeps⟩
    exact ⟨later, laterMembership, keeps.number.trans named, keeps.admitted.trans admitted⟩
  removed := by
    intro connection membership admitted gone
    rcases calms.exists_keeps membership with ⟨old, oldMembership, keeps⟩
    by_cases client : connection.number ∈ server.clients
    · exact calms.removed _ client gone connection membership rfl
    · exact keeps.shut (gapless.removed old oldMembership (keeps.admitted.symm.trans admitted)
        (keeps.number ▸ client))
  unheard := by
    intro number unadmitted
    refine gapless.unheard number ?_
    intro connection membership named
    rcases calms.exists_kept membership with ⟨later, laterMembership, keeps⟩
    exact keeps.admitted.symm.trans
      (unadmitted later laterMembership (keeps.number.trans named))
  served := by
    intro connection membership
    rcases calms.exists_keeps membership with ⟨old, oldMembership, keeps⟩
    rcases gapless.served old oldMembership with ⟨queued, missed, split, carried, few, gone⟩
    rw [keeps.number]
    refine ⟨queued, missed, split, keeps.carried.trans carried, few, ?_⟩
    intro some client
    exact gone some (calms.clients.subset (keeps.number ▸ client))

end TcpServer

end MavBridge
