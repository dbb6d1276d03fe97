import MavBridge.Proofs.Output.Stopping

/-!
# Clients that leave a listening output

A client leaves by its address, and an address may be given out again once the connection that had
it has been shut down.  So of several connections with one address only the last can be open, and a
worker that is late with saying so takes that one with it.
-/

namespace MavBridge

namespace Connection

/-- A connection at a later time, shut down if it was. -/
structure Ages (before after : Connection) : Prop where
  number : after.number = before.number
  address : after.address = before.address
  shut : before.isShut = true → after.isShut = true

theorem Ages.of_same {before after : Connection} (number : after.number = before.number)
    (address : after.address = before.address) (shut : after.isShut = before.isShut) :
    before.Ages after :=
  ⟨number, address, fun already => shut.trans already⟩

theorem Ages.refl (connection : Connection) : connection.Ages connection := .of_same rfl rfl rfl

end Connection

namespace TcpServer

variable {server after : TcpServer} {frames : Nat → List Bytes} {worker : Worker}
  {connection other : Connection} {address : Endpoint}

/-! ## Addresses that are given out again -/

/-- An accepted connection has an address that no other has but those that are shut down. -/
def allows (server : TcpServer) : Step → Bool
  | .accept address => server.connections.all fun connection =>
      connection.address != address || connection.isShut
  | _ => true

/-- Every step of a run is allowed. -/
def Admissible : TcpServer → List Step → Prop
  | _, [] => True
  | server, step :: later => server.allows step = true ∧ Admissible (server.step step) later

instance decidableAdmissible :
    (server : TcpServer) → (steps : List Step) → Decidable (server.Admissible steps)
  | _, [] => inferInstanceAs (Decidable True)
  | server, step :: later =>
      have := decidableAdmissible (server.step step) later
      inferInstanceAs (Decidable (_ ∧ _))

/-- Of connections with one address all but the last are shut down. -/
def Recycles (server : TcpServer) : Prop :=
  ∀ earlier ∈ server.connections, ∀ later ∈ server.connections,
    earlier.address = later.address → earlier.number < later.number → earlier.isShut = true

/-- The same connections at a later time. -/
def Ages (before after : TcpServer) : Prop :=
  ∃ change : Connection → Connection, after.connections = before.connections.map change ∧
    ∀ connection : Connection, connection.Ages (change connection)

theorem Ages.of_same (same : after.connections = server.connections) : server.Ages after :=
  ⟨fun connection => connection, by rw [same, List.map_id'], .refl⟩

theorem Ages.refl (server : TcpServer) : server.Ages server := .of_same rfl

theorem Ages.trans {middle : TcpServer} (first : server.Ages middle) (second : middle.Ages after) :
    server.Ages after := by
  rcases first with ⟨change, changed, ages⟩
  rcases second with ⟨further, furtherChanged, furtherAges⟩
  refine ⟨further ∘ change, by rw [furtherChanged, changed, List.map_map], ?_⟩
  intro connection
  have sooner := ages connection
  have later := furtherAges (change connection)
  exact ⟨later.number.trans sooner.number, later.address.trans sooner.address,
    later.shut ∘ sooner.shut⟩

theorem ages_alter (number : Nat) {change : Connection → Connection}
    (ages : ∀ connection : Connection, connection.Ages (change connection)) :
    server.Ages (server.alter number change) := by
  refine ⟨_, rfl, ?_⟩
  intro connection
  split
  · exact ages connection
  · exact .refl connection

theorem ages_shut (numbers : List Nat) : server.Ages (server.shut numbers) := by
  refine ⟨_, rfl, ?_⟩
  intro connection
  split
  · exact ⟨rfl, rfl, fun _ => rfl⟩
  · exact .refl connection

theorem ages_clientLeft (address : Endpoint) : server.Ages (server.clientLeft address) := by
  unfold clientLeft
  dsimp only
  split
  · exact .refl server
  · exact (ages_shut _).trans (.of_same rfl)

theorem ages_leave (worker : Worker) : server.Ages (server.leave worker) := by
  unfold leave
  split
  · exact .refl server
  · split
    · apply (ages_clientLeft _).trans
      apply ages_alter
      exact fun _ => .of_same rfl rfl rfl
    · exact .refl server
  · split
    · apply (ages_clientLeft _).trans
      apply ages_alter
      exact fun _ => .of_same rfl rfl rfl
    · exact .refl server

theorem ages_fanOut (frame : Bytes) : server.Ages (server.fanOut frame).2 := by
  refine ⟨_, (server.fansOut frame).connections, ?_⟩
  intro connection
  refine ⟨Connection.number_offered .., ?_, ?_⟩
  · unfold Connection.offered
    split
    · rfl
    · split <;> rfl
  · intro already
    exact Connection.isShut_offered _ _ _ _ (.inl already)

/-- Every step but an acceptance. -/
theorem ages_step {step : Step} (noNew : ∀ address, step ≠ .accept address) :
    server.Ages (server.step step) := by
  cases step with
  | accept address => exact absurd rfl (noNew address)
  | start calls =>
      simp only [TcpServer.step, start]
      split
      · exact .refl server
      · split <;> exact .of_same rfl
  | reap => exact .of_same rfl
  | register number =>
      simp only [TcpServer.step, register]
      split
      · exact .refl server
      · split
        · apply Ages.trans (ages_alter number _) (.of_same rfl)
          exact fun _ => .of_same rfl rfl rfl
        · exact ages_shut [number]
  | registerUnserved number =>
      simp only [TcpServer.step, registerUnserved]
      split
      · apply Ages.trans (ages_alter number _) (.of_same rfl)
        exact fun _ => ⟨rfl, rfl, fun _ => rfl⟩
      · exact .refl server
  | abandon number =>
      simp only [TcpServer.step, abandon]
      split
      · exact ages_shut [number]
      · exact .refl server
  | send frame =>
      simp only [TcpServer.step, send]
      split
      · exact .refl server
      · exact ages_fanOut frame
  | fanOut frame => exact ages_fanOut frame
  | takeFrame number =>
      apply ages_alter
      intro connection
      split <;> exact .of_same rfl rfl rfl
  | writeSome number outcome =>
      apply ages_alter
      intro connection
      split <;> exact .of_same rfl rfl rfl
  | endWriter number =>
      simp only [TcpServer.step, endWriter]
      split
      · exact .refl server
      · apply ages_alter
        intro connection
        split <;> exact .of_same rfl rfl rfl
  | deliver number chunk =>
      simp only [TcpServer.step, deliver]
      split <;> exact .of_same rfl
  | endReader number =>
      apply ages_alter
      intro connection
      split <;> exact .of_same rfl rfl rfl
  | leave worker => exact ages_leave worker
  | close => exact .of_same rfl
  | drainClients => exact (ages_shut _).trans (.of_same rfl)
  | takeWorkers => exact .of_same rfl
  | forgetAddress => exact .of_same rfl

theorem Recycles.age (recycles : server.Recycles) (ages : server.Ages after) : after.Recycles := by
  rcases ages with ⟨change, changed, ages⟩
  intro earlier membership later laterMembership sameAddress before
  rw [changed] at membership laterMembership
  rcases List.mem_map.mp membership with ⟨old, oldMembership, rfl⟩
  rcases List.mem_map.mp laterMembership with ⟨oldLater, oldLaterMembership, rfl⟩
  rw [(ages old).address, (ages oldLater).address] at sameAddress
  rw [(ages old).number, (ages oldLater).number] at before
  exact (ages old).shut (recycles old oldMembership oldLater oldLaterMembership sameAddress before)

theorem Recycles.accept (recycles : server.Recycles) (gapless : server.Gapless frames)
    (allowed : server.allows (.accept address) = true) : (server.accept address).Recycles := by
  have free (connection : Connection) (membership : connection ∈ server.connections)
      (same : connection.address = address) : connection.isShut = true := by
    have known := List.all_eq_true.mp allowed connection membership
    simpa [same] using known
  have numbered (connection : Connection) (membership : connection ∈ server.connections) :
      connection.number < server.connections.length := by
    have listed := List.mem_map_of_mem membership (f := Connection.number)
    rwa [gapless.numbered, List.mem_range] at listed
  intro earlier membership later laterMembership sameAddress before
  rcases List.mem_append.mp membership with old | new
  · rcases List.mem_append.mp laterMembership with oldLater | newLater
    · exact recycles earlier old later oldLater sameAddress before
    · rw [List.mem_singleton.mp newLater] at sameAddress
      exact free earlier old sameAddress
  · -- Nothing comes after the new connection.
    rw [List.mem_singleton.mp new] at before
    change server.connections.length < later.number at before
    rcases List.mem_append.mp laterMembership with oldLater | newLater
    · exact absurd (numbered later oldLater) (Nat.lt_asymm before)
    · rw [List.mem_singleton.mp newLater] at before
      exact absurd before (Nat.lt_irrefl _)

theorem Recycles.step (recycles : server.Recycles) (gapless : server.Gapless frames) {step : Step}
    (allowed : server.allows step = true) : (server.step step).Recycles := by
  cases step with
  | accept address => exact recycles.accept gapless allowed
  | _ => exact recycles.age (ages_step nofun)

theorem Recycles.run (recycles : server.Recycles) (gapless : server.Gapless frames)
    {steps : List Step} (admissible : server.Admissible steps) : (server.run steps).Recycles := by
  induction steps generalizing server frames with
  | nil => exact recycles
  | cons step later inductionHypothesis =>
      exact inductionHypothesis (recycles.step gapless admissible.1)
        (gapless.afterEffect (gapless.effect step)) admissible.2

theorem recycles_run (id bindAddress : String) {steps : List Step}
    (admissible : (create id bindAddress).Admissible steps) :
    ((create id bindAddress).run steps).Recycles := by
  refine Recycles.run ?_ (gapless_create id bindAddress) admissible
  intro connection membership
  cases membership

/-! ## Leaving -/

/-- A worker has seen the end of its connection, and has not yet said so. -/
inductive Departs (server : TcpServer) : Worker → Connection → Prop where
  | reader {connection : Connection} : connection ∈ server.connections →
      connection.reader = some .leaving → Departs server (.reader connection.number) connection
  | writer {connection : Connection} : connection ∈ server.connections →
      connection.writer = some .leaving → Departs server (.writer connection.number) connection

/-- The clients with an address. -/
def addressed (server : TcpServer) (address : Endpoint) : List Nat :=
  server.clients.filter fun number =>
    (server.connection? number).any fun connection => connection.address == address

theorem Gapless.mem_addressed (gapless : server.Gapless frames)
    (membership : connection ∈ server.connections) :
    connection.number ∈ server.addressed address ↔
      connection.number ∈ server.clients ∧ connection.address = address := by
  have found := gapless.connection?_eq_some_iff.mpr ⟨membership, rfl⟩
  rw [addressed, List.mem_filter, found, Option.any_some, beq_iff_eq]

theorem connections_clientLeft (server : TcpServer) (address : Endpoint) :
    (server.clientLeft address).connections = (server.shut (server.addressed address)).connections ∧
      ∀ number, number ∈ (server.clientLeft address).clients ↔
        number ∈ server.clients ∧ number ∉ server.addressed address := by
  unfold clientLeft
  dsimp only
  split
  next nobody =>
    have none : server.addressed address = [] := List.isEmpty_iff.mp nobody
    rw [none]
    simp [shut]
  next =>
    refine ⟨rfl, ?_⟩
    intro number
    rw [tellChange, List.mem_filter, Bool.not_eq_true', List.contains_eq_mem,
      decide_eq_false_iff_not]
    rfl

/-- A worker that leaves takes the clients with its address along, and changes nothing else of any
connection but its own. -/
theorem Gapless.leave_eq (gapless : server.Gapless frames)
    (departs : server.Departs worker connection) :
    ∃ change : Connection → Connection,
      (∀ connection, (change connection).isShut = connection.isShut) ∧
      server.leave worker =
        (server.clientLeft connection.address).alter connection.number change := by
  cases departs with
  | reader membership leaving =>
      have found := gapless.connection?_eq_some_iff.mpr ⟨membership, rfl⟩
      refine ⟨fun connection => { connection with reader := some .ended }, fun _ => rfl, ?_⟩
      rcases connection with ⟨number, address, isShut, queue, inHand, written, reader, writer⟩
      cases leaving
      simp only [leave, found]
  | writer membership leaving =>
      have found := gapless.connection?_eq_some_iff.mpr ⟨membership, rfl⟩
      refine ⟨fun connection => { connection with writer := some .ended }, fun _ => rfl, ?_⟩
      rcases connection with ⟨number, address, isShut, queue, inHand, written, reader, writer⟩
      cases leaving
      simp only [leave, found]

section Leaving

variable (gapless : server.Gapless frames) (departs : server.Departs worker connection)

include departs

theorem Departs.membership : connection ∈ server.connections := by
  cases departs with
  | reader membership => exact membership
  | writer membership => exact membership

theorem Departs.admitted (staffed : server.Staffed) : connection.reader.isSome = true := by
  cases departs with
  | reader _ leaving => rw [leaving, Option.isSome_some]
  | writer membership leaving =>
      rw [← staffed.paired connection membership, leaving, Option.isSome_some]

include gapless

theorem Gapless.mem_clients_leave {number : Nat} : number ∈ (server.leave worker).clients ↔
    number ∈ server.clients ∧ number ∉ server.addressed connection.address := by
  rcases gapless.leave_eq departs with ⟨change, -, left⟩
  rw [left]
  exact (connections_clientLeft server connection.address).2 number

/-- What becomes of another connection. -/
theorem Gapless.mem_connections_leave (membership : other ∈ server.connections)
    (different : other.number ≠ connection.number) :
    (if other.number ∈ server.addressed connection.address then { other with isShut := true }
      else other) ∈ (server.leave worker).connections := by
  rcases gapless.leave_eq departs with ⟨change, -, left⟩
  rw [left, alter, (connections_clientLeft server connection.address).1, shut, List.map_map]
  refine List.mem_map.mpr ⟨other, membership, ?_⟩
  rw [Function.comp_apply]
  split <;> rfl

theorem Gapless.not_client_leave : connection.number ∉ (server.leave worker).clients := by
  intro client
  rcases (gapless.mem_clients_leave departs).mp client with ⟨wasClient, untouched⟩
  exact untouched ((gapless.mem_addressed departs.membership).mpr ⟨wasClient, rfl⟩)

/-- A client with the same address goes along. -/
theorem Gapless.taken_along (membership : other ∈ server.connections)
    (different : other.number ≠ connection.number)
    (along : other.number ∈ server.clients ∧ other.address = connection.address) :
    other.number ∉ (server.leave worker).clients ∧
      { other with isShut := true } ∈ (server.leave worker).connections := by
  rw [← gapless.mem_addressed membership] at along
  have shut := gapless.mem_connections_leave departs membership different
  rw [if_pos along] at shut
  exact ⟨fun client => ((gapless.mem_clients_leave departs).mp client).2 along, shut⟩

/-- Everybody else stays. -/
theorem Gapless.unmoved (membership : other ∈ server.connections)
    (different : other.number ≠ connection.number)
    (elsewhere : ¬ (other.number ∈ server.clients ∧ other.address = connection.address)) :
    other ∈ (server.leave worker).connections ∧
      (other.number ∈ (server.leave worker).clients ↔ other.number ∈ server.clients) := by
  rw [← gapless.mem_addressed membership] at elsewhere
  have kept := gapless.mem_connections_leave departs membership different
  rw [if_neg elsewhere] at kept
  exact ⟨kept, (gapless.mem_clients_leave departs).trans (and_iff_left elsewhere)⟩

/-- A connection that is open when its worker leaves is a client still. -/
theorem Gapless.client_of_open (staffed : server.Staffed) (isOpen : connection.isShut = false) :
    connection.number ∈ server.clients := by
  by_contra gone
  have shut := gapless.removed connection departs.membership (departs.admitted staffed) gone
  rw [isOpen] at shut
  cases shut

end Leaving

/-- An open connection came after any other that has its address, and that one is shut down. -/
theorem Recycles.shut_of_open (recycles : server.Recycles)
    (membership : connection ∈ server.connections)
    (otherMembership : other ∈ server.connections) (different : other.number ≠ connection.number)
    (sameAddress : other.address = connection.address) (isOpen : other.isShut = false) :
    connection.isShut = true ∧ connection.number < other.number := by
  rcases Nat.lt_or_gt_of_ne different with earlier | later
  · have shut := recycles other otherMembership connection membership sameAddress earlier
    rw [isOpen] at shut
    cases shut
  · exact ⟨recycles connection membership other otherMembership sameAddress.symm later, later⟩

theorem Recycles.eq_of_open (recycles : server.Recycles) (gapless : server.Gapless frames)
    (membership : connection ∈ server.connections) (otherMembership : other ∈ server.connections)
    (sameAddress : other.address = connection.address) (isOpen : connection.isShut = false)
    (otherIsOpen : other.isShut = false) : other = connection := by
  by_contra distinct
  have different : other.number ≠ connection.number := by
    intro same
    exact distinct (List.inj_on_of_nodup_map gapless.keyed otherMembership membership same)
  have shut := recycles.shut_of_open membership otherMembership different sameAddress otherIsOpen
  rw [isOpen] at shut
  cases shut.1

/-- A worker that leaves takes just the clients with its connection's address along, and these are
shut down.  An open one among them that is not its own connection came later, after its own had been
shut down, and there is one of that kind at most.  A connection that is open when its worker leaves
is a client, and every other open connection stays as it is. -/
theorem departure_goes_by_address (id bindAddress : String) {steps : List Step}
    (admissible : (create id bindAddress).Admissible steps)
    (departs : ((create id bindAddress).run steps).Departs worker connection) :
    let server := (create id bindAddress).run steps
    let after := server.leave worker
    connection.number ∉ after.clients ∧
    (∀ other ∈ server.connections, other.number ≠ connection.number →
      if other.number ∈ server.clients ∧ other.address = connection.address then
        other.number ∉ after.clients ∧ { other with isShut := true } ∈ after.connections ∧
          (other.isShut = false → connection.isShut = true ∧ connection.number < other.number)
      else other ∈ after.connections ∧
        (other.number ∈ after.clients ↔ other.number ∈ server.clients)) ∧
    (∀ first ∈ server.connections, ∀ second ∈ server.connections, first.address = second.address →
      first.isShut = false → second.isShut = false → first = second) ∧
    (connection.isShut = false → connection.number ∈ server.clients ∧
      ∀ other ∈ server.connections, other.number ≠ connection.number → other.isShut = false →
        other ∈ after.connections ∧
          (other.number ∈ after.clients ↔ other.number ∈ server.clients)) := by
  intro server after
  have gapless : server.Gapless _ := gapless_run id bindAddress steps
  have recycles : server.Recycles := recycles_run id bindAddress admissible
  refine ⟨gapless.not_client_leave departs, ?_, ?_, ?_⟩
  · intro other membership different
    split
    next along =>
      rcases gapless.taken_along departs membership different along with ⟨removed, shut⟩
      refine ⟨removed, shut, ?_⟩
      exact recycles.shut_of_open departs.membership membership different along.2
    next elsewhere => exact gapless.unmoved departs membership different elsewhere
  · intro first membership second secondMembership sameAddress isOpen secondIsOpen
    exact recycles.eq_of_open gapless secondMembership membership sameAddress secondIsOpen isOpen
  · intro isOpen
    refine ⟨gapless.client_of_open departs (staffed_run id bindAddress steps) isOpen, ?_⟩
    intro other membership different otherIsOpen
    apply gapless.unmoved departs membership different
    rintro ⟨-, sameAddress⟩
    have same := recycles.eq_of_open gapless departs.membership membership sameAddress isOpen
      otherIsOpen
    exact different (congrArg Connection.number same)

/-- The writer of a client fails and leaves, its address is given out again; its reader is late. -/
def lateReader : List Step :=
  let loopback : IpAddress := .v4 [127, 0, 0, 1]
  [.start ⟨.ok ⟨loopback, 5760⟩, .ok (), .ok ⟨loopback, 5760⟩⟩,
    .accept ⟨loopback, 40000⟩, .register 0, .send [1, 2, 3], .takeFrame 0, .writeSome 0 (.error ()),
    .leave (.writer 0), .accept ⟨loopback, 40000⟩, .register 1, .endReader 0]

theorem departure_goes_by_address_punctual :
    let server := (create "out" "127.0.0.1:5760").run (lateReader.take 6)
    ∃ connection, server.Departs (.writer 0) connection ∧ connection.number ∈ server.clients ∧
      connection.number ∉ (server.leave (.writer 0)).clients := by
  intro server
  have admissible : (create "out" "127.0.0.1:5760").Admissible (lateReader.take 6) := by decide
  have failed : ∃ connection ∈ server.connections, connection.number = 0 ∧
      connection.writer = some .leaving ∧ connection.isShut = false := by decide
  rcases failed with ⟨connection, membership, named, leaving, isOpen⟩
  have departs : server.Departs (.writer 0) connection := named ▸ .writer membership leaving
  have gone := departure_goes_by_address "out" "127.0.0.1:5760" admissible departs
  exact ⟨connection, departs, (gone.2.2.2 isOpen).1, gone.1⟩

/-- The reader that is late takes the open connection along that has the address now. -/
theorem late_departure_takes_another :
    let server := (create "out" "127.0.0.1:5760").run lateReader
    let after := server.leave (.reader 0)
    (create "out" "127.0.0.1:5760").Admissible lateReader ∧
      (∃ connection, server.Departs (.reader 0) connection ∧ connection.number ∉ server.clients) ∧
      1 ∈ server.clients ∧ (server.connection? 1).map (·.isShut) = some false ∧
      1 ∉ after.clients ∧ (after.connection? 1).map (·.isShut) = some true := by
  intro server after
  have left : ∃ connection ∈ server.connections, connection.number = 0 ∧
      connection.reader = some .leaving ∧ connection.number ∉ server.clients := by decide
  rcases left with ⟨connection, membership, named, leaving, gone⟩
  have departs : server.Departs (.reader 0) connection := named ▸ .reader membership leaving
  exact ⟨by decide, ⟨connection, departs, gone⟩, by decide, by decide, by decide, by decide⟩

end TcpServer

end MavBridge
