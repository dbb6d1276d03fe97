import MavBridge.Proofs.Output.Streams

/-!
# Sending to the clients of a listening output

Only sending a frame adds to a stream, at its end, and it adds to the stream of every client that
remains.  Whatever the order in which connections come, are admitted and leave, and in which their
workers act, the streams have no gaps.
-/

namespace MavBridge

namespace Connection

/-- A connection after a frame has been sent to the clients, when some of them were kept. -/
def offered (clients kept : List Nat) (frame : Bytes) (connection : Connection) : Connection :=
  if connection.number ∈ kept then { connection with queue := connection.queue ++ [frame] }
  else if connection.number ∈ clients then { connection with isShut := true }
  else connection

section Offered

variable (clients kept : List Nat) (frame : Bytes) (connection : Connection)

@[simp]
theorem number_offered : (connection.offered clients kept frame).number = connection.number := by
  unfold offered
  split
  next => rfl
  next => split <;> rfl

@[simp]
theorem reader_offered : (connection.offered clients kept frame).reader = connection.reader := by
  unfold offered
  split
  next => rfl
  next => split <;> rfl

theorem carried_offered : (connection.offered clients kept frame).carried =
    connection.carried ++ if connection.number ∈ kept then frame else [] := by
  unfold offered
  split
  next => simp [carried]
  next => split <;> simp [carried]

theorem isShut_offered (shut : connection.isShut = true ∨
    connection.number ∈ clients ∧ connection.number ∉ kept) :
    (connection.offered clients kept frame).isShut = true := by
  unfold offered
  split
  next known => exact shut.resolve_right fun gone => gone.2 known
  next =>
    split
    next => rfl
    next unknown => exact shut.resolve_right fun gone => unknown gone.1

end Offered

end Connection

namespace TcpServer

variable {server after : TcpServer} {frames : Nat → List Bytes}

/-! ## Steps that add to a stream -/

theorem Gapless.accept (gapless : server.Gapless frames) (address : Endpoint) :
    (server.accept address).Gapless frames := by
  have fresh : ∀ connection ∈ server.connections,
      connection.number ≠ server.connections.length := by
    intro connection membership same
    have listed := List.mem_map_of_mem membership (f := Connection.number)
    rw [gapless.numbered, List.mem_range, same] at listed
    exact lt_irrefl _ listed
  constructor
  case numbered => simp [TcpServer.accept, gapless.numbered, List.range_succ]
  case distinct => exact gapless.distinct
  case admitted =>
    intro number client
    rcases gapless.admitted number client with ⟨connection, membership, found⟩
    exact ⟨connection, List.mem_append_left _ membership, found⟩
  case removed =>
    intro connection membership admitted gone
    rcases List.mem_append.mp membership with old | new
    · exact gapless.removed connection old admitted gone
    · rw [List.mem_singleton.mp new] at admitted
      cases admitted
  case unheard =>
    intro number unadmitted
    refine gapless.unheard number ?_
    intro connection membership
    exact unadmitted connection (List.mem_append_left _ membership)
  case served =>
    intro connection membership
    rcases List.mem_append.mp membership with old | new
    · exact gapless.served connection old
    · rw [List.mem_singleton.mp new]
      have silent : frames server.connections.length = [] :=
        gapless.unheard _ fun other otherMembership same =>
          absurd same (fresh other otherMembership)
      exact ⟨[], [], silent, rfl, by simp, by simp⟩

/-- A connection that awaits it becomes a client. -/
structure Admits (server : TcpServer) (number : Nat) (change : Connection → Connection)
    (after : TcpServer) : Prop where
  awaits : server.awaits number = true
  connections : after.connections = (server.alter number change).connections
  clients : after.clients = server.clients ++ [number]
  kept : ∀ connection, (change connection).number = connection.number ∧
    (change connection).carried = connection.carried
  admits : ∀ connection, (change connection).reader.isSome = true

theorem Admits.mem_iff {number : Nat} {change : Connection → Connection}
    (admission : server.Admits number change after) {connection : Connection} :
    connection ∈ after.connections ↔
      ∃ old ∈ server.connections,
        (if old.number = number then change old else old) = connection := by
  rw [admission.connections]
  exact List.mem_map

theorem Gapless.afterAdmission (gapless : server.Gapless frames) {number : Nat}
    {change : Connection → Connection} (admission : server.Admits number change after) :
    after.Gapless frames := by
  have silent : frames number = [] :=
    gapless.unheard number fun _ membership named =>
      gapless.unadmitted admission.awaits membership named
  constructor
  case numbered =>
    rw [admission.connections, alter, List.length_map, List.map_map, ← gapless.numbered]
    refine List.map_congr_left fun connection _ => ?_
    dsimp only [Function.comp_apply]
    split
    · exact (admission.kept connection).1
    · rfl
  case distinct =>
    rw [admission.clients]
    rw [← List.concat_eq_append]
    exact gapless.distinct.concat (gapless.not_client admission.awaits)
  case admitted =>
    intro other client
    by_cases mine : other = number
    · rcases gapless.awaits_iff.mp admission.awaits with ⟨connection, membership, named, _⟩
      refine ⟨change connection, admission.mem_iff.mpr ⟨connection, membership, by simp [named]⟩,
        ?_, admission.admits connection⟩
      rw [(admission.kept connection).1, named, mine]
    · have earlier : other ∈ server.clients := by simpa [admission.clients, mine] using client
      rcases gapless.admitted other earlier with ⟨connection, membership, named, admitted⟩
      refine ⟨connection, admission.mem_iff.mpr ⟨connection, membership, ?_⟩, named, admitted⟩
      rw [named, if_neg mine]
  case removed =>
    intro connection membership admitted gone
    rcases admission.mem_iff.mp membership with ⟨old, oldMembership, rfl⟩
    rw [admission.clients] at gone
    by_cases mine : old.number = number
    · simp [mine, admission.kept] at gone
    · rw [if_neg mine] at admitted gone ⊢
      exact gapless.removed old oldMembership admitted fun client =>
        gone (List.mem_append_left _ client)
  case unheard =>
    intro other unadmitted
    refine gapless.unheard other ?_
    intro connection membership named
    by_cases mine : connection.number = number
    · exact gapless.unadmitted admission.awaits membership mine
    · exact unadmitted connection
        (admission.mem_iff.mpr ⟨connection, membership, if_neg mine⟩) named
  case served =>
    intro connection membership
    rcases admission.mem_iff.mp membership with ⟨old, oldMembership, rfl⟩
    rcases gapless.served old oldMembership with ⟨queued, missed, split, carried, few, gone⟩
    by_cases mine : old.number = number
    · rw [mine, silent] at split
      rcases List.append_eq_nil_iff.mp split.symm with ⟨rfl, rfl⟩
      rw [if_pos mine, (admission.kept old).1, mine, silent]
      exact ⟨[], [], rfl, (admission.kept old).2.trans carried, by simp, by simp⟩
    · rw [if_neg mine]
      refine ⟨queued, missed, split, carried, few, ?_⟩
      intro some client
      rw [admission.clients] at client
      rcases List.mem_append.mp client with earlier | new
      · exact gone some earlier
      · exact mine (List.mem_singleton.mp new)

/-- Every client has a frame queued, or is shut down and no client any more. -/
structure FansOut (server : TcpServer) (frame : Bytes) (outcome : Except Fault Nat)
    (after : TcpServer) : Prop where
  clients : after.clients = server.clients.filter server.accepts
  connections : after.connections =
    server.connections.map (Connection.offered server.clients after.clients frame)
  outcome : outcome =
    if server.clients ≠ [] ∧ after.clients = [] then
      .error (.other ("All " ++ toString server.clients.length ++ " client(s) of '" ++ server.id
        ++ "' failed"))
    else .ok after.clients.length

theorem fansOut (server : TcpServer) (frame : Bytes) :
    server.FansOut frame (server.fanOut frame).1 (server.fanOut frame).2 := by
  have clients : (server.fanOut frame).2.clients = server.clients.filter server.accepts := by
    unfold fanOut
    dsimp only
    split
    next => rfl
    next => split <;> rfl
  constructor
  case clients => exact clients
  case connections =>
    have twofold : (server.fanOut frame).2.connections =
        ((server.enqueue (server.clients.filter server.accepts) frame).shut
          (server.clients.filter fun number => !server.accepts number)).connections := by
      unfold fanOut
      dsimp only
      split
      next => rfl
      next => split <;> rfl
    rw [twofold, clients, shut, enqueue, List.map_map]
    refine List.map_congr_left fun connection _ => ?_
    by_cases client : connection.number ∈ server.clients
    · by_cases accepted : server.accepts connection.number
      · simp [Connection.offered, client, accepted]
      · simp [Connection.offered, client, accepted]
    · simp [Connection.offered, client]
  case outcome =>
    rw [clients]
    unfold fanOut
    dsimp only
    split
    next unpruned =>
      have all : server.clients.filter server.accepts = server.clients := by
        refine List.filter_eq_self.mpr fun number client => ?_
        simpa using List.filter_eq_nil_iff.mp (List.isEmpty_iff.mp unpruned) number client
      simp [all]
    next pruned =>
      split
      next unkept =>
        have none := List.filter_eq_nil_iff.mp (List.isEmpty_iff.mp unkept)
        have all : server.clients.filter (fun number => !server.accepts number) =
            server.clients := by
          refine List.filter_eq_self.mpr fun number client => ?_
          simpa using none number client
        rw [all] at pruned ⊢
        rw [if_pos ⟨by simpa using pruned, List.isEmpty_iff.mp unkept⟩]
      next kept =>
        rw [if_neg fun condition => kept (List.isEmpty_iff.mpr condition.2)]

theorem FansOut.clients_sublist {frame : Bytes} {outcome : Except Fault Nat}
    (fans : server.FansOut frame outcome after) : after.clients.Sublist server.clients := by
  rw [fans.clients]
  exact List.filter_sublist

theorem FansOut.mem_iff {frame : Bytes} {outcome : Except Fault Nat}
    (fans : server.FansOut frame outcome after) {connection : Connection} :
    connection ∈ after.connections ↔ ∃ old ∈ server.connections,
      old.offered server.clients after.clients frame = connection := by
  rw [fans.connections]
  exact List.mem_map

/-- The stream of a client grows by the frame, or it is removed and has missed this frame only. -/
theorem Serves.fanOut {frame : Bytes} {outcome : Except Fault Nat} {connection : Connection}
    {frames : List Bytes} (serves : server.Serves connection frames)
    (fans : server.FansOut frame outcome after) :
    after.Serves (connection.offered server.clients after.clients frame)
      (frames ++ if connection.number ∈ server.clients then [frame] else []) := by
  rcases serves with ⟨queued, missed, split, carried, few, gone⟩
  by_cases client : connection.number ∈ server.clients
  · have complete : missed = [] := by
      by_contra some
      exact gone some client
    subst complete
    by_cases kept : connection.number ∈ after.clients
    · refine ⟨queued ++ [frame], [], ?_, ?_, by simp, by simp⟩
      · simp [client, split]
      · simp [Connection.carried_offered, kept, carried]
    · refine ⟨queued, [frame], ?_, ?_, by simp, fun _ => ?_⟩
      · simp [client, split]
      · simp [Connection.carried_offered, kept, carried]
      · rwa [Connection.number_offered]
  · have unkept : connection.number ∉ after.clients := fun kept =>
      client (fans.clients_sublist.subset kept)
    refine ⟨queued, missed, ?_, ?_, few, fun _ => ?_⟩
    · simp [client, split]
    · simp [Connection.carried_offered, unkept, carried]
    · rwa [Connection.number_offered]

theorem Gapless.fanOut (gapless : server.Gapless frames) {frame : Bytes}
    {outcome : Except Fault Nat} (fans : server.FansOut frame outcome after) :
    after.Gapless fun number =>
      frames number ++ if number ∈ server.clients then [frame] else [] := by
  constructor
  case numbered =>
    rw [fans.connections, List.length_map, List.map_map, ← gapless.numbered]
    exact List.map_congr_left fun connection _ => Connection.number_offered ..
  case distinct => exact gapless.distinct.sublist fans.clients_sublist
  case admitted =>
    intro number client
    rcases gapless.admitted number (fans.clients_sublist.subset client) with
      ⟨connection, membership, named, admitted⟩
    exact ⟨_, fans.mem_iff.mpr ⟨connection, membership, rfl⟩, by simpa, by simpa⟩
  case removed =>
    intro connection membership admitted gone
    rcases fans.mem_iff.mp membership with ⟨old, oldMembership, rfl⟩
    rw [Connection.reader_offered] at admitted
    rw [Connection.number_offered] at gone
    refine Connection.isShut_offered _ _ _ _ ?_
    by_cases client : old.number ∈ server.clients
    · exact .inr ⟨client, gone⟩
    · exact .inl (gapless.removed old oldMembership admitted client)
  case unheard =>
    intro number unadmitted
    have absent : ∀ connection ∈ server.connections, connection.number = number →
        connection.reader.isSome = false := by
      intro connection membership named
      simpa using unadmitted _ (fans.mem_iff.mpr ⟨connection, membership, rfl⟩) (by simpa)
    have stranger : number ∉ server.clients := by
      intro client
      rcases gapless.admitted number client with ⟨connection, membership, named, admitted⟩
      rw [absent connection membership named] at admitted
      cases admitted
    simp [gapless.unheard number absent, stranger]
  case served =>
    intro connection membership
    rcases fans.mem_iff.mp membership with ⟨old, oldMembership, rfl⟩
    rw [Connection.number_offered]
    exact (gapless.served old oldMembership).fanOut fans

/-! ## Whole runs -/

/-- What a step can do, and the frames that it sends. -/
inductive Effect (server : TcpServer) : (Nat → List Bytes) → TcpServer → Prop where
  | calm {after : TcpServer} : server.Calms after → Effect server (fun _ => []) after
  | accept (address : Endpoint) : Effect server (fun _ => []) (server.accept address)
  | admission {number : Nat} {change : Connection → Connection} {after : TcpServer} :
      server.Admits number change after → Effect server (fun _ => []) after
  | fanOut {frame : Bytes} {outcome : Except Fault Nat} {after : TcpServer} :
      server.FansOut frame outcome after →
      Effect server (fun number => if number ∈ server.clients then [frame] else []) after

theorem effect_register (server : TcpServer) (number : Nat) :
    server.Effect (fun _ => []) (server.register number) := by
  unfold register
  split
  next => exact .calm (.refl server)
  next awaits =>
    split
    next => exact .admission ⟨by simpa using awaits, rfl, rfl, fun _ => ⟨rfl, rfl⟩, fun _ => rfl⟩
    next => exact .calm (calms_shut [number])

theorem effect_registerUnserved (server : TcpServer) (number : Nat) :
    server.Effect (fun _ => []) (server.registerUnserved number) := by
  unfold registerUnserved
  split
  next allowed =>
    exact .admission ⟨(Bool.and_eq_true_iff.mp allowed).1, rfl, rfl, fun _ => ⟨rfl, rfl⟩,
      fun _ => rfl⟩
  next => exact .calm (.refl server)

theorem Gapless.effect (gapless : server.Gapless frames) (step : Step) :
    server.Effect (fun number => server.offers number step) (server.step step) := by
  cases step with
  | start calls => exact .calm (calms_start calls)
  | accept address => exact .accept address
  | reap => exact .calm (.of_same rfl rfl)
  | register number => exact effect_register server number
  | registerUnserved number => exact effect_registerUnserved server number
  | abandon number => exact .calm (calms_abandon number)
  | send frame =>
      simp only [offers, TcpServer.step, send]
      by_cases running : server.isRunning = true
      · simpa [running] using Effect.fanOut (server.fansOut frame)
      · simpa [running] using Effect.calm (.refl server)
  | fanOut frame => exact .fanOut (server.fansOut frame)
  | takeFrame number => exact .calm (calms_takeFrame number)
  | writeSome number outcome => exact .calm (calms_writeSome number outcome)
  | endWriter number => exact .calm (calms_endWriter number)
  | deliver number chunk => exact .calm (calms_deliver number chunk)
  | endReader number => exact .calm (calms_endReader number)
  | leave worker => exact .calm (gapless.calms_leave worker)
  | close => exact .calm (.of_same rfl rfl)
  | drainClients =>
      exact .calm (calms_remove (List.nil_sublist _) fun number client _ => client)
  | takeWorkers => exact .calm (.of_same rfl rfl)
  | forgetAddress => exact .calm (.of_same rfl rfl)

theorem Gapless.afterEffect {sent : Nat → List Bytes} (gapless : server.Gapless frames)
    (effect : server.Effect sent after) :
    after.Gapless fun number => frames number ++ sent number := by
  cases effect with
  | calm calms => simpa using gapless.calm calms
  | accept address => simpa using gapless.accept address
  | admission admits => simpa using gapless.afterAdmission admits
  | fanOut fans => exact gapless.fanOut fans

/-- Over a run, every stream goes on with what is sent. -/
theorem Gapless.run (gapless : server.Gapless frames) (steps : List Step) :
    (server.run steps).Gapless fun number => frames number ++ offered number server steps := by
  induction steps generalizing server frames with
  | nil => simpa [TcpServer.run, offered] using gapless
  | cons step later inductionHypothesis =>
      have next := inductionHypothesis (gapless.afterEffect (gapless.effect step))
      simpa [TcpServer.run, offered] using next

theorem gapless_run (id bindAddress : String) (steps : List Step) :
    ((create id bindAddress).run steps).Gapless fun number =>
      offered number (create id bindAddress) steps := by
  simpa using (gapless_create id bindAddress).run steps

/-- A connection has been admitted, and is no client any more. -/
def Departed (server : TcpServer) (number : Nat) : Prop :=
  number ∉ server.clients ∧
    ∃ connection ∈ server.connections, connection.number = number ∧ connection.reader.isSome = true

theorem Departed.afterEffect {sent : Nat → List Bytes} {number : Nat}
    (departed : server.Departed number) (gapless : server.Gapless frames)
    (effect : server.Effect sent after) : after.Departed number := by
  rcases departed with ⟨gone, connection, membership, named, admitted⟩
  cases effect with
  | calm calms =>
      rcases calms.exists_kept membership with ⟨later, laterMembership, keeps⟩
      exact ⟨fun client => gone (calms.clients.subset client), later, laterMembership,
        keeps.number.trans named, keeps.admitted.trans admitted⟩
  | accept address =>
      exact ⟨gone, connection, List.mem_append_left _ membership, named, admitted⟩
  | @admission new change _ admission =>
      have other : number ≠ new := by
        rintro rfl
        rw [gapless.unadmitted admission.awaits membership named] at admitted
        cases admitted
      refine ⟨?_, connection, admission.mem_iff.mpr ⟨connection, membership, ?_⟩, named, admitted⟩
      · simp [admission.clients, gone, other]
      · rw [named, if_neg other]
  | fanOut fans =>
      exact ⟨fun client => gone (fans.clients_sublist.subset client), _,
        fans.mem_iff.mpr ⟨connection, membership, rfl⟩, by simpa, by simpa⟩

theorem offers_eq_nil {number : Nat} (stranger : number ∉ server.clients) (step : Step) :
    server.offers number step = [] := by
  unfold offers
  split <;> simp [stranger]

/-- Who has left does not come back, and is sent nothing. -/
theorem Departed.run {number : Nat} (departed : server.Departed number)
    (gapless : server.Gapless frames) (later : List Step) :
    (server.run later).Departed number ∧ offered number server later = [] := by
  induction later generalizing server frames with
  | nil => exact ⟨departed, rfl⟩
  | cons step later inductionHypothesis =>
      have effect := gapless.effect step
      rcases inductionHypothesis (departed.afterEffect gapless effect)
        (gapless.afterEffect effect) with ⟨stays, nothing⟩
      refine ⟨stays, ?_⟩
      rw [offered, offers_eq_nil departed.1, nothing, List.nil_append]

/-- Whatever the order of steps, what has been written to a connection is a prefix of the frames
that were sent while it was a client, which it is once at most; its stream lacks no frame but that
of the sending that removed it and shut it down. A sending queues its frame once for every client
that remains, answers their number, and fails only when it removes the last. -/
theorem streams_have_no_gaps (id bindAddress : String) (steps : List Step) :
    let server := (create id bindAddress).run steps
    (∀ connection ∈ server.connections, ∃ queued missed,
      offered connection.number (create id bindAddress) steps = queued ++ missed ∧
      connection.carried = queued.flatten ∧ connection.written <+: queued.flatten ∧
      missed.length ≤ 1 ∧
      (missed ≠ [] → connection.number ∉ server.clients ∧ connection.isShut = true)) ∧
    (∀ connection ∈ server.connections, connection.reader.isSome = true →
      connection.number ∉ server.clients → connection.isShut = true ∧
      ∀ later, connection.number ∉ (server.run later).clients ∧
        offered connection.number server later = []) ∧
    (server.clients.Nodup ∧ ∀ number ∈ server.clients,
      ∃! connection, connection ∈ server.connections ∧ connection.number = number) ∧
    ∀ frame, server.FansOut frame (server.fanOut frame).1 (server.fanOut frame).2 ∧
      (server.isRunning = true → server.send frame = server.fanOut frame) := by
  intro server
  have gapless : server.Gapless _ := gapless_run id bindAddress steps
  refine ⟨?_, ?_, ⟨gapless.distinct, ?_⟩, ?_⟩
  · intro connection membership
    rcases gapless.served connection membership with ⟨queued, missed, split, carried, few, gone⟩
    refine ⟨queued, missed, split, carried, carried ▸ connection.written_prefix_carried, few, ?_⟩
    intro some
    refine ⟨gone some, gapless.removed connection membership ?_ (gone some)⟩
    -- Something was sent to it, so it has been admitted.
    by_contra unadmitted
    have silent := gapless.unheard connection.number fun other otherMembership same => by
      rw [List.inj_on_of_nodup_map gapless.keyed otherMembership membership same]
      simpa using unadmitted
    exact some (List.append_eq_nil_iff.mp (split.symm.trans silent)).2
  · intro connection membership admitted gone
    refine ⟨gapless.removed connection membership admitted gone, fun later => ?_⟩
    have departed : server.Departed connection.number :=
      ⟨gone, connection, membership, rfl, admitted⟩
    exact ⟨(departed.run gapless later).1.1, (departed.run gapless later).2⟩
  · intro number client
    rcases gapless.admitted number client with ⟨connection, membership, named, _⟩
    refine ⟨connection, ⟨membership, named⟩, ?_⟩
    rintro other ⟨otherMembership, otherNamed⟩
    exact List.inj_on_of_nodup_map gapless.keyed otherMembership membership
      (otherNamed.trans named.symm)
  · intro frame
    refine ⟨server.fansOut frame, fun running => ?_⟩
    simp [send, running]

/-- Two connections are admitted, the second without a writer, and two frames are sent. -/
def twoConnections : List Step :=
  let loopback : IpAddress := .v4 [127, 0, 0, 1]
  [.start ⟨.ok ⟨loopback, 5760⟩, .ok (), .ok ⟨loopback, 5760⟩⟩,
    .accept ⟨loopback, 40000⟩, .accept ⟨loopback, 40001⟩, .register 0, .registerUnserved 1,
    .send [1, 2, 3], .takeFrame 0, .writeSome 0 (.ok 2), .send [4, 5]]

theorem streams_have_no_gaps_twoConnections :
    let server := (create "out" "127.0.0.1:5760").run twoConnections
    server.clients = [0] ∧
      (∃ connection ∈ server.connections, connection.written = [1, 2] ∧
        ∃ queued missed,
          offered connection.number (create "out" "127.0.0.1:5760") twoConnections =
            queued ++ missed ∧ connection.written <+: queued.flatten) ∧
      offered 1 (create "out" "127.0.0.1:5760") twoConnections = [[1, 2, 3]] ∧
      ∀ later, 1 ∉ (server.run later).clients := by
  intro server
  rcases streams_have_no_gaps "out" "127.0.0.1:5760" twoConnections with ⟨streams, departed, _⟩
  have served : ∃ connection ∈ server.connections, connection.written = [1, 2] := by decide
  have unserved : ∃ connection ∈ server.connections, connection.number = 1 ∧
      connection.reader.isSome = true ∧ connection.number ∉ server.clients := by decide
  rcases served with ⟨connection, membership, written⟩
  rcases unserved with ⟨other, otherMembership, named, admitted, gone⟩
  rcases streams connection membership with ⟨queued, missed, split, _, prefixed, _⟩
  refine ⟨by decide, ⟨connection, membership, written, queued, missed, split, prefixed⟩,
    by decide, fun later => ?_⟩
  rw [← named]
  exact ((departed other otherMembership admitted gone).2 later).1

end TcpServer

end MavBridge
