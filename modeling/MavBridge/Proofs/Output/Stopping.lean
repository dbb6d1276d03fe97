import MavBridge.Proofs.Output.FanOut

/-!
# Stopping a listening output

Stopping is four steps of the output's owner, and between them everybody else goes on.  An output
that does not run admits nobody, so its clients and its workers only become fewer, and what its
owner has emptied stays empty.  A connection that comes too late is shut down and never served.
-/

namespace MavBridge

namespace TcpServer

/-- The steps of the output's owner. -/
def Step.isOwners : Step → Bool
  | .start _ | .close | .drainClients | .takeWorkers | .forgetAddress => true
  | _ => false

/-- The parts of stopping, in order. -/
def stopping : List Step := [.close, .drainClients, .takeWorkers, .forgetAddress]

variable {server after : TcpServer} {frames : Nat → List Bytes}

theorem run_append (server : TcpServer) (first second : List Step) :
    server.run (first ++ second) = (server.run first).run second := List.foldl_append

theorem run_cons (server : TcpServer) (step : Step) (later : List Step) :
    server.run (step :: later) = (server.step step).run later := rfl

theorem stop_eq_run (running : server.isRunning = true) :
    server.stop = server.run stopping := by
  rw [stop, if_pos running]
  rfl

/-! ## Outputs that do not run -/

/-- No client has come, and no worker has been started. -/
structure Shrinks (before after : TcpServer) : Prop where
  isRunning : after.isRunning = before.isRunning
  clients : after.clients.Sublist before.clients
  workers : after.workers.Sublist before.workers

theorem Shrinks.refl (server : TcpServer) : server.Shrinks server :=
  ⟨rfl, .refl _, .refl _⟩

theorem Shrinks.trans {middle : TcpServer} (first : server.Shrinks middle)
    (second : middle.Shrinks after) : server.Shrinks after where
  isRunning := second.isRunning.trans first.isRunning
  clients := second.clients.trans first.clients
  workers := second.workers.trans first.workers

theorem shrinks_alter (number : Nat) (change : Connection → Connection) :
    server.Shrinks (server.alter number change) := ⟨rfl, .refl _, .refl _⟩

theorem shrinks_shut (numbers : List Nat) : server.Shrinks (server.shut numbers) :=
  ⟨rfl, .refl _, .refl _⟩

theorem shrinks_clientLeft (address : Endpoint) : server.Shrinks (server.clientLeft address) := by
  unfold clientLeft
  dsimp only
  split
  · exact .refl server
  · exact ⟨rfl, List.filter_sublist, .refl _⟩

theorem shrinks_leave (worker : Worker) : server.Shrinks (server.leave worker) := by
  unfold leave
  split
  · exact .refl server
  · split
    · exact (shrinks_clientLeft _).trans (shrinks_alter _ _)
    · exact .refl server
  · split
    · exact (shrinks_clientLeft _).trans (shrinks_alter _ _)
    · exact .refl server

theorem shrinks_fanOut (frame : Bytes) : server.Shrinks (server.fanOut frame).2 := by
  refine ⟨?_, (server.fansOut frame).clients_sublist, ?_⟩
  all_goals
    unfold fanOut
    dsimp only
    split
    · rfl
    · split <;> rfl

theorem shrinks_step (closed : server.isRunning = false) {step : Step}
    (others : step.isOwners = false) : server.Shrinks (server.step step) := by
  cases step with
  | start calls => cases others
  | close => cases others
  | drainClients => cases others
  | takeWorkers => cases others
  | forgetAddress => cases others
  | accept address => exact ⟨rfl, .refl _, .refl _⟩
  | reap => exact ⟨rfl, .refl _, List.filter_sublist⟩
  | register number =>
      simp only [TcpServer.step, register, closed]
      split
      · exact .refl server
      · exact shrinks_shut [number]
  | registerUnserved number =>
      simp only [TcpServer.step, registerUnserved, closed, Bool.and_false]
      exact .refl server
  | abandon number =>
      simp only [TcpServer.step, abandon]
      split
      · exact shrinks_shut [number]
      · exact .refl server
  | send frame =>
      simp only [TcpServer.step, send, closed]
      exact .refl server
  | fanOut frame => exact shrinks_fanOut frame
  | takeFrame number => exact shrinks_alter number _
  | writeSome number outcome => exact shrinks_alter number _
  | endWriter number =>
      simp only [TcpServer.step, endWriter]
      split
      · exact .refl server
      · exact shrinks_alter number _
  | deliver number chunk =>
      simp only [TcpServer.step, deliver]
      split <;> exact ⟨rfl, .refl _, .refl _⟩
  | endReader number => exact shrinks_alter number _
  | leave worker => exact shrinks_leave worker

theorem shrinks_run (closed : server.isRunning = false) {steps : List Step}
    (others : ∀ step ∈ steps, step.isOwners = false) : server.Shrinks (server.run steps) := by
  induction steps generalizing server with
  | nil => exact .refl server
  | cons step later inductionHypothesis =>
      rw [List.forall_mem_cons] at others
      have first := shrinks_step closed others.1
      exact first.trans (inductionHypothesis (first.isRunning.trans closed) others.2)

/-- However the parts of stopping are spread over a run, they leave neither clients nor workers. -/
theorem emptied_run {steps : List Step} (stops : steps.filter Step.isOwners = stopping) :
    (server.run steps).isRunning = false ∧ (server.run steps).clients = [] ∧
      (server.run steps).workers = [] := by
  -- The other steps come before, between and after the four parts.
  obtain ⟨first, rest, rfl, -, -, stops⟩ := List.filter_eq_cons_iff.mp stops
  obtain ⟨second, rest, rfl, others, -, stops⟩ := List.filter_eq_cons_iff.mp stops
  obtain ⟨third, rest, rfl, othersThen, -, stops⟩ := List.filter_eq_cons_iff.mp stops
  obtain ⟨fourth, last, rfl, othersLater, -, stops⟩ := List.filter_eq_cons_iff.mp stops
  have othersLast := List.filter_eq_nil_iff.mp stops
  simp only [Bool.not_eq_true] at others othersThen othersLater othersLast
  simp only [run_append, run_cons, TcpServer.step]
  have closing : (server.run first).close.Shrinks _ := shrinks_run rfl others
  generalize (server.run first).close.run second = closed at closing ⊢
  have isClosed : closed.drainClients.isRunning = false := closing.isRunning
  have draining := shrinks_run isClosed othersThen
  generalize closed.drainClients.run third = drained at draining ⊢
  have isDrained : drained.takeWorkers.isRunning = false := draining.isRunning.trans isClosed
  have taking := shrinks_run isDrained othersLater
  generalize drained.takeWorkers.run fourth = taken at taking ⊢
  have isTaken : taken.forgetAddress.isRunning = false := taking.isRunning.trans isDrained
  have ending := shrinks_run isTaken othersLast
  refine ⟨ending.isRunning.trans isTaken, ?_, ?_⟩
  · apply List.sublist_nil.mp
    exact ending.clients.trans (taking.clients.trans draining.clients)
  · apply List.sublist_nil.mp
    exact ending.workers.trans taking.workers

/-! ## Connections that come too late -/

/-- A thread of a connection is to be waited for. -/
def Employs (server : TcpServer) (number : Nat) : Prop :=
  Worker.reader number ∈ server.workers ∨ Worker.writer number ∈ server.workers

/-- A connection has a reader and a writer once it has been admitted, and neither before. -/
structure Staffed (server : TcpServer) : Prop where
  paired : ∀ connection ∈ server.connections,
    connection.writer.isSome = connection.reader.isSome
  employed : ∀ number, server.Employs number →
    ∃ connection ∈ server.connections, connection.number = number ∧ connection.reader.isSome = true

namespace Staffed

theorem of_map (staffed : server.Staffed) (change : Connection → Connection)
    (connections : after.connections = server.connections.map change)
    (same : ∀ connection ∈ server.connections,
      (change connection).number = connection.number ∧
      (change connection).reader.isSome = connection.reader.isSome ∧
      (change connection).writer.isSome = connection.writer.isSome)
    (workers : ∀ number, after.Employs number → server.Employs number) : after.Staffed where
  paired := by
    intro connection membership
    rw [connections] at membership
    obtain ⟨old, oldMembership, rfl⟩ := List.mem_map.mp membership
    obtain ⟨-, reader, writer⟩ := same old oldMembership
    rw [reader, writer]
    exact staffed.paired old oldMembership
  employed := by
    intro number employs
    obtain ⟨old, membership, named, admitted⟩ := staffed.employed number (workers number employs)
    obtain ⟨sameNumber, reader, -⟩ := same old membership
    refine ⟨change old, ?_, sameNumber.trans named, reader.trans admitted⟩
    rw [connections]
    exact List.mem_map_of_mem membership

theorem of_connections (staffed : server.Staffed)
    (connections : after.connections = server.connections)
    (workers : ∀ number, after.Employs number → server.Employs number) : after.Staffed :=
  staffed.of_map (fun connection => connection) (by simp [connections])
    (fun _ _ => ⟨rfl, rfl, rfl⟩) workers

theorem alter (staffed : server.Staffed) (number : Nat) {change : Connection → Connection}
    (same : ∀ connection ∈ server.connections, connection.number = number →
      (change connection).number = connection.number ∧
      (change connection).reader.isSome = connection.reader.isSome ∧
      (change connection).writer.isSome = connection.writer.isSome) :
    (server.alter number change).Staffed := by
  refine staffed.of_map _ rfl ?_ fun _ employs => employs
  intro connection membership
  split
  · next named => exact same connection membership named
  · exact ⟨rfl, rfl, rfl⟩

theorem shut (staffed : server.Staffed) (numbers : List Nat) : (server.shut numbers).Staffed := by
  refine staffed.of_map _ rfl ?_ fun _ employs => employs
  intro connection _
  split <;> exact ⟨rfl, rfl, rfl⟩

theorem clientLeft (staffed : server.Staffed) (address : Endpoint) :
    (server.clientLeft address).Staffed := by
  unfold TcpServer.clientLeft
  dsimp only
  split
  · exact staffed
  · exact (staffed.shut _).of_connections rfl fun _ employs => employs

/-- A worker of this connection says that it has ended. -/
theorem leave (staffed : server.Staffed) (gapless : server.Gapless frames) (worker : Worker) :
    (server.leave worker).Staffed := by
  have same {number : Nat} {found connection : Connection}
      (known : server.connection? number = some found)
      (membership : connection ∈ (server.clientLeft found.address).connections)
      (named : connection.number = number) :
      connection.reader.isSome = found.reader.isSome ∧
        connection.writer.isSome = found.writer.isSome := by
    obtain ⟨foundMembership, foundNamed⟩ := gapless.connection?_eq_some_iff.mp known
    obtain ⟨old, oldMembership, keeps⟩ := (calms_clientLeft _).exists_keeps membership
    have theSame : old = found := List.inj_on_of_nodup_map gapless.keyed oldMembership
      foundMembership (keeps.number.symm.trans (named.trans foundNamed.symm))
    subst theSame
    have reader := keeps.admitted
    refine ⟨reader, ?_⟩
    rw [(staffed.clientLeft _).paired connection membership, reader,
      staffed.paired old foundMembership]
  unfold TcpServer.leave
  split
  · exact staffed
  · split
    · next found =>
        refine (staffed.clientLeft _).alter _ ?_
        intro connection membership named
        exact ⟨rfl, (same found membership named).1.symm, rfl⟩
    · exact staffed
  · split
    · next found =>
        refine (staffed.clientLeft _).alter _ ?_
        intro connection membership named
        exact ⟨rfl, rfl, (same found membership named).2.symm⟩
    · exact staffed

theorem accept (staffed : server.Staffed) (address : Endpoint) :
    (server.accept address).Staffed where
  paired := by
    intro connection membership
    rcases List.mem_append.mp membership with old | new
    · exact staffed.paired connection old
    · rw [List.mem_singleton.mp new]
  employed := by
    intro number employs
    obtain ⟨connection, membership, found⟩ := staffed.employed number employs
    exact ⟨connection, List.mem_append_left _ membership, found⟩

/-- A connection that awaits it is given its reader and its writer. -/
theorem admission (staffed : server.Staffed) (gapless : server.Gapless frames) {number : Nat}
    {change : Connection → Connection} (awaits : server.awaits number = true)
    (connections : after.connections = (server.alter number change).connections)
    (manned : ∀ connection, (change connection).number = connection.number ∧
      (change connection).reader.isSome = true ∧ (change connection).writer.isSome = true)
    (workers : ∀ other, after.Employs other → server.Employs other ∨ other = number) :
    after.Staffed where
  paired := by
    intro connection membership
    rw [connections] at membership
    obtain ⟨old, oldMembership, rfl⟩ := List.mem_map.mp membership
    split
    · rw [(manned old).2.1, (manned old).2.2]
    · exact staffed.paired old oldMembership
  employed := by
    intro other employs
    have admitted : ∃ connection ∈ server.connections, connection.number = other ∧
        (connection.number = number ∨ connection.reader.isSome = true) := by
      rcases workers other employs with earlier | rfl
      · obtain ⟨connection, membership, named, manned⟩ := staffed.employed other earlier
        exact ⟨connection, membership, named, .inr manned⟩
      · obtain ⟨connection, membership, named, -⟩ := gapless.awaits_iff.mp awaits
        exact ⟨connection, membership, named, .inl named⟩
    obtain ⟨connection, membership, named, either⟩ := admitted
    rw [connections]
    refine ⟨_, List.mem_map_of_mem membership, ?_⟩
    split
    · exact ⟨(manned connection).1.trans named, (manned connection).2.1⟩
    · next theirs => exact ⟨named, either.resolve_left theirs⟩

theorem fanOut (staffed : server.Staffed) (frame : Bytes) : (server.fanOut frame).2.Staffed := by
  refine staffed.of_map _ (server.fansOut frame).connections ?_ ?_
  · intro connection _
    refine ⟨Connection.number_offered .., by rw [Connection.reader_offered], ?_⟩
    unfold Connection.offered
    split
    · rfl
    · split <;> rfl
  · intro number employs
    exact employs.imp (fun held => (shrinks_fanOut frame).workers.subset held)
      fun held => (shrinks_fanOut frame).workers.subset held

end Staffed

theorem Staffed.step (staffed : server.Staffed) (gapless : server.Gapless frames) (step : Step) :
    (server.step step).Staffed := by
  cases step with
  | start calls =>
      simp only [TcpServer.step, start]
      split
      · exact staffed
      · split
        · exact staffed
        · exact staffed
        · exact staffed
        · exact staffed.of_connections rfl fun number employs => by simpa [Employs] using employs
  | accept address => exact staffed.accept address
  | reap =>
      refine staffed.of_connections rfl fun number employs => ?_
      exact employs.imp List.mem_of_mem_filter List.mem_of_mem_filter
  | register number =>
      simp only [TcpServer.step, register]
      split
      · exact staffed
      · next awaits =>
          split
          · refine staffed.admission gapless (by simpa using awaits) rfl
              (fun _ => ⟨rfl, rfl, rfl⟩) ?_
            intro other employs
            simp only [Employs, tellChange, List.mem_append, List.mem_cons, Worker.reader.injEq,
              Worker.writer.injEq, reduceCtorEq, List.not_mem_nil] at employs ⊢
            tauto
          · exact staffed.shut [number]
  | registerUnserved number =>
      simp only [TcpServer.step, registerUnserved]
      split
      · next allowed =>
          refine staffed.admission gapless (Bool.and_eq_true_iff.mp allowed).1 rfl
            (fun _ => ⟨rfl, rfl, rfl⟩) ?_
          intro other employs
          simpa [Employs, or_assoc, or_comm, or_left_comm] using employs
      · exact staffed
  | abandon number =>
      simp only [TcpServer.step, abandon]
      split
      · exact staffed.shut [number]
      · exact staffed
  | send frame =>
      simp only [TcpServer.step, send]
      split
      · exact staffed
      · exact staffed.fanOut frame
  | fanOut frame => exact staffed.fanOut frame
  | takeFrame number =>
      refine staffed.alter number fun connection _ _ => ?_
      split <;> exact ⟨rfl, rfl, rfl⟩
  | writeSome number outcome =>
      refine staffed.alter number fun connection _ _ => ?_
      split
      · exact ⟨rfl, rfl, rfl⟩
      · next working _ => exact ⟨rfl, rfl, by rw [working]; rfl⟩
      · exact ⟨rfl, rfl, rfl⟩
  | endWriter number =>
      simp only [TcpServer.step, endWriter]
      split
      · exact staffed
      · refine staffed.alter number fun connection _ _ => ?_
        split
        · next working _ _ => exact ⟨rfl, rfl, by rw [working]; rfl⟩
        · exact ⟨rfl, rfl, rfl⟩
  | deliver number chunk =>
      simp only [TcpServer.step, deliver]
      split
      · exact staffed.of_connections rfl fun _ employs => employs
      · exact staffed
  | endReader number =>
      refine staffed.alter number fun connection _ _ => ?_
      split
      · next working => exact ⟨rfl, by rw [working]; rfl, rfl⟩
      · exact ⟨rfl, rfl, rfl⟩
  | leave worker => exact staffed.leave gapless worker
  | close => exact staffed.of_connections rfl fun _ employs => employs
  | drainClients => exact (staffed.shut _).of_connections rfl fun _ employs => employs
  | takeWorkers =>
      refine staffed.of_connections rfl fun number employs => ?_
      simp [Employs, TcpServer.step, takeWorkers] at employs
  | forgetAddress => exact staffed.of_connections rfl fun _ employs => employs

theorem Staffed.run (staffed : server.Staffed) (gapless : server.Gapless frames)
    (steps : List Step) : (server.run steps).Staffed := by
  induction steps generalizing server frames with
  | nil => exact staffed
  | cons step later inductionHypothesis =>
      exact inductionHypothesis (staffed.step gapless step)
        (gapless.afterEffect (gapless.effect step))

theorem staffed_run (id bindAddress : String) (steps : List Step) :
    ((create id bindAddress).run steps).Staffed := by
  apply Staffed.run _ (gapless_create id bindAddress)
  constructor <;> simp [create, Employs]

/-- A connection has been shut down, and was not admitted. -/
def Spurned (server : TcpServer) (number : Nat) : Prop :=
  ∃ connection ∈ server.connections, connection.number = number ∧
    connection.reader.isSome = false ∧ connection.isShut = true

namespace Spurned

variable {number : Nat}

theorem afterEffect {sent : Nat → List Bytes} (spurned : server.Spurned number)
    (gapless : server.Gapless frames) (effect : server.Effect sent after) :
    after.Spurned number := by
  obtain ⟨connection, membership, named, absent, shut⟩ := spurned
  cases effect with
  | calm calms =>
      obtain ⟨later, laterMembership, keeps⟩ := calms.exists_kept membership
      exact ⟨later, laterMembership, keeps.number.trans named, keeps.admitted.trans absent,
        keeps.shut shut⟩
  | accept address =>
      exact ⟨connection, List.mem_append_left _ membership, named, absent, shut⟩
  | @admission new change _ admission =>
      have other : connection.number ≠ new := by
        intro mine
        obtain ⟨waiting, waitingMembership, waitingNamed, -, unshut⟩ :=
          gapless.awaits_iff.mp admission.awaits
        rw [List.inj_on_of_nodup_map gapless.keyed membership waitingMembership
          (mine.trans waitingNamed.symm), unshut] at shut
        cases shut
      refine ⟨connection, admission.mem_iff.mpr ⟨connection, membership, ?_⟩, named, absent, shut⟩
      exact if_neg other
  | fanOut fans =>
      refine ⟨_, fans.mem_iff.mpr ⟨connection, membership, rfl⟩, by simpa, ?_,
        Connection.isShut_offered _ _ _ _ (.inl shut)⟩
      rw [Connection.reader_offered]
      exact absent

theorem run (spurned : server.Spurned number) (gapless : server.Gapless frames)
    (later : List Step) : (server.run later).Spurned number := by
  induction later generalizing server frames with
  | nil => exact spurned
  | cons step later inductionHypothesis =>
      have effect := gapless.effect step
      exact inductionHypothesis (spurned.afterEffect gapless effect) (gapless.afterEffect effect)

/-- Nobody serves it. -/
theorem unserved (spurned : server.Spurned number) (gapless : server.Gapless frames)
    (staffed : server.Staffed) :
    number ∉ server.clients ∧ ¬ server.Employs number ∧
      ∀ connection ∈ server.connections, connection.number = number →
        connection.isShut = true ∧ connection.reader = none ∧ connection.writer = none := by
  obtain ⟨connection, membership, named, absent, shut⟩ := spurned
  have only {other : Connection} (otherMembership : other ∈ server.connections)
      (otherNamed : other.number = number) : other = connection :=
    List.inj_on_of_nodup_map gapless.keyed otherMembership membership
      (otherNamed.trans named.symm)
  refine ⟨?_, ?_, ?_⟩
  · intro client
    obtain ⟨other, otherMembership, otherNamed, admitted⟩ := gapless.admitted number client
    rw [only otherMembership otherNamed, absent] at admitted
    cases admitted
  · intro employs
    obtain ⟨other, otherMembership, otherNamed, admitted⟩ := staffed.employed number employs
    rw [only otherMembership otherNamed, absent] at admitted
    cases admitted
  · intro other otherMembership otherNamed
    rw [only otherMembership otherNamed]
    refine ⟨shut, Option.isSome_eq_false_iff.mp absent |> Option.isNone_iff_eq_none.mp, ?_⟩
    have unpaired := staffed.paired connection membership
    rw [absent] at unpaired
    exact Option.isNone_iff_eq_none.mp (Option.isSome_eq_false_iff.mp unpaired)

end Spurned

/-- Who would be admitted while the output stops is shut down instead. -/
theorem spurned_register {number : Nat} (gapless : server.Gapless frames)
    (closed : server.isRunning = false) (awaits : server.awaits number = true) :
    (server.register number).Spurned number := by
  obtain ⟨connection, membership, named, absent, -⟩ := gapless.awaits_iff.mp awaits
  simp only [register, awaits, closed, Bool.not_true, Bool.false_eq_true, if_false]
  refine ⟨{ connection with isShut := true }, ?_, named, absent, rfl⟩
  refine List.mem_map.mpr ⟨connection, membership, ?_⟩
  rw [if_pos (List.mem_singleton.mpr named)]

/-- However the parts of stopping are spread among the steps of everybody else, in the end there
are no clients and no workers, and every connection that was accepted has been shut down, unless
it still awaits its admission.  That shuts it down as well: a connection which comes to be admitted
while the output does not run is never a client, and is given neither a reader nor a writer. -/
theorem nothing_left_after_stopping (id bindAddress : String) (before steps : List Step)
    (stops : steps.filter Step.isOwners = stopping) :
    let server := (create id bindAddress).run (before ++ steps)
    (server.clients = [] ∧ server.workers = [] ∧
      ∀ connection ∈ server.connections,
        connection.isShut = true ∨ server.awaits connection.number = true) ∧
    (∀ earlier later number,
      let found := (create id bindAddress).run earlier
      let last := (found.register number).run later
      found.isRunning = false → found.awaits number = true →
        number ∉ last.clients ∧ ¬ last.Employs number ∧
        ∀ connection ∈ last.connections, connection.number = number →
          connection.isShut = true ∧ connection.reader = none ∧ connection.writer = none) ∧
    ∀ running : TcpServer, running.isRunning = true → running.stop = running.run stopping := by
  intro server
  refine ⟨?_, ?_, fun _ => stop_eq_run⟩
  · have gapless : server.Gapless _ := gapless_run id bindAddress (before ++ steps)
    have emptied : server.isRunning = false ∧ server.clients = [] ∧ server.workers = [] := by
      rw [show server = _ from run_append _ before steps]
      exact emptied_run stops
    refine ⟨emptied.2.1, emptied.2.2, fun connection membership => ?_⟩
    cases admitted : connection.reader.isSome with
    | true =>
        left
        apply gapless.removed connection membership admitted
        simp [emptied.2.1]
    | false =>
        cases shut : connection.isShut with
        | true => exact .inl rfl
        | false =>
            right
            exact gapless.awaits_iff.mpr ⟨connection, membership, rfl, admitted, shut⟩
  · intro earlier later number found last closed awaits
    have gapless : found.Gapless _ := gapless_run id bindAddress earlier
    have registered : found.register number =
        (create id bindAddress).run (earlier ++ [.register number]) := by
      rw [run_append]
      rfl
    have whole : last = (create id bindAddress).run ((earlier ++ [.register number]) ++ later) := by
      rw [run_append, ← registered]
    have spurned : last.Spurned number :=
      (spurned_register gapless closed awaits).run
        (gapless.afterEffect (gapless.effect (.register number))) later
    obtain ⟨frames, gaplessLast⟩ : ∃ frames, last.Gapless frames := by
      rw [whole]
      exact ⟨_, gapless_run id bindAddress _⟩
    apply spurned.unserved gaplessLast
    rw [whole]
    exact staffed_run id bindAddress _

/-- One connection is a client and two have been accepted when the output is stopped. -/
def beforeStopping : List Step :=
  let loopback : IpAddress := .v4 [127, 0, 0, 1]
  [.start ⟨.ok ⟨loopback, 5760⟩, .ok (), .ok ⟨loopback, 5760⟩⟩, .accept ⟨loopback, 40000⟩,
    .accept ⟨loopback, 40001⟩, .accept ⟨loopback, 40002⟩, .register 0]

/-- One of them comes to be admitted before the clients are shut down, the other one after that. -/
def whileStopping : List Step :=
  [.close, .reap, .register 1, .drainClients, .endReader 0, .leave (.reader 0), .takeWorkers,
    .register 2, .reap, .forgetAddress]

theorem nothing_left_after_stopping_late :
    ((create "out" "127.0.0.1:5760").run beforeStopping).clients = [0] ∧
      whileStopping.filter Step.isOwners = stopping ∧
      (let server := (create "out" "127.0.0.1:5760").run (beforeStopping ++ whileStopping)
      server.connections.length = 3 ∧ server.clients = [] ∧ server.workers = [] ∧
        ∀ connection ∈ server.connections,
          connection.isShut = true ∨ server.awaits connection.number = true) ∧
      ∀ later, 1 ∉ ((((create "out" "127.0.0.1:5760").run
        (beforeStopping ++ [.close, .reap])).register 1).run later).clients := by
  obtain ⟨⟨clients, workers, shut⟩, late, -⟩ :=
    nothing_left_after_stopping "out" "127.0.0.1:5760" beforeStopping whileStopping rfl
  refine ⟨by decide, rfl, ⟨by decide, clients, workers, shut⟩, fun later => ?_⟩
  have refused := late (beforeStopping ++ [.close, .reap]) later 1 (by decide) (by decide)
  exact refused.1

end TcpServer

end MavBridge
