import MavBridge.Proofs.Bridge.Lifecycle
import MavBridge.Proofs.Param.Interludes

/-!
# What is asked about parameters

While a call sends its frame nothing happens to the exchange of its session; while it waits, the
reader resolves echoes, and nothing else.  So a bridge with a session is a place to make calls in,
and whatever is asked of it, when that is answered every name is free again.
-/

namespace MavBridge

open Exchange (Interlude Leads)

namespace Exchange

theorem leads_resolveAll (exchange : Exchange) (reports : List ParamReport) :
    Leads exchange (exchange.resolveAll reports) := by
  induction reports generalizing exchange with
  | nil => exact .refl exchange
  | cons report reports inductionHypothesis =>
      exact (Leads.step exchange (.resolve report)).trans (inductionHypothesis _)

theorem interlude_resolveAll (exchange : Exchange) (reports : List ParamReport) :
    Interlude exchange (exchange.resolveAll reports) := by
  induction reports generalizing exchange with
  | nil => exact .nothing exchange
  | cons report reports inductionHypothesis =>
      exact (Interlude.echo report (.nothing exchange)).trans (inductionHypothesis _)

end Exchange

/-- Everything that has happened to the session's exchange was steps, and no call holds a name. -/
structure Session.Rested (session : Session) : Prop where
  reached : Leads .empty session.intake.exchange
  free : session.intake.exchange.pending = []

namespace Session.Rested

variable {session : Session}

theorem coherent (rested : session.Rested) : session.intake.exchange.Coherent := by
  rcases rested.reached with ⟨steps, reached⟩
  rw [reached]
  exact Exchange.coherent_run steps

theorem resolve (rested : session.Rested) {intake : Intake Decoder} {reports : List ParamReport}
    (heard : intake.exchange = session.intake.exchange.resolveAll reports)
    (listener : Option TcpServer) : Session.Rested { session with intake, listener } := by
  have settled := (session.intake.exchange.interlude_resolveAll reports).settled rested.coherent
  refine ⟨?_, ?_⟩
  · rw [heard]
    exact rested.reached.trans (Exchange.leads_resolveAll _ reports)
  · rw [heard, settled.pending]
    exact rested.free

end Session.Rested

theorem Session.lasts_rested : Session.Lasts Session.Rested where
  observe _ _ rested := ⟨rested.reached, rested.free⟩
  hear _ _ listener _ rested heard := rested.resolve heard listener

theorem Session.Begun.rested {session : Session} {decoder : Decoder} {replay : Bytes}
    (begun : session.Begun decoder replay) : session.Rested := by
  refine ⟨?_, ?_⟩
  · rw [begun.exchange]
    exact .refl _
  · rw [begun.exchange]

namespace Bridge

variable {ω χ : Type} {station : Station ω χ} {bridge : Bridge ω χ}

/-! ## The surroundings of a call -/

theorem exchange_surroundings {session : Session} (present : bridge.session = some session) :
    (surroundings station).exchange bridge = session.intake.exchange := by
  simp [surroundings, present]

theorem lasts_resolved (exchange : Exchange) :
    Session.Lasts fun session =>
      ∃ reports, session.intake.exchange = exchange.resolveAll reports where
  observe _ _ resolved := resolved
  hear session intake listener reports resolved heard := by
    rcases resolved with ⟨earlier, before⟩
    refine ⟨earlier ++ reports, heard.trans ?_⟩
    rw [before, Exchange.resolveAll, Exchange.resolveAll, Exchange.resolveAll, List.foldl_append]

/-- While a call waits, echoes come. -/
theorem exchange_wait (ready : bridge.session.isSome = true) :
    ((surroundings station).wait bridge).session.isSome = true ∧
      ∃ reports, (surroundings station).exchange ((surroundings station).wait bridge) =
        ((surroundings station).exchange bridge).resolveAll reports := by
  rcases Option.isSome_iff_exists.mp ready with ⟨session, present⟩
  rcases HasSession.pump (lasts_resolved session.intake.exchange) ⟨session, present, [], rfl⟩ with
    ⟨later, presentLater, reports, resolved⟩
  have waited : ((surroundings station).wait bridge).session = some later := presentLater
  rw [exchange_surroundings present, exchange_surroundings waited, waited]
  exact ⟨rfl, reports, resolved⟩

/-- A frame goes to the device, past the exchange. -/
theorem exchange_send (ready : bridge.session.isSome = true) (frame : Bytes) :
    ((surroundings station).send frame bridge).2.session.isSome = true ∧
      (surroundings station).exchange ((surroundings station).send frame bridge).2 =
        (surroundings station).exchange bridge := by
  rcases Option.isSome_iff_exists.mp ready with ⟨session, present⟩
  simp [surroundings, present]

/-- A bridge with a session holds one exchange. -/
theorem keeps_surroundings (station : Station ω χ) :
    (surroundings station).Keeps fun bridge => bridge.session.isSome = true where
  held exchange bridge ready := by
    rcases Option.isSome_iff_exists.mp ready with ⟨session, present⟩
    simp [surroundings, present]
  put exchange bridge ready := by simpa [surroundings] using ready
  send frame _ ready := (exchange_send ready frame).1
  wait _ ready := (exchange_wait ready).1

theorem acts_surroundings (station : Station ω χ) :
    (surroundings station).Acts fun bridge => bridge.session.isSome = true where
  keeps := keeps_surroundings station
  send frame bridge ready := by
    rw [(exchange_send ready frame).2]
    exact .refl _
  wait bridge ready := by
    rcases (exchange_wait ready).2 with ⟨reports, resolved⟩
    rw [resolved]
    exact Exchange.leads_resolveAll _ reports

theorem nests_surroundings (station : Station ω χ) :
    (surroundings station).Nests fun bridge => bridge.session.isSome = true where
  keeps := keeps_surroundings station
  send frame bridge ready _ := by
    rw [(exchange_send ready frame).2]
    exact .nothing _
  wait bridge ready _ := by
    rcases (exchange_wait ready).2 with ⟨reports, resolved⟩
    rw [resolved]
    exact Exchange.interlude_resolveAll _ reports

/-! ## Between calls -/

theorem HasSession.perform_rested (has : bridge.HasSession Session.Rested) (target : Identity)
    (request : ParamRequest) :
    ((surroundings station).perform target request bridge).2.HasSession Session.Rested := by
  rcases has with ⟨session, present, rested⟩
  have ready : bridge.session.isSome = true := by simp [present]
  have nests := nests_surroundings station
  rcases Option.isSome_iff_exists.mp (nests.keeps.perform target request ready) with
    ⟨later, presentLater⟩
  have coherent : ((surroundings station).exchange bridge).Coherent := by
    rw [exchange_surroundings present]
    exact rested.coherent
  have acted := (acts_surroundings station).perform target request ready
  have waiting := ((nests.perform target request ready coherent).settled coherent).pending
  rw [exchange_surroundings present, exchange_surroundings presentLater] at acted waiting
  exact ⟨later, presentLater, rested.reached.trans acted, waiting.trans rested.free⟩

/-- Between its boundaries a session stays, and is at rest again after each operation. -/
theorem HasSession.operate_rested (has : bridge.HasSession Session.Rested)
    {operation : Operation ω χ} (inside : operation.isBoundary = false) :
    (operation.perform station bridge).HasSession Session.Rested := by
  have kept := has
  rcases kept with ⟨session, present, rested⟩
  cases operation with
  | connectDevice device port => cases inside
  | connect port baudRate => cases inside
  | disconnect => cases inside
  | getParameter name => exact has.ask fun target => has.perform_rested target _
  | setParameter assignment => exact has.ask fun target => has.perform_rested target _
  | getParameters names =>
      refine has.ask fun target => Surroundings.holds_collect ?_ names {} has
      exact fun _ _ has => has.perform_rested target _
  | setParameters assignments =>
      refine has.ask fun target => Surroundings.holds_collect ?_ assignments {} has
      exact fun _ _ has => has.perform_rested target _
  | relay chunk =>
      exact ⟨{ session with egress := session.egress.offer chunk },
        by simp [Operation.perform, Bridge.relay, present], rested.reached, rested.free⟩
  | poll => exact has.poll Session.lasts_rested
  | takeChunk =>
      exact ⟨{ session with egress := session.egress.take },
        by simp [Operation.perform, Operation.changeSession, present], rested.reached, rested.free⟩
  | writeChunk =>
      simp only [Operation.perform, present]
      exact ⟨_, rfl, rested.reached, rested.free⟩
  | listener step =>
      exact ⟨{ session with listener := session.listener.map (·.step step) },
        by simp [Operation.perform, Operation.changeSession, present],
        rested.reached, rested.free⟩
  | elsewhere router hub world => exact ⟨session, present, rested⟩

/-- The session that there is after an operation is at rest, if the one before it was. -/
theorem rested_perform (rested : ∀ session, bridge.session = some session → session.Rested)
    (operation : Operation ω χ) {session : Session}
    (present : (operation.perform station bridge).session = some session) : session.Rested := by
  cases boundary : operation.isBoundary with
  | true =>
      rcases perform_boundary station bridge boundary with ⟨same, -⟩ | ⟨begins, -⟩
      · rw [same] at present
        exact rested session present
      · rcases begins session present with ⟨decoder, replay, begun⟩
        exact begun.rested
  | false =>
      cases before : bridge.session with
      | none =>
          rw [perform_of_idle before boundary] at present
          cases present
      | some earlier =>
          have has : bridge.HasSession Session.Rested := ⟨earlier, before, rested earlier before⟩
          rcases has.operate_rested boundary with ⟨later, found, restedLater⟩
          rw [found] at present
          cases present
          exact restedLater

/-- Whatever is asked of a bridge that begins at rest, as one without a session does, and whatever
comes of it: between the operations no call holds a name, so the next call finds its own free. -/
theorem rested_track (rested : ∀ session, bridge.session = some session → session.Rested)
    (relayed : List Bytes) (operations : List (Operation ω χ)) :
    ∀ session, (track station (bridge, relayed) operations).1.session = some session →
      session.Rested := by
  induction operations generalizing bridge relayed with
  | nil => exact rested
  | cons operation operations inductionHypothesis =>
      exact inductionHypothesis (fun _ present => rested_perform rested operation present) _

end Bridge

end MavBridge
