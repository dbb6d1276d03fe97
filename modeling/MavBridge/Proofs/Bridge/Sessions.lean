import MavBridge.Bridge.Basic
import MavBridge.Proofs.Bridge.Pipeline
import MavBridge.Proofs.Param.WholeCalls

/-!
# What holds of a session

A session that is not being ended has an open link and a writer at work; when its link is dead, the
reader has ended with it.  What it is asked about parameters keeps that so, and is never answered
as if there were no session.
-/

namespace MavBridge

/-! ## Calls that reach the vehicle -/

/-- A call has been told, or will be, that there is no session. -/
def Stage.Refused (stage : Stage) : Prop :=
  stage = .leaving (.error .notConnected) ∨ stage = .returned (.error .notConnected)

theorem ParamRequest.fault_of_frame {request : ParamRequest} {builder after : FrameBuilder}
    {target : Identity} {fault : Fault}
    (refused : request.frame builder target = (.error fault, after)) :
    fault = .invalidParamName request.name := by
  cases request with
  | read name =>
      simp only [frame, FrameBuilder.paramRequestRead, FrameBuilder.buildNamed] at refused
      split at refused <;> simp_all [ParamRequest.name]
  | write name value type =>
      simp only [frame, FrameBuilder.paramSet, FrameBuilder.buildNamed] at refused
      split at refused <;> simp_all [ParamRequest.name]

namespace Exchange

/-- No call has been told that there is no session. -/
def Unrefused (exchange : Exchange) : Prop := ∀ call ∈ exchange.calls, ¬ call.stage.Refused

variable {exchange : Exchange}

theorem unrefused_empty : Unrefused {} := by
  intro call membership
  cases membership

theorem Unrefused.setStage (unrefused : exchange.Unrefused) (number : Nat) {stage : Stage}
    (admissible : ¬ stage.Refused) : (exchange.setStage number stage).Unrefused := by
  intro call membership
  rcases List.mem_map.mp membership with ⟨old, oldMembership, rfl⟩
  split
  next => exact admissible
  next => exact unrefused old oldMembership

theorem Unrefused.setSlot (unrefused : exchange.Unrefused) (number : Nat) (value : ParamValue) :
    (exchange.setSlot number value).Unrefused := by
  intro call membership
  rcases List.mem_map.mp membership with ⟨old, oldMembership, rfl⟩
  split
  next => exact unrefused old oldMembership
  next => exact unrefused old oldMembership

theorem Unrefused.addCall (unrefused : exchange.Unrefused) (builder : FrameBuilder)
    (name : String) (frame : Bytes) : (exchange.addCall builder name frame).Unrefused := by
  intro call membership
  rcases List.mem_append.mp membership with old | new
  · exact unrefused call old
  · rw [List.mem_singleton.mp new]
    simp [Stage.Refused]

/-- Only a sending can tell a call that there is no session. -/
theorem Unrefused.step (unrefused : exchange.Unrefused) {step : Step}
    (sends : ∀ number, step ≠ .sent number (.error .notConnected)) :
    (exchange.step step).Unrefused := by
  have effect : Effect exchange step (exchange.step step) := step_effect step
  generalize exchange.step step = next at effect
  cases effect with
  | idle unheard => exact unrefused
  | reject refused => exact unrefused
  | start accepted => exact unrefused.addCall _ _ _
  | refuse call turn built held => exact unrefused.setStage _ (by simp [Stage.Refused])
  | register call turn built free => exact unrefused.setStage _ (by simp [Stage.Refused])
  | @sent call outcome turn registered =>
      refine unrefused.setStage _ ?_
      cases outcome with
      | ok done => simp [stageAfterSending, Stage.Refused]
      | error fault =>
          have others : fault ≠ .notConnected := by
            rintro rfl
            exact sends _ rfl
          simpa [stageAfterSending, Stage.Refused] using others
  | conclude call turn waiting =>
      refine unrefused.setStage _ ?_
      unfold conclusion
      split <;> simp [Stage.Refused]
  | @leave call result turn leaving =>
      have others := unrefused call (mem_of_call? turn)
      rw [leaving] at others
      exact unrefused.setStage _ (by simpa [Stage.Refused] using others)
  | hear held => exact unrefused.setSlot _ _

theorem Unrefused.resolveAll (unrefused : exchange.Unrefused) (reports : List ParamReport) :
    (exchange.resolveAll reports).Unrefused := by
  induction reports generalizing exchange with
  | nil => exact unrefused
  | cons report reports inductionHypothesis =>
      have resolved : (exchange.step (.resolve report)).Unrefused := unrefused.step (by simp)
      exact inductionHypothesis resolved

theorem Unrefused.result? (unrefused : exchange.Unrefused) {number : Nat} :
    exchange.result? number ≠ some (.error .notConnected) := by
  intro given
  rcases result?_eq_some_iff.mp given with ⟨call, found, returned⟩
  exact unrefused call (mem_of_call? found) (.inr returned)

end Exchange

namespace Surroundings

variable {σ : Type}

/-- Something holds, and goes on holding while calls send and wait; what they send is never refused
for want of a session. -/
structure Sustains (around : Surroundings σ) (holds : σ → Prop) : Prop where
  unrefused : ∀ s, holds s → (around.exchange s).Unrefused
  put : ∀ exchange s, holds s → exchange.Unrefused → holds (around.put exchange s)
  send : ∀ frame s, holds s →
    (around.send frame s).1 ≠ .error .notConnected ∧ holds (around.send frame s).2
  wait : ∀ s, holds s → holds (around.wait s)

variable {around : Surroundings σ} {holds : σ → Prop}

theorem Sustains.await (sustains : around.Sustains holds) (number : Nat) (frame : Bytes) {s : σ}
    (held : holds s) : holds (around.await number frame s) := by
  have steps (step : Exchange.Step) (sends : ∀ number, step ≠ .sent number (.error .notConnected))
      {s : σ} (held : holds s) : holds (around.modify (·.step step) s) :=
    sustains.put _ s held ((sustains.unrefused s held).step sends)
  rcases sustains.send frame s held with ⟨reached, heldAfter⟩
  unfold Surroundings.await
  generalize around.send frame s = sending at reached heldAfter
  rcases sending with ⟨outcome, afterSend⟩
  have noted : holds (around.modify (·.sent number outcome) afterSend) := by
    refine steps (.sent number outcome) ?_ heldAfter
    rintro other ⟨⟩
    exact reached rfl
  cases outcome with
  | error fault => exact steps (.leave number) (by simp) noted
  | ok done =>
      exact steps (.leave number) (by simp)
        (steps (.conclude number) (by simp) (sustains.wait _ noted))

/-- A whole call keeps what holds, and is not refused for want of a session. -/
theorem Sustains.perform (sustains : around.Sustains holds) (target : Identity)
    (request : ParamRequest) {s : σ} (held : holds s) :
    (around.perform target request s).1 ≠ .error .notConnected ∧
      holds (around.perform target request s).2 := by
  have begun : ((around.exchange s).step (.start target request)).Unrefused :=
    (sustains.unrefused s held).step (by simp)
  rw [Exchange.step] at begun
  unfold Surroundings.perform
  split
  next fault exchange refused =>
    rw [refused] at begun
    refine ⟨?_, sustains.put exchange s held begun⟩
    rintro ⟨⟩
    unfold Exchange.start at refused
    split at refused
    next fault builder unframed =>
      cases refused
      cases ParamRequest.fault_of_frame unframed
    next => cases refused
  next number exchange started =>
    rw [started] at begun
    have registered : (exchange.step (.register number)).Unrefused := begun.step (by simp)
    have heldThen := sustains.put (exchange.register number) s held registered
    have answered {after : σ} (heldAfter : holds after) :
        ((around.exchange after).result? number).getD (.error (.paramTimeout request.name)) ≠
          .error .notConnected := by
      intro refused
      rcases Option.getD_eq_iff.mp refused with given | ⟨-, timedOut⟩
      · exact (sustains.unrefused after heldAfter).result? given
      · cases timedOut
    dsimp only
    split
    next frame _ _ =>
      have heldAfter := sustains.await number frame heldThen
      exact ⟨answered heldAfter, heldAfter⟩
    next => exact ⟨answered heldThen, heldThen⟩

theorem Sustains.write (sustains : around.Sustains holds) (target : Identity) (name : String)
    (value : Binary64) (type : ParamType) {s : σ} (held : holds s) :
    (around.write target name value type s).1 ≠ .error .notConnected ∧
      holds (around.write target name value type s).2 := by
  rcases sustains.perform target (.write name value type) held with ⟨answered, heldAfter⟩
  refine ⟨?_, heldAfter⟩
  intro refused
  unfold Surroundings.write at refused
  dsimp only at refused
  generalize (around.perform target (.write name value type) s).1 = outcome at refused answered
  cases outcome with
  | error fault =>
      cases refused
      exact answered rfl
  | ok value => cases refused

/-- What every entry of a batch keeps, the batch keeps. -/
theorem holds_collect {α ε : Type} {name : ε → String} {run : ε → σ → Except Fault α × σ}
    (runs : ∀ entry s, holds s → holds (run entry s).2) (entries : List ε)
    (report : BatchReport α) {s : σ} (held : holds s) :
    holds (BatchReport.collect name run entries report s).2 := by
  induction entries generalizing report s with
  | nil => exact held
  | cons entry rest inductionHypothesis => exact inductionHypothesis _ (runs entry s held)

theorem Sustains.readBatch (sustains : around.Sustains holds) (target : Identity)
    (names : List String) {s : σ} (held : holds s) :
    holds (around.readBatch target names s).2 := by
  refine holds_collect ?_ names {} held
  intro name s held
  exact (sustains.perform target (.read name) held).2

theorem Sustains.writeBatch (sustains : around.Sustains holds) (target : Identity)
    (entries : List ParamAssignment) {s : σ} (held : holds s) :
    holds (around.writeBatch target entries s).2 := by
  refine holds_collect ?_ entries {} held
  intro entry s held
  exact (sustains.write target entry.name entry.value entry.type held).2

end Surroundings

/-! ## One session -/

/-- What holds of a link whose owner has not closed it. -/
structure Link.Held (link : Link) : Prop where
  isOpen : link.isOpen = true
  /-- A dead link has no reader any more, so it stays dead. -/
  ended : link.isAlive = false → link.reader = .ended

namespace Link.Held

variable {link : Link} {σ : Type}

theorem isReading (held : link.Held) {failures : Nat} (reading : link.reader = .reading failures)
    (count : Nat) : Link.Held { link with reader := .reading count } where
  isOpen := held.isOpen
  ended := by
    intro dead
    rw [held.ended dead] at reading
    cases reading

theorem observe (held : link.Held) (outcome : Except Fault Bytes) :
    (link.observe outcome).2.Held := by
  unfold Link.observe
  split
  next reading => exact held.isReading reading 0
  next nonempty reading => exact held.isReading reading 0
  next reading =>
    split
    next => exact ⟨held.isOpen, fun _ => rfl⟩
    next => exact held.isReading reading _
  next => exact held

theorem write (held : link.Held) (device : Transport σ) (data : Bytes) (s : σ) :
    (link.write device data s).2.1.Held := by
  unfold Link.write
  split
  next =>
    split
    next => exact ⟨held.isOpen, held.ended⟩
    next => exact held
  next => exact held

end Link.Held

/-- A session that is not being ended, and that was asked to relay some chunks. -/
structure Session.Sound (session : Session) (relayed : List Bytes) : Prop where
  held : session.link.Held
  isRunning : session.egress.isRunning = true
  unrefused : session.intake.exchange.Unrefused
  /-- What the writer holds, and has still to take, is among the chunks, in their order. -/
  carried : (session.egress.inHand.toList ++ session.egress.queue).Sublist relayed

namespace Session.Sound

variable {session : Session} {relayed : List Bytes}

theorem hears (sound : session.Sound relayed) {intake : Intake Decoder}
    (unrefused : intake.exchange.Unrefused) (listener : Option TcpServer) :
    Session.Sound { session with intake, listener } relayed :=
  ⟨sound.held, sound.isRunning, unrefused, sound.carried⟩

theorem relink (sound : session.Sound relayed) {link : Link} (held : link.Held) :
    Session.Sound { session with egress := { session.egress with link } } relayed :=
  ⟨held, sound.isRunning, sound.unrefused, sound.carried⟩

theorem take (sound : session.Sound relayed) :
    Session.Sound { session with egress := session.egress.take } relayed := by
  unfold Egress.take
  split
  next chunk queue running empty queued =>
    refine ⟨sound.held, sound.isRunning, sound.unrefused, ?_⟩
    have carried := sound.carried
    rw [empty, queued] at carried
    exact carried
  next => exact sound

theorem writeHeld (sound : session.Sound relayed) {ω : Type} (device : Transport ω) (world : ω) :
    Session.Sound { session with egress := (session.egress.writeHeld device world).1 } relayed := by
  unfold Egress.writeHeld
  split
  next => exact sound
  next chunk holding =>
    refine ⟨sound.held.write device chunk world, sound.isRunning, sound.unrefused, ?_⟩
    have carried := sound.carried
    rw [holding] at carried
    exact (List.sublist_cons_self _ _).trans carried

/-- A live session may take a chunk; a dead one takes none. -/
theorem offer (sound : session.Sound relayed) (chunk : Bytes) :
    Session.Sound { session with egress := session.egress.offer chunk }
      (if session.isLive then relayed ++ [chunk] else relayed) := by
  have grown : relayed.Sublist (relayed ++ [chunk]) := List.sublist_append_left _ _
  unfold Egress.offer
  by_cases live : session.isLive = true
  · have taking : session.egress.link.isAlive = true ∧ session.egress.isRunning = true :=
      ⟨live, sound.isRunning⟩
    rw [if_pos taking, if_pos live]
    split
    next =>
      refine ⟨sound.held, sound.isRunning, sound.unrefused, ?_⟩
      rw [← List.append_assoc]
      exact sound.carried.append (.refl _)
    next => exact ⟨sound.held, sound.isRunning, sound.unrefused, sound.carried.trans grown⟩
  · have idle : ¬ (session.egress.link.isAlive = true ∧ session.egress.isRunning = true) :=
      fun taking => live taking.1
    rw [if_neg idle, if_neg live]
    exact sound

end Session.Sound

/-- What a reader at work leaves true of a session: it watches the link, and everything that it
hears about parameters resolves echoes. -/
structure Session.Lasts (holds : Session → Prop) : Prop where
  observe : ∀ session outcome, holds session →
    holds { session with egress := (session.egress.observe outcome).2 }
  hear : ∀ session intake listener reports, holds session →
    intake.exchange = session.intake.exchange.resolveAll reports →
    holds { session with intake, listener }

theorem Session.lasts_sound (relayed : List Bytes) : Session.Lasts (·.Sound relayed) where
  observe _ outcome sound := sound.relink (sound.held.observe outcome)
  hear _ _ listener reports sound heard :=
    sound.hears (heard ▸ sound.unrefused.resolveAll reports) listener

/-! ## A bridge with a session -/

namespace Bridge

variable {ω χ : Type}

/-- There is a session, of which something holds. -/
def HasSession (holds : Session → Prop) (bridge : Bridge ω χ) : Prop :=
  ∃ session, bridge.session = some session ∧ holds session

/-- There is a session, and it is sound. -/
def Holds (relayed : List Bytes) (bridge : Bridge ω χ) : Prop :=
  ∃ session, bridge.session = some session ∧ session.Sound relayed

variable {station : Station ω χ} {bridge : Bridge ω χ} {relayed : List Bytes}

/-- What a session makes of a chunk. -/
theorem session_receive {session : Session} (present : bridge.session = some session)
    (chunk : Bytes) :
    ∃ intake listener reports, (bridge.receive station chunk).session =
        some { session with intake, listener } ∧
      intake.exchange = session.intake.exchange.resolveAll reports := by
  unfold receive
  rw [present]
  have heard := congrArg (·.intake.exchange) (Pipeline.receive_eq station.outlets station.now
    ⟨session.intake, session.listener, bridge.hub, bridge.router, bridge.world⟩ chunk)
  exact ⟨_, _, _, rfl, heard⟩

namespace HasSession

variable {holds : Session → Prop}

theorem receive (lasts : Session.Lasts holds) (has : bridge.HasSession holds) (chunk : Bytes) :
    (bridge.receive station chunk).HasSession holds := by
  rcases has with ⟨session, present, held⟩
  rcases session_receive present chunk with ⟨intake, listener, reports, received, heard⟩
  exact ⟨_, received, lasts.hear session intake listener reports held heard⟩

theorem poll (lasts : Session.Lasts holds) (has : bridge.HasSession holds) :
    (bridge.poll station).2.HasSession holds := by
  rcases has with ⟨session, present, held⟩
  unfold Bridge.poll
  rw [present]
  dsimp only
  split
  next =>
    generalize Link.pollDevice (station.device session.device) bridge.world = polled
    rcases polled with ⟨outcome, world⟩
    have observed := lasts.observe session outcome held
    dsimp only
    split
    next => exact ⟨_, rfl, observed⟩
    next => exact HasSession.receive lasts ⟨_, rfl, observed⟩ _
    next => exact ⟨_, rfl, observed⟩
  next => exact ⟨session, present, held⟩

theorem pollWhile (lasts : Session.Lasts holds) (has : bridge.HasSession holds) (polls : Nat) :
    (bridge.pollWhile station polls).HasSession holds := by
  induction polls generalizing bridge with
  | zero => exact has
  | succ polls inductionHypothesis =>
      have polled : (bridge.poll station).2.HasSession holds := has.poll lasts
      unfold Bridge.pollWhile
      split
      next after more =>
        rw [more] at polled
        exact inductionHypothesis polled
      next after done =>
        rw [done] at polled
        exact polled

theorem pump (lasts : Session.Lasts holds) (has : bridge.HasSession holds) :
    (bridge.pump station).HasSession holds := by
  unfold Bridge.pump
  split
  next => exact has
  next => exact has.pollWhile lasts _

end HasSession

theorem Holds.poll (holds : bridge.Holds relayed) : (bridge.poll station).2.Holds relayed :=
  HasSession.poll (Session.lasts_sound relayed) holds

end Bridge

/-- A device that fails to write says why; that there is no session is not for it to say. -/
structure Station.FaultsOfDevices {ω χ : Type} (station : Station ω χ) : Prop where
  write : ∀ number data world, ((station.device number).write data world).1 ≠ .error .notConnected
  flush : ∀ number world, ((station.device number).flush world).1 ≠ .error .notConnected

namespace Station.FaultsOfDevices

variable {ω χ : Type} {station : Station ω χ}

theorem writeAll (faults : station.FaultsOfDevices) (number : Nat) (data : Bytes) (world : ω) :
    ((station.device number).writeAll data world).1 ≠ .error .notConnected := by
  induction length : data.length using Nat.strong_induction_on generalizing data world with
  | h bound inductionHypothesis =>
      unfold Transport.writeAll
      split
      next => exact faults.flush number world
      next some =>
        have written := faults.write number data world
        split
        next fault after failed =>
          rw [failed] at written
          rintro ⟨⟩
          exact written rfl
        next => simp [Fault.ofKind]
        next taken after accepted =>
          have shorter : (data.drop (taken + 1)).length < bound := by
            have positive : data.length ≠ 0 := by simpa using some
            rw [List.length_drop]
            omega
          exact inductionHypothesis _ shorter _ after rfl

theorem send (faults : station.FaultsOfDevices) {session : Session} (held : session.link.Held)
    (frame : Bytes) (world : ω) :
    (session.egress.send (station.device session.device) frame world).1 ≠
      .error .notConnected := by
  have written := faults.writeAll session.device frame world
  have opened : session.egress.link.isOpen = true := held.isOpen
  simp only [Egress.send, Link.write, if_pos opened]
  generalize (station.device session.device).writeAll frame world = outcome at written
  rcases outcome with ⟨⟨⟩ | ⟨⟩, after⟩
  next => exact written
  next => simp

end Station.FaultsOfDevices

namespace Bridge

variable {ω χ : Type} {station : Station ω χ} {bridge : Bridge ω χ} {relayed : List Bytes}

/-- Calls about parameters keep a session sound. -/
theorem sustains_surroundings (faults : station.FaultsOfDevices) :
    (surroundings station : Surroundings (Bridge ω χ)).Sustains (Holds relayed) where
  unrefused := by
    rintro bridge ⟨session, present, sound⟩
    simpa [surroundings, present] using sound.unrefused
  put := by
    rintro exchange bridge ⟨session, present, sound⟩ unrefused
    refine ⟨{ session with intake := { session.intake with exchange } }, ?_, ?_⟩
    · simp [surroundings, present]
    · exact sound.hears unrefused session.listener
  send := by
    rintro frame bridge ⟨session, present, sound⟩
    simp only [surroundings, present]
    refine ⟨faults.send sound.held frame bridge.world, _, rfl, ?_⟩
    exact sound.relink (sound.held.write _ _ _)
  wait := fun bridge holds => HasSession.pump (Session.lasts_sound relayed) holds

end Bridge

end MavBridge
