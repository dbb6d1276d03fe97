import MavBridge.Proofs.Param.Answering

/-!
# What is left of calls that have returned

While a call sends its frame or waits, echoes may come and others may call; `Interlude` says what
may happen if these return before it is over.  Whatever came of them, they leave nothing registered,
and the calls that there were before take no step.
-/

namespace MavBridge

/-- A name that does not fit into its field takes no number. -/
theorem ParamRequest.frame_of_invalid (request : ParamRequest)
    (invalid : NameField.encode? request.name = none) (builder : FrameBuilder) (target : Identity) :
    request.frame builder target = (.error (.invalidParamName request.name), builder) := by
  cases request with
  | read name => exact builder.buildNamed_of_refused invalid _
  | write name value type => exact builder.buildNamed_of_refused invalid _

namespace Exchange

variable {exchange first last : Exchange}

/-- A call has begun, and has come for its name. -/
def calling (exchange : Exchange) (target : Identity) (request : ParamRequest) : Exchange :=
  (exchange.step (.start target request)).step (.register exchange.issued)

/-- What may happen while a frame is sent, or while a call waits: echoes come, and others call and
return, while the same may happen. -/
inductive Interlude : Exchange → Exchange → Prop where
  | nothing (exchange : Exchange) : Interlude exchange exchange
  | echo {first last : Exchange} (report : ParamReport) :
      Interlude first last → Interlude first (last.step (.resolve report))
  | busy {first last : Exchange} {target : Identity} {request : ParamRequest} :
      Interlude first last → last.holder? request.name ≠ none →
      Interlude first (last.calling target request)
  | undelivered {first last sending : Exchange} {target : Identity} {request : ParamRequest}
      {fault : Fault} :
      Interlude first last → (NameField.encode? request.name).isSome = true →
      last.holder? request.name = none → Interlude (last.calling target request) sending →
      Interlude first
        ((sending.step (.sent last.issued (.error fault))).step (.leave last.issued))
  | delivered {first last sending waiting : Exchange} {target : Identity}
      {request : ParamRequest} :
      Interlude first last → (NameField.encode? request.name).isSome = true →
      last.holder? request.name = none → Interlude (last.calling target request) sending →
      Interlude (sending.step (.sent last.issued (.ok ()))) waiting →
      Interlude first ((waiting.step (.conclude last.issued)).step (.leave last.issued))

/-! ## Steps and what is registered -/

theorem pending_step {step : Step} (others : ∀ number, step ≠ .register number)
    (stays : ∀ number, step ≠ .leave number) :
    (exchange.step step).pending = exchange.pending := by
  have effect : Effect exchange step (exchange.step step) := step_effect step
  generalize exchange.step step = next at effect
  cases effect with
  | refuse call => exact absurd rfl (others call.number)
  | register call => exact absurd rfl (others call.number)
  | leave call => exact absurd rfl (stays call.number)
  | _ => rfl

theorem pending_leave {number : Nat} {call : Call} (found : exchange.call? number = some call)
    {result : Except Fault ParamValue} (leaving : call.stage = .leaving result) :
    (exchange.step (.leave number)).pending =
      exchange.pending.filter fun entry => entry.1 != call.name := by
  cases call
  cases leaving
  simp only [step, leave, found]

/-- A call that there is takes no step that is not its own, but it may hear an echo. -/
theorem call?_step_of_not_isOf {number : Nat} {call : Call}
    (found : exchange.call? number = some call) {step : Step}
    (foreign : step.isOf number = false) :
    ∃ slot, (exchange.step step).call? number = some { call with slot } := by
  obtain rfl := number_of_call? found
  obtain ⟨after, foundAfter, move⟩ := step_move found step
  rw [foundAfter]
  cases move with
  | stay unheard => exact ⟨call.slot, rfl⟩
  | hear held => exact ⟨_, rfl⟩
  | _ => simp [Step.isOf] at foreign

/-- A call begins and comes for a name that is free. -/
theorem Coherent.calling_of_free (coherent : Coherent exchange) {request : ParamRequest}
    (valid : (NameField.encode? request.name).isSome = true)
    (free : exchange.holder? request.name = none) (target : Identity) :
    ∃ frame, (exchange.calling target request).call? exchange.issued =
        some ⟨exchange.issued, request.name, frame, .registered, none⟩ ∧
      (exchange.calling target request).pending =
        (request.name, exchange.issued) :: exchange.pending := by
  obtain ⟨frame, builder, accepted⟩ :=
    (request.exists_frame_iff exchange.builder target).mpr valid
  have found := coherent.call?_addCall_issued builder request.name frame
  have registered := coherent.call?_register_of_free free builder frame
  have begun : exchange.step (.start target request) =
      exchange.addCall builder request.name frame := congrArg Prod.snd (start_of_frame accepted)
  have stillFree : (exchange.addCall builder request.name frame).holder? request.name = none := free
  refine ⟨frame, ?_, ?_⟩
  · rw [calling, begun]
    exact registered
  · rw [calling, begun]
    simp only [Exchange.step, Exchange.register, found, stillFree]
    rfl

/-- A call begins and comes for a name that is taken. -/
theorem Coherent.pending_calling_of_taken (coherent : Coherent exchange) {request : ParamRequest}
    (taken : exchange.holder? request.name ≠ none) (target : Identity) :
    (exchange.calling target request).pending = exchange.pending := by
  obtain ⟨frame, builder, accepted⟩ :=
    (request.exists_frame_iff exchange.builder target).mpr (coherent.encode?_of_holder? taken)
  have found := coherent.call?_addCall_issued builder request.name frame
  have begun : exchange.step (.start target request) =
      exchange.addCall builder request.name frame := congrArg Prod.snd (start_of_frame accepted)
  have stillTaken : (exchange.addCall builder request.name frame).holder? request.name ≠ none :=
    taken
  rw [Exchange.calling, begun, Exchange.step, register_of_held found rfl stillTaken]
  rfl

theorem Coherent.calling (coherent : Coherent exchange) (target : Identity)
    (request : ParamRequest) : Coherent (exchange.calling target request) :=
  (coherent.step (.start target request)).step (.register exchange.issued)

/-- Removing what a call has registered leaves what was registered before. -/
theorem filter_pending_of_free {name : String} (free : exchange.holder? name = none)
    (number : Nat) :
    ((name, number) :: exchange.pending).filter (fun entry => entry.1 != name) =
      exchange.pending := by
  rw [List.filter_cons_of_neg (by simp), List.filter_eq_self]
  rintro ⟨other, holder⟩ membership
  rw [bne_iff_ne]
  rintro rfl
  exact holder?_eq_none_iff.mp free (List.mem_map_of_mem membership)

/-! ## Interludes -/

/-- The calls that there were have taken no step, and the same calls hold their names. -/
structure Settled (first last : Exchange) : Prop where
  coherent : Coherent last
  pending : last.pending = first.pending
  stays : ∀ number call, first.call? number = some call →
    ∃ slot, last.call? number = some { call with slot }

theorem Interlude.trans {middle : Exchange} (interlude : Interlude first middle)
    (later : Interlude middle last) : Interlude first last := by
  induction later with
  | nothing exchange => exact interlude
  | echo report _ inductionHypothesis => exact .echo report (inductionHypothesis interlude)
  | busy _ taken inductionHypothesis => exact .busy (inductionHypothesis interlude) taken
  | undelivered _ valid free sends inductionHypothesis =>
      exact .undelivered (inductionHypothesis interlude) valid free sends
  | delivered _ valid free sends waits inductionHypothesis =>
      exact .delivered (inductionHypothesis interlude) valid free sends waits

theorem settled_refl (coherent : Coherent exchange) : Settled exchange exchange :=
  ⟨coherent, rfl, fun _ call found => ⟨call.slot, found⟩⟩

theorem Settled.step (settled : Settled first last) {step : Step}
    (others : ∀ number, step ≠ .register number) (stays : ∀ number, step ≠ .leave number)
    (foreign : ∀ number, step.isOf number = false) : Settled first (last.step step) := by
  refine ⟨settled.coherent.step step, (pending_step others stays).trans settled.pending, ?_⟩
  intro number call found
  obtain ⟨slot, foundThen⟩ := settled.stays number call found
  exact call?_step_of_not_isOf foundThen (foreign number)

theorem Settled.ne_issued (settled : Settled first last) {number : Nat} {call : Call}
    (found : first.call? number = some call) : number ≠ last.issued := by
  rintro rfl
  obtain ⟨slot, foundThen⟩ := settled.stays _ call found
  rw [settled.coherent.call?_issued] at foundThen
  cases foundThen

/-- A call that begins is none of those that there were. -/
theorem Settled.stays_calling (settled : Settled first last) (target : Identity)
    (request : ParamRequest) {number : Nat} {call : Call}
    (found : first.call? number = some call) :
    ∃ slot, (last.calling target request).call? number = some { call with slot } := by
  have others : last.issued ≠ number := (settled.ne_issued found).symm
  obtain ⟨slot, foundThen⟩ := settled.stays number call found
  obtain ⟨slot, begun⟩ := call?_step_of_not_isOf foundThen
    (rfl : Step.isOf number (.start target request) = false)
  exact call?_step_of_not_isOf begun (by simp [Step.isOf, others])

/-- The next call is in flight, at some stage, among the calls that there were. -/
structure Underway (first last : Exchange) (name : String) (stage : Stage) (after : Exchange) :
    Prop where
  coherent : Coherent after
  found : ∃ frame slot, after.call? last.issued = some ⟨last.issued, name, frame, stage, slot⟩
  pending : after.pending = (name, last.issued) :: last.pending
  stays : ∀ number call, first.call? number = some call →
    number ≠ last.issued ∧ ∃ slot, after.call? number = some { call with slot }

theorem Settled.underway (settled : Settled first last) {request : ParamRequest}
    (valid : (NameField.encode? request.name).isSome = true)
    (free : last.holder? request.name = none) (target : Identity) :
    Underway first last request.name .registered (last.calling target request) := by
  obtain ⟨frame, found, pending⟩ := settled.coherent.calling_of_free valid free target
  refine ⟨settled.coherent.calling target request, ⟨frame, none, found⟩, pending, ?_⟩
  intro number call foundFirst
  exact ⟨settled.ne_issued foundFirst, settled.stays_calling target request foundFirst⟩

namespace Underway

variable {name : String} {stage : Stage} {after : Exchange}

theorem during (underway : Underway first last name stage after) {later : Exchange}
    (settled : Settled after later) : Underway first last name stage later := by
  obtain ⟨frame, slot, found⟩ := underway.found
  obtain ⟨slot, foundLater⟩ := settled.stays _ _ found
  refine ⟨settled.coherent, ⟨frame, slot, foundLater⟩, ?_, ?_⟩
  · rw [settled.pending, underway.pending]
  · intro number call foundFirst
    obtain ⟨others, slot, foundThen⟩ := underway.stays number call foundFirst
    obtain ⟨slot, foundThen⟩ := settled.stays _ _ foundThen
    exact ⟨others, slot, foundThen⟩

/-- The call takes a step to another stage of its flight. -/
theorem advance (underway : Underway first last name stage after) {step : Step} {next : Stage}
    (found : ∃ frame slot, (after.step step).call? last.issued =
      some ⟨last.issued, name, frame, next, slot⟩)
    (others : ∀ number, step ≠ .register number) (stays : ∀ number, step ≠ .leave number)
    (foreign : ∀ number, number ≠ last.issued → step.isOf number = false) :
    Underway first last name next (after.step step) := by
  refine ⟨underway.coherent.step step, found, ?_, ?_⟩
  · rw [pending_step others stays, underway.pending]
  · intro number call foundFirst
    obtain ⟨other, slot, foundThen⟩ := underway.stays number call foundFirst
    exact ⟨other, call?_step_of_not_isOf foundThen (foreign number other)⟩

theorem sent (underway : Underway first last name .registered after)
    (outcome : Except Fault Unit) :
    Underway first last name (stageAfterSending outcome)
      (after.step (.sent last.issued outcome)) := by
  obtain ⟨frame, slot, found⟩ := underway.found
  refine underway.advance ⟨frame, slot, call?_sent found rfl outcome⟩ (by simp) (by simp) ?_
  intro number other
  simp [Step.isOf, other.symm]

theorem conclude (underway : Underway first last name .waiting after) :
    ∃ result, Underway first last name (.leaving result)
      (after.step (.conclude last.issued)) := by
  obtain ⟨frame, slot, found⟩ := underway.found
  refine ⟨_, underway.advance ⟨frame, slot, call?_conclude found rfl⟩ (by simp) (by simp) ?_⟩
  intro number other
  simp [Step.isOf, other.symm]

/-- The name was free when the call came for it, so that it leaves nothing behind. -/
theorem leave {result : Except Fault ParamValue}
    (underway : Underway first last name (.leaving result) after) (settled : Settled first last)
    (free : last.holder? name = none) : Settled first (after.step (.leave last.issued)) := by
  obtain ⟨frame, slot, found⟩ := underway.found
  refine ⟨underway.coherent.step _, ?_, ?_⟩
  · rw [pending_leave found rfl, underway.pending, filter_pending_of_free free]
    exact settled.pending
  · intro number call foundFirst
    obtain ⟨other, slot, foundThen⟩ := underway.stays number call foundFirst
    exact call?_step_of_not_isOf foundThen (by simp [Step.isOf, other.symm])

end Underway

theorem Interlude.settled (interlude : Interlude first last) (coherent : Coherent first) :
    Settled first last := by
  -- On the interlude, and on what happens while calls in it send and wait.
  induction interlude with
  | nothing exchange => exact settled_refl coherent
  | echo report _ inductionHypothesis =>
      exact (inductionHypothesis coherent).step (by simp) (by simp) fun _ => rfl
  | @busy first last target request _ taken inductionHypothesis =>
      have settled := inductionHypothesis coherent
      refine ⟨settled.coherent.calling target request, ?_, ?_⟩
      · rw [settled.coherent.pending_calling_of_taken taken, settled.pending]
      · intro number call found
        exact settled.stays_calling target request found
  | @undelivered first last sending target request fault _ valid free _ before during =>
      have settled := before coherent
      have begun := settled.underway valid free target
      have sent := (begun.during (during begun.coherent)).sent (.error fault)
      exact sent.leave settled free
  | @delivered first last sending waiting target request _ valid free _ _ before during after =>
      have settled := before coherent
      have begun := settled.underway valid free target
      have sent := (begun.during (during begun.coherent)).sent (.ok ())
      obtain ⟨result, concluded⟩ := (sent.during (after sent.coherent)).conclude
      exact concluded.leave settled free

end Exchange

namespace Surroundings

open Exchange (Interlude Settled)

variable {σ : Type} {around : Surroundings σ} {ready : σ → Prop}

/-! ## Whole calls -/

/-- Surroundings in which calls may be made while a call sends or waits, if they return. -/
structure Nests (around : Surroundings σ) (ready : σ → Prop) : Prop where
  keeps : around.Keeps ready
  send : ∀ frame s, ready s → (around.exchange s).Coherent →
    Interlude (around.exchange s) (around.exchange (around.send frame s).2)
  wait : ∀ s, ready s → (around.exchange s).Coherent →
    Interlude (around.exchange s) (around.exchange (around.wait s))

/-- A call whose name does not fit is over at once. -/
theorem perform_of_invalid (target : Identity) {request : ParamRequest}
    (invalid : NameField.encode? request.name = none) {s : σ} :
    around.perform target request s =
      (.error (.invalidParamName request.name), around.put (around.exchange s) s) := by
  unfold perform Exchange.start
  rw [request.frame_of_invalid invalid]

/-- A call whose frame is built comes for its name; what it returns is its result in the world that
it leaves. -/
theorem perform_eq_of_frame {target : Identity} {request : ParamRequest} {s : σ} {frame : Bytes}
    {builder : FrameBuilder} (coherent : (around.exchange s).Coherent)
    (accepted : request.frame (around.exchange s).builder target = (.ok frame, builder)) :
    around.perform target request s =
      let begun := around.put ((around.exchange s).calling target request) s
      let after :=
        if (around.exchange s).holder? request.name = none then
          around.await (around.exchange s).issued frame begun
        else begun
      (((around.exchange after).result? (around.exchange s).issued).getD
        (.error (.paramTimeout request.name)), after) := by
  have started := Exchange.start_of_frame accepted
  have found := coherent.call?_addCall_issued builder request.name frame
  have begun : (around.exchange s).calling target request =
      ((around.exchange s).addCall builder request.name frame).register
        (around.exchange s).issued := by
    rw [Exchange.calling, Exchange.step, Exchange.step, started]
  unfold perform
  rw [started, begun]
  dsimp only
  by_cases free : (around.exchange s).holder? request.name = none
  · rw [if_pos free, coherent.call?_register_of_free free builder frame]
  · have stillTaken :
        ((around.exchange s).addCall builder request.name frame).holder? request.name ≠ none := free
    rw [if_neg free, Exchange.register_of_held found rfl stillTaken,
      Exchange.call?_setStage_of_found found, if_pos rfl]

/-- The rest of a call that has come for a free name. -/
theorem Nests.await (nests : around.Nests ready) {request : ParamRequest} {s : σ}
    (isReady : ready s) (coherent : (around.exchange s).Coherent)
    (valid : (NameField.encode? request.name).isSome = true)
    (free : (around.exchange s).holder? request.name = none) (target : Identity) (frame : Bytes) :
    Interlude (around.exchange s)
      (around.exchange (around.await (around.exchange s).issued frame
        (around.put ((around.exchange s).calling target request) s))) := by
  generalize begun : around.put ((around.exchange s).calling target request) s = begunWorld
  have opened : around.exchange begunWorld = (around.exchange s).calling target request := by
    rw [← begun, nests.keeps.held _ _ isReady]
  have readyBegun : ready begunWorld := begun ▸ nests.keeps.put _ s isReady
  have coherentThen := coherent.calling target request
  rw [← opened] at coherentThen
  have sends := nests.send frame begunWorld readyBegun coherentThen
  have coherentSent := (sends.settled coherentThen).coherent
  have readySent := nests.keeps.send frame begunWorld readyBegun
  rw [opened] at sends
  unfold Surroundings.await
  generalize around.send frame begunWorld = sent at sends coherentSent readySent
  obtain ⟨outcome, afterSend⟩ := sent
  have readyNoted := nests.keeps.modify (·.sent (around.exchange s).issued outcome) readySent
  cases outcome with
  | error fault =>
      dsimp only
      rw [nests.keeps.exchange_modify _ readyNoted, nests.keeps.exchange_modify _ readySent]
      exact .undelivered (.nothing _) valid free sends
  | ok done =>
      have coherentNoted : (around.exchange
          (around.modify (·.sent (around.exchange s).issued (.ok ())) afterSend)).Coherent := by
        rw [nests.keeps.exchange_modify _ readySent]
        exact coherentSent.step (.sent _ (.ok ()))
      have waits := nests.wait _ readyNoted coherentNoted
      have readyWaited := nests.keeps.wait _ readyNoted
      rw [nests.keeps.exchange_modify _ readySent] at waits
      dsimp only
      rw [nests.keeps.exchange_modify _ (nests.keeps.modify _ readyWaited),
        nests.keeps.exchange_modify _ readyWaited]
      exact .delivered (.nothing _) valid free sends waits

/-- A whole call is nothing but an interlude for those who wait meanwhile. -/
theorem Nests.perform (nests : around.Nests ready) (target : Identity) (request : ParamRequest)
    {s : σ} (isReady : ready s) (coherent : (around.exchange s).Coherent) :
    Interlude (around.exchange s) (around.exchange (around.perform target request s).2) := by
  cases valid : NameField.encode? request.name with
  | none =>
      rw [perform_of_invalid target valid, nests.keeps.held _ _ isReady]
      exact .nothing _
  | some field =>
      have isValid : (NameField.encode? request.name).isSome = true := by rw [valid]; rfl
      obtain ⟨frame, builder, accepted⟩ :=
        (request.exists_frame_iff (around.exchange s).builder target).mpr isValid
      rw [perform_eq_of_frame coherent accepted]
      split
      next free =>
        exact nests.await isReady coherent isValid free target frame
      next taken =>
        rw [nests.keeps.held _ _ isReady]
        exact .busy (.nothing _) taken

end Surroundings

namespace Rehearsal

open Exchange (Coherent Interlude)

variable {nested : String → Rehearsal → Except Fault ParamValue × Rehearsal}

theorem act_interlude
    (nests : ∀ name rehearsal, Coherent rehearsal.exchange →
      Interlude rehearsal.exchange (nested name rehearsal).2.exchange)
    (name : String) (set : Option Binary32) (actions : List VehicleAction) (rehearsal : Rehearsal)
    (coherent : Coherent rehearsal.exchange) :
    Interlude rehearsal.exchange (act nested name set actions rehearsal).2.exchange := by
  induction actions generalizing rehearsal with
  | nil => exact .nothing _
  | cons action actions inductionHypothesis =>
      cases action with
      | echo other value type count index =>
          let report : ParamReport :=
            ⟨other.getD name, (value <|> set).getD .zero, type, count, index⟩
          refine (Interlude.echo report (.nothing _)).trans ?_
          exact inductionHypothesis ((rehearsal.resolve report).2.note _)
            (coherent.step (.resolve report))
      | nestedRead other =>
          have inner := nests other rehearsal coherent
          refine inner.trans ?_
          exact inductionHypothesis ((nested other rehearsal).2.note _)
            (inner.settled coherent).coherent
      | countPending => exact inductionHypothesis (rehearsal.note _) coherent
      | fail fault => exact .nothing _

theorem nests_of_interlude {send : Bytes → Rehearsal → Except Fault Unit × Rehearsal}
    (sends : ∀ frame rehearsal, Coherent rehearsal.exchange →
      Interlude rehearsal.exchange (send frame rehearsal).2.exchange) :
    Surroundings.Nests
      { exchange := (·.exchange), put := fun exchange rehearsal => { rehearsal with exchange },
        send, wait := id } fun _ => True where
  keeps := ⟨fun _ _ _ => rfl, fun _ _ _ => trivial, fun _ _ _ => trivial, fun _ _ => trivial⟩
  send frame rehearsal _ := sends frame rehearsal
  wait _ _ _ := .nothing _

/-- The requests that a vehicle makes while a frame is sent have returned when it is. -/
theorem send_interlude (depth : Nat) (frame : Bytes) {rehearsal : Rehearsal}
    (coherent : Coherent rehearsal.exchange) :
    Interlude rehearsal.exchange (send depth frame rehearsal).2.exchange := by
  induction depth generalizing frame rehearsal with
  | zero => exact .nothing _
  | succ depth inductionHypothesis =>
      have nests := nests_of_interlude fun frame rehearsal coherent =>
        inductionHypothesis frame coherent
      refine act_interlude ?_ _ _ _ (rehearsal.note (.frame frame)) coherent
      intro name inside coherentInside
      exact nests.perform inside.target (.read name) trivial coherentInside

theorem surroundings_nests (rehearsal : Rehearsal) :
    rehearsal.surroundings.Nests fun _ => True :=
  nests_of_interlude fun frame _ coherent => send_interlude rehearsal.depth frame coherent

end Rehearsal

end MavBridge
