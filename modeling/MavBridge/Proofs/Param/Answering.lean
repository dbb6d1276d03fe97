import MavBridge.Bridge.Intake
import MavBridge.Proofs.Param.Correlation
import MavBridge.Proofs.Param.Echoes
import MavBridge.Proofs.Param.Exclusion

/-!
# Which names can be answered

A call waits under its own name, and an echo comes under the text of the name field.  A call that is
reached returns what was reported, whatever else happens until it does; a call for a name that does
not read back is reached by no report at all.
-/

namespace MavBridge

/-- A call whose frame carries its name. -/
def Call.Addressed (call : Call) : Prop := Message.Addresses call.frame call.name

namespace Exchange

variable {exchange : Exchange}

/-! ## A call among the steps of others -/

/-- A step that a call takes itself. -/
def Step.isOf (number : Nat) : Step → Bool
  | .start _ _ => false
  | .register turn => turn == number
  | .sent turn _ => turn == number
  | .conclude turn => turn == number
  | .leave turn => turn == number
  | .resolve _ => false

theorem run_cons (first : Step) (steps : List Step) :
    exchange.run (first :: steps) = (exchange.step first).run steps := rfl

theorem firstReport?_append (name : String) (first second : List Step) :
    firstReport? name (first ++ second) =
      (firstReport? name first).or (firstReport? name second) := by
  rw [firstReport?, List.filterMap_append, List.find?_append]
  rfl

/-- No report comes under a name that does not read back. -/
theorem firstReport?_of_not_readsBack {name : String} (garbled : ¬ NameField.ReadsBack name)
    {steps : List Step}
    (solid : ∀ report, .resolve report ∈ steps → NameField.ReadsBack report.name) :
    firstReport? name steps = none := by
  rw [firstReport?, List.find?_eq_none]
  intro report brought named
  obtain ⟨step, membership, brings⟩ := List.mem_filterMap.mp brought
  cases step with
  | resolve other =>
      cases brings
      exact garbled (beq_iff_eq.mp named ▸ solid report membership)
  | _ => cases brings

/-- A call to which some steps bring their reports. -/
def hearing (call : Call) (steps : List Step) : Call :=
  { call with slot := call.slot <|> (firstReport? call.name steps).map .ofReport }

theorem hearing_of_none {call : Call} {steps : List Step}
    (unheard : firstReport? call.name steps = none) : hearing call steps = call := by
  rw [hearing, unheard]
  cases call
  simp

theorem hearing_append (call : Call) (first second : List Step) :
    hearing call (first ++ second) = hearing (hearing call first) second := by
  simp only [hearing, firstReport?_append]
  cases call.slot <;> cases firstReport? call.name first <;> rfl

/-- What others do leaves a call in flight at its stage; it hears a report under its name. -/
theorem Coherent.call?_step_of_foreign (coherent : Coherent exchange) {number : Nat} {call : Call}
    (found : exchange.call? number = some call) (flying : call.isInFlight = true) {step : Step}
    (foreign : step.isOf number = false) :
    (exchange.step step).call? number = some (hearing call [step]) := by
  obtain rfl := number_of_call? found
  obtain ⟨after, foundAfter, move⟩ := step_move found step
  refine foundAfter.trans (congrArg some ?_)
  cases move with
  | stay unheard =>
      -- Nothing came to the call, and all that comes under its name does.
      refine (hearing_of_none ?_).symm
      cases step with
      | resolve report =>
          have others : report.name ≠ call.name := by
            intro ours
            have held := coherent.holder?_of_isInFlight found flying
            exact unheard report rfl (ours ▸ held)
          simp [firstReport?, Step.report?, others]
      | _ => rfl
  | @hear call report held =>
      have named : call.name = report.name := (coherent.isInFlight_of_holder? found held).2
      simp [hearing, firstReport?, Step.report?, named]
  | refuse => simp [Step.isOf] at foreign
  | register => simp [Step.isOf] at foreign
  | sent => simp [Step.isOf] at foreign
  | conclude => simp [Step.isOf] at foreign
  | leave => simp [Step.isOf] at foreign

theorem Coherent.call?_run_of_foreign (coherent : Coherent exchange) {number : Nat} {call : Call}
    (found : exchange.call? number = some call) (flying : call.isInFlight = true)
    {steps : List Step} (foreign : ∀ step ∈ steps, step.isOf number = false) :
    (exchange.run steps).call? number = some (hearing call steps) := by
  -- On the steps: each one brings its report to the call that the ones before it have left.
  induction steps generalizing exchange call with
  | nil => exact found.trans (congrArg some (hearing_of_none rfl).symm)
  | cons first steps inductionHypothesis =>
      rw [List.forall_mem_cons] at foreign
      have foundAfter := coherent.call?_step_of_foreign found flying foreign.1
      have later := inductionHypothesis (coherent.step first) foundAfter flying foreign.2
      rw [← List.singleton_append, hearing_append]
      exact later

/-! ## The call's own steps -/

theorem call?_sent {number : Nat} {call : Call} (found : exchange.call? number = some call)
    (registered : call.stage = .registered) (outcome : Except Fault Unit) :
    (exchange.sent number outcome).call? number =
      some { call with stage := stageAfterSending outcome } := by
  cases call
  cases registered
  simp only [sent, found]
  exact (call?_setStage_of_found found _ (stageAfterSending outcome)).trans (by rw [if_pos rfl])

/-- The next call, once it is registered under a name that was free. -/
theorem Coherent.call?_register_of_free (coherent : Coherent exchange) {name : String}
    (free : exchange.holder? name = none) (builder : FrameBuilder) (frame : Bytes) :
    ((exchange.addCall builder name frame).register exchange.issued).call? exchange.issued =
      some ⟨exchange.issued, name, frame, .registered, none⟩ := by
  have found := coherent.call?_addCall_issued builder name frame
  have stillFree : (exchange.addCall builder name frame).holder? name = none := free
  simp only [Exchange.register, found, stillFree]
  exact (call?_setStage_of_found found _ .registered).trans (by rw [if_pos rfl])

theorem call?_conclude {number : Nat} {call : Call} (found : exchange.call? number = some call)
    (waiting : call.stage = .waiting) :
    (exchange.conclude number).call? number =
      some { call with stage := .leaving (conclusion call) } := by
  cases call
  cases waiting
  simp only [conclude, found]
  exact (call?_setStage_of_found found _ _).trans (by rw [if_pos rfl]; rfl)

theorem result?_leave {number : Nat} {call : Call} {result : Except Fault ParamValue}
    (found : exchange.call? number = some call) (leaving : call.stage = .leaving result) :
    (exchange.leave number).result? number = some result := by
  cases call
  cases leaving
  have left := call?_setStage_of_found found number (.returned result)
  rw [if_pos rfl] at left
  simp only [leave, found]
  exact result?_eq_some_iff.mpr ⟨_, left, rfl⟩

/-- What a call is answered with by the first report under its name. -/
def answerTo (name : String) : Option ParamReport → Except Fault ParamValue
  | some report => .ok (.ofReport report)
  | none => .error (.paramTimeout name)

theorem conclusion_hearing {call : Call} (unheard : call.slot = none) (steps : List Step) :
    conclusion (hearing call steps) = answerTo call.name (firstReport? call.name steps) := by
  rw [hearing, unheard]
  cases firstReport? call.name steps <;> rfl

/-- What a call that waits returns: the first report under its name that comes until its waiting
ends. -/
theorem Coherent.result?_of_waiting (coherent : Coherent exchange) {number : Nat} {call : Call}
    (found : exchange.call? number = some call) (waiting : call.stage = .waiting)
    (unheard : call.slot = none) {before between : List Step}
    (foreign : ∀ step ∈ before ++ between, step.isOf number = false) (after : List Step) :
    (exchange.run (before ++ .conclude number :: (between ++ .leave number :: after))).result?
        number = some (answerTo call.name (firstReport? call.name before)) := by
  rw [List.forall_mem_append] at foreign
  have flying : call.isInFlight = true := Call.isInFlight_of_stage waiting rfl
  have heard := coherent.call?_run_of_foreign found flying foreign.1
  have concluded := call?_conclude heard waiting
  have coherentThen := (coherent.run before).step (.conclude number)
  have held := coherentThen.call?_run_of_foreign concluded rfl foreign.2
  have returned := returned_run (result?_leave held rfl) after
  rw [← conclusion_hearing unheard, run_append, run_cons, run_append, run_cons]
  exact returned.1

/-! ## The frames of calls -/

theorem addressed_alter (addressed : ∀ call ∈ exchange.calls, call.Addressed) (number : Nat)
    {change : Call → Call} (keeps : ∀ call, call.Addressed → (change call).Addressed) :
    ∀ call ∈ (exchange.alter number change).calls, call.Addressed := by
  intro call membership
  obtain ⟨other, otherMembership, rfl⟩ := List.mem_map.mp membership
  have otherAddressed := addressed other otherMembership
  split
  next => exact keeps other otherAddressed
  next => exact otherAddressed

theorem addressed_step (addressed : ∀ call ∈ exchange.calls, call.Addressed) (step : Step) :
    ∀ call ∈ (exchange.step step).calls, call.Addressed := by
  have staged : ∀ number stage, ∀ call ∈ (exchange.setStage number stage).calls, call.Addressed :=
    fun number stage => addressed_alter addressed number fun _ given => given
  have effect : Effect exchange step (exchange.step step) := step_effect step
  generalize exchange.step step = next at effect
  cases effect with
  | idle unheard => exact addressed
  | reject refused => exact addressed
  | start accepted =>
      intro call membership
      rcases List.mem_append.mp membership with old | new
      · exact addressed call old
      · rw [List.mem_singleton.mp new]
        exact ParamRequest.addresses_of_frame accepted
  | refuse call found built held => exact staged _ _
  | register call found built free => exact staged _ _
  | sent call found registered => exact staged _ _
  | conclude call found waiting => exact staged _ _
  | leave call found leaving => exact staged _ _
  | hear held => exact addressed_alter addressed _ fun _ given => given

theorem addressed_run (steps : List Step) :
    ∀ call ∈ (empty.run steps).calls, call.Addressed := by
  induction steps using List.reverseRecOn with
  | nil => simp [run, empty]
  | append_singleton steps last inductionHypothesis =>
      rw [run_concat]
      exact addressed_step inductionHypothesis last

/-- The first report of an echo answers a call whose name reads back; any other call times out. -/
theorem answerTo_of_echo {name : String} {frame : Bytes} {echo : Message}
    (echoes : echo.Echoes frame) (addresses : Message.Addresses frame name) {steps : List Step}
    (solid : ∀ report, .resolve report ∈ steps → NameField.ReadsBack report.name)
    (first : firstReport? echo.report.name steps = some echo.report) :
    answerTo name (firstReport? name steps) =
      if NameField.ReadsBack name then .ok (.ofReport echo.report)
      else .error (.paramTimeout name) := by
  split
  next readsBack =>
    have ours := (echoes.name_eq_iff addresses).mpr readsBack
    rw [← ours, first]
    rfl
  next garbled =>
    rw [firstReport?_of_not_readsBack garbled solid]
    rfl

end Exchange

open Exchange (Step answerTo firstReport?)

namespace Surroundings

variable {σ : Type} {around : Surroundings σ} {ready : σ → Prop}

/-! ## Whole calls -/

/-- The surroundings once the next call is registered. -/
def registered (around : Surroundings σ) (target : Identity) (request : ParamRequest) (s : σ) : σ :=
  let started := ((around.exchange s).start target request).2
  around.put (started.register (around.exchange s).issued) s

/-- How a registered call goes whose frame gets sent: the steps that others take while it sends, and
while it waits. -/
structure Course (around : Surroundings σ) (number : Nat) (frame : Bytes) (s : σ)
    (sending waiting : List Step) : Prop where
  delivered : (around.send frame s).1 = .ok ()
  sends : around.exchange (around.send frame s).2 = (around.exchange s).run sending
  waits :
    let sent := around.modify (·.sent number (.ok ())) (around.send frame s).2
    around.exchange (around.wait sent) = (around.exchange sent).run waiting
  foreign : ∀ step ∈ sending ++ waiting, Exchange.Step.isOf number step = false

/-- A registered call returns the first report under its name that comes while it sends or waits. -/
theorem Course.result?_await {number : Nat} {frame : Bytes} {s : σ} {sending waiting : List Step}
    (course : around.Course number frame s sending waiting) (keeps : around.Keeps ready)
    (isReady : ready s) (coherent : (around.exchange s).Coherent) {call : Call}
    (found : (around.exchange s).call? number = some call) (registered : call.stage = .registered)
    (unheard : call.slot = none) :
    (around.exchange (around.await number frame s)).result? number =
      some (answerTo call.name (firstReport? call.name (sending ++ waiting))) := by
  obtain ⟨delivered, sends, waits, foreign⟩ := course
  rw [List.forall_mem_append] at foreign
  have readySent := keeps.send frame s isReady
  unfold Surroundings.await
  generalize around.send frame s = sent at delivered sends waits readySent
  obtain ⟨outcome, afterSend⟩ := sent
  cases delivered
  dsimp only at sends waits readySent ⊢
  have readyNoted := keeps.modify (·.sent number (.ok ())) readySent
  have readyWaited := keeps.wait _ readyNoted
  rw [keeps.exchange_modify _ (keeps.modify _ readyWaited), keeps.exchange_modify _ readyWaited,
    waits, keeps.exchange_modify _ readySent, sends]
  have flying : call.isInFlight = true := Call.isInFlight_of_stage registered rfl
  have heard := coherent.call?_run_of_foreign found flying foreign.1
  have waiting := Exchange.call?_sent heard registered (.ok ())
  have coherentThen := (coherent.run sending).step (.sent number (.ok ()))
  have heardAll := coherentThen.call?_run_of_foreign waiting rfl foreign.2
  have concluded := Exchange.call?_conclude heardAll rfl
  refine (Exchange.result?_leave concluded rfl).trans ?_
  rw [← Exchange.conclusion_hearing unheard, Exchange.hearing_append]
  rfl

/-- A whole call whose name is free. -/
theorem perform_of_free (keeps : around.Keeps ready) {s : σ} (isReady : ready s)
    (coherent : (around.exchange s).Coherent)
    {target : Identity} {request : ParamRequest} {frame : Bytes}
    (accepted : (request.frame (around.exchange s).builder target).1 = .ok frame)
    (free : (around.exchange s).holder? request.name = none) {sending waiting : List Step}
    (course : around.Course (around.exchange s).issued frame (around.registered target request s)
      sending waiting) :
    (around.perform target request s).1 =
      answerTo request.name (firstReport? request.name (sending ++ waiting)) := by
  have built : request.frame (around.exchange s).builder target =
      (.ok frame, (request.frame (around.exchange s).builder target).2) := Prod.ext accepted rfl
  generalize (request.frame (around.exchange s).builder target).2 = builder at built
  -- The call is registered in a state that steps lead to, so that it can be followed from there.
  have started := Exchange.start_of_frame built
  have found := coherent.call?_register_of_free free builder frame
  generalize (around.exchange s).addCall builder request.name frame = exchange at started found
  have begun : (around.exchange s).step (.start target request) = exchange :=
    congrArg Prod.snd started
  have coherentThen : (exchange.register (around.exchange s).issued).Coherent :=
    (begun ▸ coherent.step (.start target request)).step (.register _)
  have reached : around.registered target request s =
      around.put (exchange.register (around.exchange s).issued) s := by
    rw [registered, started]
  rw [reached] at course
  rw [← keeps.held (exchange.register (around.exchange s).issued) s isReady] at coherentThen found
  have answered := course.result?_await keeps (keeps.put _ s isReady) coherentThen found rfl rfl
  rw [keeps.held _ _ isReady] at found
  simp only [perform, started, found, answered]
  rfl

/-- A whole call whose name is free, and whose request the vehicle echoes: the echo is the first
report under its name that comes while the call sends or waits. -/
structure Echoed (around : Surroundings σ) (target : Identity) (request : ParamRequest) (s : σ)
    (frame : Bytes) (echo : Message) (sending waiting : List Step) : Prop where
  accepted : (request.frame (around.exchange s).builder target).1 = .ok frame
  free : (around.exchange s).holder? request.name = none
  course : around.Course (around.exchange s).issued frame (around.registered target request s)
    sending waiting
  decoded : ∀ report, .resolve report ∈ sending ++ waiting → Decoder.Reports report
  echoes : echo.Echoes frame
  first : firstReport? echo.report.name (sending ++ waiting) = some echo.report

theorem Echoed.perform_eq {target : Identity} {request : ParamRequest} {s : σ} {frame : Bytes}
    {echo : Message} {sending waiting : List Step}
    (echoed : around.Echoed target request s frame echo sending waiting)
    (keeps : around.Keeps ready) (isReady : ready s) (coherent : (around.exchange s).Coherent) :
    (around.perform target request s).1 =
      if NameField.ReadsBack request.name then .ok (.ofReport echo.report)
      else .error (.paramTimeout request.name) := by
  have addresses : Message.Addresses frame request.name :=
    ParamRequest.addresses_of_frame (Prod.ext echoed.accepted rfl)
  rw [perform_of_free keeps isReady coherent echoed.accepted echoed.free echoed.course]
  refine Exchange.answerTo_of_echo echoed.echoes addresses ?_ echoed.first
  exact fun report brought => Decoder.readsBack_of_reports (echoed.decoded report brought)

end Surroundings

/-! ## The names that can be answered -/

/-- A decoded report is resolved. -/
theorem Intake.exchange_judge {δ : Type} [MessageDecoder δ] {intake : Intake δ} {frame : Bytes}
    {decoded : Decoded}
    (answered : (MessageDecoder.feedFrame intake.decoder frame).1 = some decoded)
    {report : ParamReport} (reported : decoded.body = .paramValue report) (hub : EventHub)
    (time : Nat) :
    (intake.judge frame hub time).1.exchange = intake.exchange.step (.resolve report) := by
  unfold judge
  generalize MessageDecoder.feedFrame intake.decoder frame = given at answered
  obtain ⟨message?, decoder⟩ := given
  cases answered
  simp only [interpret, reported]
  rfl

namespace Exchange

/-- Whatever steps calls and echoes have taken, in whatever order.  A call waits that has heard
nothing, and the reader decodes and resolves a report with the name field of its request: whatever
others do until its waiting ends and until it leaves, it returns what was reported if its name reads
back, and else that the time was up, whatever reports have come besides.  Calls that run from start
to end, be it to read or to write, answer by the same rule. -/
theorem echo_answers_iff_readsBack (steps : List Step) :
    let exchange := empty.run steps
    (∀ call ∈ exchange.calls, call.stage = .waiting → call.slot = none →
      ∀ (δ : Type) [MessageDecoder δ] (intake : Intake δ) (frame : Bytes) (decoded : Decoded)
        (echo : Message) (hub : EventHub) (time : Nat) (before between after : List Step),
        intake.exchange = exchange → echo.Echoes call.frame →
        (MessageDecoder.feedFrame intake.decoder frame).1 = some decoded →
        decoded.body = echo.body →
        (∀ step ∈ before ++ between, step.isOf call.number = false) →
        (∀ report, .resolve report ∈ before → Decoder.Reports report) →
        ((intake.judge frame hub time).1.exchange.run
            (before ++ .conclude call.number :: (between ++ .leave call.number :: after))).result?
            call.number =
          some (if NameField.ReadsBack call.name then .ok (.ofReport echo.report)
            else .error (.paramTimeout call.name))) ∧
      (∀ (σ : Type) (around : Surroundings σ) (ready : σ → Prop) (s : σ) (target : Identity)
        (name : String) (frame : Bytes) (echo : Message) (sending waiting : List Step),
        around.Keeps ready → ready s → around.exchange s = exchange →
        around.Echoed target (.read name) s frame echo sending waiting →
        (around.read target name s).1 =
          if NameField.ReadsBack name then .ok (.ofReport echo.report)
          else .error (.paramTimeout name)) ∧
      (∀ (σ : Type) (around : Surroundings σ) (ready : σ → Prop) (s : σ) (target : Identity)
        (name : String) (value : Binary64) (type : ParamType) (frame : Bytes) (echo : Message)
        (sending waiting : List Step), around.Keeps ready → ready s →
        around.exchange s = exchange →
        around.Echoed target (.write name value type) s frame echo sending waiting →
        (around.write target name value type s).1 =
          if NameField.ReadsBack name then .ok (.ofEcho value type (.ofReport echo.report))
          else .error (.paramTimeout name)) := by
  intro exchange
  have coherent : Coherent exchange := coherent_run steps
  refine ⟨?_, ?_, ?_⟩
  · intro call membership waiting unheard δ _ intake frame decoded echo hub time before between
      after same echoes answered body foreign reports
    have found : exchange.call? call.number = some call :=
      coherent.call?_eq_some_iff.mpr ⟨membership, rfl⟩
    have reported := body.trans (Message.body_of_paramValue echoes.kind)
    have addresses := addressed_run steps call membership
    have foreignAll : ∀ step ∈ .resolve echo.report :: before ++ between,
        step.isOf call.number = false := List.forall_mem_cons.mpr ⟨rfl, foreign⟩
    have solid : ∀ report, .resolve report ∈ .resolve echo.report :: before →
        NameField.ReadsBack report.name := by
      intro report brought
      rcases List.mem_cons.mp brought with own | other
      · cases own
        exact Message.readsBack_of_body (Message.body_of_paramValue echoes.kind)
      · exact Decoder.readsBack_of_reports (reports report other)
    have first : firstReport? echo.report.name (.resolve echo.report :: before) =
        some echo.report := by simp [firstReport?, Step.report?]
    rw [Intake.exchange_judge answered reported, same, ← run_cons, ← List.cons_append,
      coherent.result?_of_waiting found waiting unheard foreignAll after,
      answerTo_of_echo echoes addresses solid first]
  · intro σ around ready s target name frame echo sending waiting keeps isReady same echoed
    exact echoed.perform_eq keeps isReady (same ▸ coherent)
  · intro σ around ready s target name value type frame echo sending waiting keeps isReady same
      echoed
    have mapped : (around.write target name value type s).1 =
        (around.perform target (.write name value type) s).1.map (.ofEcho value type) := rfl
    rw [mapped, echoed.perform_eq keeps isReady (same ▸ coherent), apply_ite (Except.map _)]
    rfl

/-! ## A name that cannot be answered -/

/-- What a vehicle says of its sole parameter, with the field of a name. -/
def soleReport (name : String) : Message :=
  ⟨.paramValue, [0, 0, 0x80, 0x3F, 1, 0, 0, 0] ++ (NameField.encode? name).getD [] ++ [9]⟩

def soleReportFrame (name : String) : Bytes :=
  Packet.frame ⟨22, 0, 1, 1⟩ (Packet.sentPayload (soleReport name).payload)

/-- The call that waits once it has taken the steps `waitingFor`. -/
def waitingCall (name : String) : Call where
  number := 0
  name
  frame := ((ParamRequest.read name).frame {} ⟨1, 1⟩).1.toOption.getD []
  stage := .waiting

def waitingFor (name : String) : List Step :=
  [.start ⟨1, 1⟩ (.read name), .register 0, .sent 0 (.ok ())]

/-- The blank at the end of a name is sent, and is missing from the name of the echo. -/
theorem echo_unanswered :
    let exchange := empty.run (waitingFor "RATE ")
    let intake : Intake Decoder := { decoder := .empty, exchange }
    exchange.calls = [waitingCall "RATE "] ∧
      (soleReport "RATE ").Echoes (waitingCall "RATE ").frame ∧
      (Decoder.empty.feedFrame (soleReportFrame "RATE ")).1 =
        some ⟨1, 1, 0, (soleReport "RATE ").body⟩ ∧
      ((intake.judge (soleReportFrame "RATE ") {} 0).1.exchange.run
          [.conclude 0, .leave 0]).result? 0 = some (.error (.paramTimeout "RATE ")) := by
  refine ⟨rfl, ⟨rfl, ?_⟩, ?_, ?_⟩
  all_goals decide +kernel

/-- Surroundings in which nothing happens but that a report comes while a call waits. -/
def reporting (report : ParamReport) : Surroundings Exchange where
  exchange := id
  put exchange _ := exchange
  send _ exchange := (.ok (), exchange)
  wait exchange := exchange.step (.resolve report)

theorem keeps_reporting (report : ParamReport) : (reporting report).Keeps fun _ => True :=
  ⟨fun _ _ _ => rfl, fun _ _ _ => trivial, fun _ _ _ => trivial, fun _ _ => trivial⟩

theorem echoed_reporting {request : ParamRequest} {frame : Bytes} {echo : Message}
    (accepted : (request.frame {} ⟨1, 1⟩).1 = .ok frame) (echoes : echo.Echoes frame)
    (reports : Decoder.Reports echo.report) :
    (reporting echo.report).Echoed ⟨1, 1⟩ request empty frame echo [] [.resolve echo.report] where
  accepted := accepted
  free := rfl
  course := ⟨rfl, rfl, rfl, by simp [Step.isOf]⟩
  decoded := by
    intro report brought
    cases List.mem_singleton.mp brought
    exact reports
  echoes := echoes
  first := by simp [firstReport?, Step.report?]

theorem echo_answers_iff_readsBack_soleReport :
    let intake : Intake Decoder := { decoder := .empty, exchange := empty.run (waitingFor "RATE") }
    ((intake.judge (soleReportFrame "RATE") {} 0).1.exchange.run
        [.conclude 0, .leave 0]).result? 0 =
          some (.ok (.ofReport (soleReport "RATE").report)) ∧
      ((reporting (soleReport "RATE").report).read ⟨1, 1⟩ "RATE" empty).1 =
        .ok (.ofReport (soleReport "RATE").report) := by
  intro intake
  have answered : (Decoder.empty.feedFrame (soleReportFrame "RATE")).1 =
      some ⟨1, 1, 0, (soleReport "RATE").body⟩ := by decide +kernel
  have body : (soleReport "RATE").body = .paramValue (soleReport "RATE").report :=
    Message.body_of_paramValue rfl
  have echoes : (soleReport "RATE").Echoes (waitingCall "RATE").frame :=
    ⟨rfl, by decide +kernel⟩
  have readsBack : NameField.ReadsBack "RATE" := by decide +kernel
  have waits : waitingCall "RATE" ∈ (empty.run (waitingFor "RATE")).calls :=
    List.mem_singleton.mpr rfl
  constructor
  · have heard := (echo_answers_iff_readsBack (waitingFor "RATE")).1 (waitingCall "RATE") waits rfl
      rfl Decoder intake (soleReportFrame "RATE") _ (soleReport "RATE") {} 0 [] [] [] rfl echoes
      answered rfl (by simp) (by simp)
    exact heard.trans (congrArg some (if_pos readsBack))
  · have accepted : ((ParamRequest.read "RATE").frame {} ⟨1, 1⟩).1 =
        .ok (waitingCall "RATE").frame := rfl
    have echoed := echoed_reporting accepted echoes ⟨_, _, _, answered, body⟩
    have read := (echo_answers_iff_readsBack []).2.1 Exchange
      (reporting (soleReport "RATE").report) (fun _ => True) empty ⟨1, 1⟩ "RATE" _ _ _ _
      (keeps_reporting _) trivial rfl echoed
    exact read.trans (if_pos readsBack)

end Exchange

end MavBridge
