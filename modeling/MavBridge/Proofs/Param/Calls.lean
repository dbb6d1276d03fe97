import MavBridge.Param.Exchange
import MavBridge.Proofs.Lookup

/-!
# What a step does to a call

The steps of an exchange, seen from one call.  `Move` lists what a step can do to a call that there
is, and `step_move` says that nothing else happens to it.
-/

namespace MavBridge

/-- The name is registered, and the call has not returned. -/
def Stage.isInFlight : Stage → Bool
  | .built => false
  | .registered => true
  | .waiting => true
  | .leaving _ => true
  | .returned _ => false

def Call.isInFlight (call : Call) : Bool := call.stage.isInFlight

theorem Call.isInFlight_of_stage {call : Call} {stage : Stage} (reached : call.stage = stage)
    (flying : stage.isInFlight = true) : call.isInFlight = true := by
  rw [isInFlight, reached]
  exact flying

/-- A change to a call that leaves it its number. -/
def KeepsNumber (change : Call → Call) : Prop := ∀ call, (change call).number = call.number

namespace Exchange

variable {exchange : Exchange}

/-! ## Calls and holders -/

theorem number_of_call? {number : Nat} {call : Call} (found : exchange.call? number = some call) :
    call.number = number := by
  simpa using List.find?_some found

theorem mem_of_call? {number : Nat} {call : Call} (found : exchange.call? number = some call) :
    call ∈ exchange.calls :=
  List.mem_of_find?_eq_some found

theorem call?_alter {change : Call → Call} (keeps : KeepsNumber change) (altered number : Nat) :
    (exchange.alter altered change).call? number =
      (exchange.call? number).map fun call => if number = altered then change call else call := by
  have sameTest : ((fun call : Call => call.number == number) ∘ fun call : Call =>
      if call.number = altered then change call else call) = fun call => call.number == number := by
    funext other
    by_cases chosen : other.number = altered
    · simp [chosen, keeps other]
    · simp [chosen]
  have searched : (exchange.alter altered change).call? number = (exchange.call? number).map
      fun call => if call.number = altered then change call else call := by
    simp only [call?, alter, List.find?_map, sameTest]
  rw [searched]
  cases found : exchange.call? number with
  | none => rfl
  | some call => simp only [Option.map_some, number_of_call? found]

theorem map_number_alter {change : Call → Call} (keeps : KeepsNumber change) (altered : Nat) :
    (exchange.alter altered change).calls.map (·.number) = exchange.calls.map (·.number) := by
  simp only [alter, List.map_map]
  apply List.map_congr_left
  intro call membership
  by_cases chosen : call.number = altered
  · simp [chosen, keeps call]
  · simp [chosen]

theorem holder?_eq_none_iff {name : String} :
    exchange.holder? name = none ↔ name ∉ exchange.pending.map (·.1) := by
  rw [holder?, Option.map_eq_none_iff, find?_key_eq_none_iff]

theorem holder?_eq_some_iff (exclusive : (exchange.pending.map (·.1)).Nodup) {name : String}
    {number : Nat} : exchange.holder? name = some number ↔ (name, number) ∈ exchange.pending := by
  rw [holder?, Option.map_eq_some_iff]
  constructor
  · rintro ⟨entry, found, rfl⟩
    rcases (find?_key_eq_some_iff _ exclusive).mp found with ⟨membership, rfl⟩
    exact membership
  · intro membership
    exact ⟨(name, number), (find?_key_eq_some_iff _ exclusive).mpr ⟨membership, rfl⟩, rfl⟩

/-- A call is at another stage. -/
def setStage (exchange : Exchange) (number : Nat) (stage : Stage) : Exchange :=
  exchange.alter number fun call => { call with stage }

/-- A call has heard an echo; the first one stays. -/
def setSlot (exchange : Exchange) (number : Nat) (value : ParamValue) : Exchange :=
  exchange.alter number fun call => { call with slot := call.slot <|> some value }

/-- Other names are registered. -/
def setPending (exchange : Exchange) (pending : List (String × Nat)) : Exchange :=
  { exchange with pending }

/-- There is another call, with its frame built. -/
def addCall (exchange : Exchange) (builder : FrameBuilder) (name : String) (frame : Bytes) :
    Exchange :=
  { exchange with
    builder
    calls := exchange.calls ++ [{ number := exchange.issued, name, frame }]
    issued := exchange.issued + 1 }

/-- How the outcome of sending leaves a call. -/
def stageAfterSending : Except Fault Unit → Stage
  | .ok () => .waiting
  | .error fault => .leaving (.error fault)

/-- The result of a call whose waiting ends. -/
def conclusion (call : Call) : Except Fault ParamValue :=
  match call.slot with
  | some value => .ok value
  | none => .error (.paramTimeout call.name)

/-! ## What a step can do -/

/-- What a step does: it is out of turn, starts a call, or takes one call further. -/
inductive Effect (exchange : Exchange) : Step → Exchange → Prop where
  | idle {step : Step} :
      (∀ report, step = .resolve report → exchange.holder? report.name = none) →
      Effect exchange step exchange
  | reject {target : Identity} {request : ParamRequest} {fault : Fault} {builder : FrameBuilder} :
      request.frame exchange.builder target = (.error fault, builder) →
      Effect exchange (.start target request) { exchange with builder }
  | start {target : Identity} {request : ParamRequest} {frame : Bytes} {builder : FrameBuilder} :
      request.frame exchange.builder target = (.ok frame, builder) →
      Effect exchange (.start target request) (exchange.addCall builder request.name frame)
  | refuse (call : Call) :
      exchange.call? call.number = some call → call.stage = .built →
      exchange.holder? call.name ≠ none →
      Effect exchange (.register call.number)
        (exchange.setStage call.number (.returned (.error (.paramBusy call.name))))
  | register (call : Call) :
      exchange.call? call.number = some call → call.stage = .built →
      exchange.holder? call.name = none →
      Effect exchange (.register call.number)
        ((exchange.setStage call.number .registered).setPending
          ((call.name, call.number) :: exchange.pending))
  | sent (call : Call) {outcome : Except Fault Unit} :
      exchange.call? call.number = some call → call.stage = .registered →
      Effect exchange (.sent call.number outcome)
        (exchange.setStage call.number (stageAfterSending outcome))
  | conclude (call : Call) :
      exchange.call? call.number = some call → call.stage = .waiting →
      Effect exchange (.conclude call.number)
        (exchange.setStage call.number (.leaving (conclusion call)))
  | leave (call : Call) {result : Except Fault ParamValue} :
      exchange.call? call.number = some call → call.stage = .leaving result →
      Effect exchange (.leave call.number)
        ((exchange.setStage call.number (.returned result)).setPending
          (exchange.pending.filter fun entry => entry.1 != call.name))
  | hear {report : ParamReport} {number : Nat} :
      exchange.holder? report.name = some number →
      Effect exchange (.resolve report) (exchange.setSlot number (.ofReport report))

theorem start_of_frame {target : Identity} {request : ParamRequest} {frame : Bytes}
    {builder : FrameBuilder}
    (accepted : request.frame exchange.builder target = (.ok frame, builder)) :
    exchange.start target request =
      (.ok exchange.issued, exchange.addCall builder request.name frame) := by
  unfold start
  rw [accepted]
  rfl

theorem start_effect (target : Identity) (request : ParamRequest) :
    Effect exchange (.start target request) (exchange.start target request).2 := by
  unfold start
  split
  next fault builder refused => exact .reject refused
  next frame builder accepted => exact .start accepted

theorem register_effect (number : Nat) :
    Effect exchange (.register number) (exchange.register number) := by
  unfold register
  split
  next turn name frame slot found =>
    obtain rfl : turn = number := number_of_call? found
    split
    next held =>
      have taken : exchange.holder? name ≠ none := Option.isSome_iff_ne_none.mp held
      exact .refuse ⟨turn, name, frame, .built, slot⟩ found rfl taken
    next free =>
      have unheld : exchange.holder? name = none := by simpa using free
      exact .register ⟨turn, name, frame, .built, slot⟩ found rfl unheld
  next => exact .idle (by simp)

theorem sent_effect (number : Nat) (outcome : Except Fault Unit) :
    Effect exchange (.sent number outcome) (exchange.sent number outcome) := by
  unfold sent
  split
  next turn name frame slot found =>
    obtain rfl : turn = number := number_of_call? found
    exact .sent ⟨turn, name, frame, .registered, slot⟩ found rfl
  next => exact .idle (by simp)

theorem conclude_effect (number : Nat) :
    Effect exchange (.conclude number) (exchange.conclude number) := by
  unfold conclude
  split
  next turn name frame slot found =>
    obtain rfl : turn = number := number_of_call? found
    exact .conclude ⟨turn, name, frame, .waiting, slot⟩ found rfl
  next => exact .idle (by simp)

theorem leave_effect (number : Nat) :
    Effect exchange (.leave number) (exchange.leave number) := by
  unfold leave
  split
  next turn name frame result slot found =>
    obtain rfl : turn = number := number_of_call? found
    exact .leave ⟨turn, name, frame, .leaving result, slot⟩ found rfl
  next => exact .idle (by simp)

theorem resolve_effect (report : ParamReport) :
    Effect exchange (.resolve report) (exchange.resolve report).2 := by
  unfold resolve
  split
  next free =>
    refine .idle ?_
    rintro other ⟨rfl⟩
    exact free
  next number held => exact .hear held

theorem step_effect (step : Step) : Effect exchange step (exchange.step step) := by
  cases step with
  | start target request => exact start_effect target request
  | register number => exact register_effect number
  | sent number outcome => exact sent_effect number outcome
  | conclude number => exact conclude_effect number
  | leave number => exact leave_effect number
  | resolve report => exact resolve_effect report

/-! ## One step, seen from one call -/

theorem call?_setStage (exchange : Exchange) (altered number : Nat) (stage : Stage) :
    (exchange.setStage altered stage).call? number = (exchange.call? number).map fun call =>
      if number = altered then { call with stage } else call := by
  have keeps : KeepsNumber fun call => { call with stage } := fun _ => rfl
  exact call?_alter keeps altered number

theorem call?_setSlot (exchange : Exchange) (altered number : Nat) (value : ParamValue) :
    (exchange.setSlot altered value).call? number = (exchange.call? number).map fun call =>
      if number = altered then { call with slot := call.slot <|> some value } else call := by
  have keeps : KeepsNumber fun call => { call with slot := call.slot <|> some value } :=
    fun _ => rfl
  exact call?_alter keeps altered number

theorem call?_setStage_of_found {number : Nat} {call : Call}
    (found : exchange.call? number = some call) (altered : Nat) (stage : Stage) :
    (exchange.setStage altered stage).call? number =
      some (if number = altered then { call with stage } else call) := by
  rw [call?_setStage, found, Option.map_some]

theorem call?_setStage_of_ne {number altered : Nat} (theirs : number ≠ altered) (stage : Stage) :
    (exchange.setStage altered stage).call? number = exchange.call? number := by
  simp [call?_setStage, theirs]

@[simp]
theorem call?_setPending (pending : List (String × Nat)) (number : Nat) :
    (exchange.setPending pending).call? number = exchange.call? number := rfl

theorem call?_addCall {number : Nat} {call : Call} (found : exchange.call? number = some call)
    (builder : FrameBuilder) (name : String) (frame : Bytes) :
    (exchange.addCall builder name frame).call? number = some call := by
  unfold call? at found ⊢
  simp only [addCall, List.find?_append, found, Option.some_or]

theorem register_of_held {number : Nat} {call : Call} (found : exchange.call? number = some call)
    (built : call.stage = .built) (held : exchange.holder? call.name ≠ none) :
    exchange.register number =
      exchange.setStage number (.returned (.error (.paramBusy call.name))) := by
  have isHeld := Option.isSome_iff_ne_none.mpr held
  unfold register
  split
  next turn name frame slot turnFound =>
    rw [found] at turnFound
    cases turnFound
    rw [if_pos isHeld]
    rfl
  next other =>
    cases call
    simp only at built
    subst built
    exact absurd found (other _ _ _ _)

theorem result?_eq_some_iff {number : Nat} {result : Except Fault ParamValue} :
    exchange.result? number = some result ↔
      ∃ call, exchange.call? number = some call ∧ call.stage = .returned result := by
  unfold result?
  constructor
  · intro given
    split at given
    next turn name frame returned slot found => exact ⟨_, found, by rw [Option.some.inj given]⟩
    next other => cases given
  · rintro ⟨call, found, returned⟩
    cases call
    simp only at returned
    subst returned
    rw [found]

/-- What a step of an exchange does to one of its calls. -/
inductive Move (exchange : Exchange) : Step → Call → Call → Prop where
  /-- It is not this call's turn, and no echo comes for it. -/
  | stay {step : Step} {call : Call} :
      (∀ report, step = .resolve report → exchange.holder? report.name ≠ some call.number) →
      Move exchange step call call
  | refuse {call : Call} :
      call.stage = .built → exchange.holder? call.name ≠ none →
      Move exchange (.register call.number) call
        { call with stage := .returned (.error (.paramBusy call.name)) }
  | register {call : Call} :
      call.stage = .built → exchange.holder? call.name = none →
      Move exchange (.register call.number) call { call with stage := .registered }
  | sent {call : Call} {outcome : Except Fault Unit} :
      call.stage = .registered →
      Move exchange (.sent call.number outcome) call
        { call with stage := stageAfterSending outcome }
  | conclude {call : Call} :
      call.stage = .waiting →
      Move exchange (.conclude call.number) call { call with stage := .leaving (conclusion call) }
  | leave {call : Call} {result : Except Fault ParamValue} :
      call.stage = .leaving result →
      Move exchange (.leave call.number) call { call with stage := .returned result }
  | hear {call : Call} {report : ParamReport} :
      exchange.holder? report.name = some call.number →
      Move exchange (.resolve report) call
        { call with slot := call.slot <|> some (.ofReport report) }

namespace Move

variable {step : Step} {call after : Call}

theorem name_eq (move : Move exchange step call after) : after.name = call.name := by
  cases move <;> rfl

/-- A call that has its result keeps it. -/
theorem stage_eq_of_returned (move : Move exchange step call after)
    {result : Except Fault ParamValue} (returned : call.stage = .returned result) :
    after.stage = .returned result := by
  cases move with
  | stay unheard => exact returned
  | hear held => exact returned
  | refuse built held => simp [built] at returned
  | register built free => simp [built] at returned
  | sent registered => simp [registered] at returned
  | conclude waiting => simp [waiting] at returned
  | leave leaving => simp [leaving] at returned

/-- No call goes back to its beginning. -/
theorem stage_ne_built (move : Move exchange step call after) (begun : call.stage ≠ .built) :
    after.stage ≠ .built := by
  cases move with
  | stay unheard => exact begun
  | hear held => exact begun
  | @sent call outcome registered => cases outcome <;> simp [stageAfterSending]
  | _ => simp

end Move

/-- A new stage for one call leaves the others alone. -/
theorem move_of_setStage {number : Nat} {call other : Call} {step : Step} {stage : Stage}
    (found : exchange.call? number = some call)
    (turn : exchange.call? other.number = some other)
    (silent : ∀ report, step ≠ .resolve report)
    (own : Move exchange step other { other with stage }) :
    ∃ after, (exchange.setStage other.number stage).call? number = some after ∧
      Move exchange step call after := by
  rw [call?_setStage_of_found found]
  by_cases mine : number = other.number
  · have same : call = other := by
      rw [mine, turn] at found
      exact (Option.some.inj found).symm
    exact ⟨{ call with stage }, by rw [if_pos mine], same ▸ own⟩
  · exact ⟨call, by rw [if_neg mine], .stay fun report said => absurd said (silent report)⟩

/-- A step makes one move of each call that there is. -/
theorem step_move {number : Nat} {call : Call} (found : exchange.call? number = some call)
    (step : Step) :
    ∃ after, (exchange.step step).call? number = some after ∧ Move exchange step call after := by
  have effect : Effect exchange step (exchange.step step) := step_effect step
  generalize exchange.step step = next at effect
  cases effect with
  | idle unheard =>
      refine ⟨call, found, .stay ?_⟩
      intro report said held
      rw [unheard report said] at held
      cases held
  | reject refused => exact ⟨call, found, .stay (by simp)⟩
  | start accepted =>
      exact ⟨call, call?_addCall found _ _ _, .stay (by simp)⟩
  | refuse other turn built held =>
      exact move_of_setStage found turn (by simp) (.refuse built held)
  | register other turn built free =>
      exact move_of_setStage found turn (by simp) (.register built free)
  | sent other turn registered =>
      exact move_of_setStage found turn (by simp) (.sent registered)
  | conclude other turn waiting =>
      exact move_of_setStage found turn (by simp) (.conclude waiting)
  | leave other turn leaving =>
      exact move_of_setStage found turn (by simp) (.leave leaving)
  | @hear report holder held =>
      rw [call?_setSlot, found, Option.map_some]
      have numbered := number_of_call? found
      by_cases mine : number = holder
      · refine ⟨_, by rw [if_pos mine], .hear ?_⟩
        rw [held, numbered, mine]
      · refine ⟨call, by rw [if_neg mine], .stay ?_⟩
        rintro other ⟨rfl⟩ ours
        rw [held, numbered] at ours
        exact mine (Option.some.inj ours).symm

/-- A call that a step brings has its frame built, and nothing more. -/
theorem fresh_of_step {number : Nat} {call : Call} {step : Step}
    (missing : exchange.call? number = none)
    (found : (exchange.step step).call? number = some call) :
    call.stage = .built ∧ call.slot = none := by
  have noStage : ∀ altered stage, (exchange.setStage altered stage).call? number = none := by
    intro altered stage
    rw [call?_setStage, missing, Option.map_none]
  have effect : Effect exchange step (exchange.step step) := step_effect step
  generalize exchange.step step = next at effect found
  cases effect with
  | idle unheard => simp [missing] at found
  | reject refused =>
      unfold call? at missing found
      simp [missing] at found
  | start accepted =>
      unfold call? at missing found
      simp only [addCall, List.find?_append, missing, Option.none_or,
        List.find?_singleton] at found
      split at found
      next mine =>
        cases found
        exact ⟨rfl, rfl⟩
      next theirs => cases found
  | refuse other turn built held => simp [noStage] at found
  | register other turn built free => simp [noStage] at found
  | sent other turn registered => simp [noStage] at found
  | conclude other turn waiting => simp [noStage] at found
  | leave other turn leaving => simp [noStage] at found
  | hear held =>
      rw [call?_setSlot, missing, Option.map_none] at found
      cases found

end Exchange

end MavBridge
