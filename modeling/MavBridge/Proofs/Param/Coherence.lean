import MavBridge.Proofs.Param.Calls

/-!
# Names and calls in flight

`Coherent` is what every step of an exchange keeps: the registered names are the names of the calls
in flight, and no two of these have the same name.
-/

namespace MavBridge

/-- A request has a frame exactly if its name fits into the field for names. -/
theorem ParamRequest.exists_frame_iff (request : ParamRequest) (builder : FrameBuilder)
    (target : Identity) :
    (∃ frame after, request.frame builder target = (.ok frame, after)) ↔
      (NameField.encode? request.name).isSome = true := by
  have named : ∀ (name : String) (message : Bytes → Message),
      (∃ frame after, builder.buildNamed name message = (.ok frame, after)) ↔
        (NameField.encode? name).isSome = true := by
    intro name message
    unfold FrameBuilder.buildNamed
    cases encoded : NameField.encode? name with
    | none => simp
    | some field => simp
  cases request with
  | read name => exact named name _
  | write name value type => exact named name _

namespace Exchange

variable {exchange : Exchange}

/-- The name under which a call is in flight. -/
def flight? (exchange : Exchange) (number : Nat) : Option String :=
  ((exchange.call? number).filter (·.isInFlight)).map (·.name)

theorem flight?_eq_some_iff {number : Nat} {name : String} :
    exchange.flight? number = some name ↔
      ∃ call, exchange.call? number = some call ∧ call.isInFlight = true ∧ call.name = name := by
  simp [flight?, Option.filter_eq_some_iff, and_assoc]

@[simp]
theorem flight?_setPending (pending : List (String × Nat)) (number : Nat) :
    (exchange.setPending pending).flight? number = exchange.flight? number := rfl

/-- A new stage takes one call into flight or out of it. -/
theorem flight?_setStage {call : Call} (found : exchange.call? call.number = some call)
    (stage : Stage) (number : Nat) :
    (exchange.setStage call.number stage).flight? number =
      if number = call.number then (if stage.isInFlight then some call.name else none)
      else exchange.flight? number := by
  by_cases mine : number = call.number
  · subst number
    rw [flight?, call?_setStage_of_found found, if_pos rfl, if_pos rfl]
    cases flying : stage.isInFlight <;> simp [Call.isInFlight, flying]
  · rw [flight?, call?_setStage_of_ne mine, if_neg mine, flight?]

def inFlight (exchange : Exchange) : List Call := exchange.calls.filter (·.isInFlight)

/-- The registered names are those of the calls in flight, one call for each. -/
structure Coherent (exchange : Exchange) : Prop where
  numbered : exchange.calls.map (·.number) = List.range exchange.issued
  named : ∀ call ∈ exchange.calls, (NameField.encode? call.name).isSome = true
  exclusive : (exchange.pending.map (·.1)).Nodup
  held : ∀ name number, (name, number) ∈ exchange.pending ↔ exchange.flight? number = some name

theorem coherent_empty : Coherent empty where
  numbered := rfl
  named call membership := by simp [empty] at membership
  exclusive := List.nodup_nil
  held name number := by simp [empty, flight?, call?]

namespace Coherent

theorem distinct (coherent : Coherent exchange) : (exchange.calls.map (·.number)).Nodup := by
  rw [coherent.numbered]
  exact List.nodup_range

theorem call?_eq_some_iff (coherent : Coherent exchange) {number : Nat} {call : Call} :
    exchange.call? number = some call ↔ call ∈ exchange.calls ∧ call.number = number :=
  find?_key_eq_some_iff _ coherent.distinct

/-- Under a taken name stands the one call that is in flight with it. -/
theorem holder?_eq_some_iff_flight? (coherent : Coherent exchange) {name : String} {number : Nat} :
    exchange.holder? name = some number ↔ exchange.flight? number = some name := by
  rw [holder?_eq_some_iff coherent.exclusive, coherent.held]

/-- A taken name fits into the field for names. -/
theorem encode?_of_holder? (coherent : Coherent exchange) {name : String}
    (taken : exchange.holder? name ≠ none) : (NameField.encode? name).isSome = true := by
  rcases Option.ne_none_iff_exists'.mp taken with ⟨number, held⟩
  rw [coherent.holder?_eq_some_iff_flight?, flight?_eq_some_iff] at held
  rcases held with ⟨call, found, -, rfl⟩
  exact coherent.named call (mem_of_call? found)

/-- The next call gets a number that no call has. -/
theorem call?_issued (coherent : Coherent exchange) : exchange.call? exchange.issued = none := by
  rw [call?, find?_key_eq_none_iff, coherent.numbered]
  simp

theorem call?_addCall_issued (coherent : Coherent exchange) (builder : FrameBuilder)
    (name : String) (frame : Bytes) :
    (exchange.addCall builder name frame).call? exchange.issued =
      some { number := exchange.issued, name, frame } := by
  have fresh := coherent.call?_issued
  unfold call? at fresh ⊢
  simp [addCall, List.find?_append, fresh]

/-! ## Registered names -/

theorem mem_inFlight_iff (coherent : Coherent exchange) {call : Call} :
    call ∈ exchange.inFlight ↔
      exchange.call? call.number = some call ∧ call.isInFlight = true := by
  rw [inFlight, List.mem_filter, coherent.call?_eq_some_iff]
  simp

theorem holder?_of_isInFlight (coherent : Coherent exchange) {number : Nat} {call : Call}
    (found : exchange.call? number = some call) (flying : call.isInFlight = true) :
    exchange.holder? call.name = some number :=
  coherent.holder?_eq_some_iff_flight?.mpr (flight?_eq_some_iff.mpr ⟨call, found, flying, rfl⟩)

theorem isInFlight_of_holder? (coherent : Coherent exchange) {call : Call}
    (found : exchange.call? call.number = some call) {name : String}
    (held : exchange.holder? name = some call.number) :
    call.isInFlight = true ∧ call.name = name := by
  rw [coherent.holder?_eq_some_iff_flight?, flight?_eq_some_iff] at held
  rcases held with ⟨other, otherFound, flying, named⟩
  rw [found] at otherFound
  cases otherFound
  exact ⟨flying, named⟩

/-- Two calls in flight under one name are one call. -/
theorem eq_of_name_eq (coherent : Coherent exchange) {call other : Call}
    (flying : call ∈ exchange.inFlight) (flyingToo : other ∈ exchange.inFlight)
    (sameName : call.name = other.name) : call = other := by
  rw [coherent.mem_inFlight_iff] at flying flyingToo
  have ours := coherent.holder?_of_isInFlight flying.1 flying.2
  have theirs := coherent.holder?_of_isInFlight flyingToo.1 flyingToo.2
  rw [sameName] at ours
  have sameNumber : call.number = other.number := Option.some.inj (ours.symm.trans theirs)
  rw [sameNumber, flyingToo.1] at flying
  exact (Option.some.inj flying.1).symm

theorem mem_pending_iff (coherent : Coherent exchange) {name : String} :
    name ∈ exchange.pending.map (·.1) ↔ ∃ call ∈ exchange.inFlight, call.name = name := by
  constructor
  · intro membership
    rcases List.mem_map.mp membership with ⟨⟨_, number⟩, entry, rfl⟩
    rcases flight?_eq_some_iff.mp ((coherent.held _ _).mp entry) with
      ⟨call, found, flying, named⟩
    have numbered := number_of_call? found
    exact ⟨call, coherent.mem_inFlight_iff.mpr ⟨numbered ▸ found, flying⟩, named⟩
  · rintro ⟨call, flying, rfl⟩
    rcases coherent.mem_inFlight_iff.mp flying with ⟨found, isFlying⟩
    exact List.mem_map.mpr ⟨(call.name, call.number),
      (coherent.held _ _).mpr (flight?_eq_some_iff.mpr ⟨call, found, isFlying, rfl⟩), rfl⟩

theorem pending_perm (coherent : Coherent exchange) :
    (exchange.pending.map (·.1)).Perm (exchange.inFlight.map (·.name)) := by
  have distinct : (exchange.inFlight.map (·.name)).Nodup := by
    refine List.Nodup.map_on ?_ (coherent.distinct.of_map.filter _)
    intro call flying other flyingToo sameName
    exact coherent.eq_of_name_eq flying flyingToo sameName
  rw [List.perm_ext_iff_of_nodup coherent.exclusive distinct]
  intro name
  rw [coherent.mem_pending_iff, List.mem_map]

theorem holder?_ne_none (coherent : Coherent exchange) {name : String}
    (taken : ∃ other ∈ exchange.inFlight, other.name = name) : exchange.holder? name ≠ none := by
  intro free
  exact holder?_eq_none_iff.mp free (coherent.mem_pending_iff.mpr taken)

/-! ## What the steps keep -/

/-- Numbers and names outlast every change of a call. -/
theorem calls_alter (coherent : Coherent exchange) {change : Call → Call} (number : Nat)
    (keeps : KeepsNumber change) (sameName : ∀ call, (change call).name = call.name) :
    (exchange.alter number change).calls.map (·.number) = List.range exchange.issued ∧
      ∀ call ∈ (exchange.alter number change).calls,
        (NameField.encode? call.name).isSome = true := by
  refine ⟨(map_number_alter keeps number).trans coherent.numbered, ?_⟩
  intro call membership
  rcases List.mem_map.mp membership with ⟨other, otherMembership, rfl⟩
  by_cases mine : other.number = number
  · simpa [mine, sameName] using coherent.named other otherMembership
  · simpa [mine] using coherent.named other otherMembership

theorem setSlot (coherent : Coherent exchange) (number : Nat) (value : ParamValue) :
    Coherent (exchange.setSlot number value) := by
  rcases coherent.calls_alter number (fun _ => rfl : KeepsNumber fun call =>
    { call with slot := call.slot <|> some value }) fun _ => rfl with ⟨numbered, named⟩
  refine ⟨numbered, named, coherent.exclusive, ?_⟩
  intro name other
  refine (coherent.held name other).trans ?_
  simp only [flight?, call?_setSlot]
  cases found : exchange.call? other with
  | none => simp
  | some call => by_cases mine : other = number <;> simp [mine, Call.isInFlight]

/-- A stage is followed by another, and the registered names follow the flight. -/
theorem setStage (coherent : Coherent exchange) {call : Call}
    (found : exchange.call? call.number = some call) {stage : Stage}
    {pending : List (String × Nat)} (exclusive : (pending.map (·.1)).Nodup)
    (held : ∀ name number, (name, number) ∈ pending ↔
      (if number = call.number then (if stage.isInFlight then some call.name else none)
        else exchange.flight? number) = some name) :
    Coherent ((exchange.setStage call.number stage).setPending pending) := by
  rcases coherent.calls_alter call.number (fun _ => rfl : KeepsNumber fun call =>
    { call with stage }) fun _ => rfl with ⟨numbered, named⟩
  refine ⟨numbered, named, exclusive, ?_⟩
  intro name number
  rw [flight?_setPending, flight?_setStage found]
  exact held name number

/-- A call goes on, in flight or out of it as before. -/
theorem advance (coherent : Coherent exchange) {call : Call}
    (found : exchange.call? call.number = some call) {stage : Stage}
    (sameFlight : stage.isInFlight = call.stage.isInFlight) :
    Coherent (exchange.setStage call.number stage) := by
  refine coherent.setStage found coherent.exclusive ?_
  intro name number
  rw [coherent.held]
  by_cases mine : number = call.number
  · subst number
    rw [if_pos rfl, sameFlight, flight?, found]
    cases flying : call.stage.isInFlight <;> simp [Call.isInFlight, flying]
  · rw [if_neg mine]

theorem register (coherent : Coherent exchange) {call : Call}
    (found : exchange.call? call.number = some call) (built : call.stage = .built)
    (free : exchange.holder? call.name = none) :
    Coherent ((exchange.setStage call.number .registered).setPending
      ((call.name, call.number) :: exchange.pending)) := by
  refine coherent.setStage found
    (List.nodup_cons.mpr ⟨holder?_eq_none_iff.mp free, coherent.exclusive⟩) ?_
  have grounded : exchange.flight? call.number = none := by
    simp [flight?, found, Call.isInFlight, built, Stage.isInFlight]
  intro name number
  rw [List.mem_cons, coherent.held]
  by_cases mine : number = call.number
  · subst number
    simp [grounded, Stage.isInFlight, eq_comm]
  · simp [mine]

theorem leave (coherent : Coherent exchange) {call : Call}
    (found : exchange.call? call.number = some call) {result : Except Fault ParamValue}
    (leaving : call.stage = .leaving result) :
    Coherent ((exchange.setStage call.number (.returned result)).setPending
      (exchange.pending.filter fun entry => entry.1 != call.name)) := by
  refine coherent.setStage found (coherent.exclusive.sublist (List.filter_sublist.map _)) ?_
  have flying : exchange.flight? call.number = some call.name := by
    simp [flight?, found, Call.isInFlight, leaving, Stage.isInFlight]
  intro name number
  rw [List.mem_filter, coherent.held]
  by_cases mine : number = call.number
  · subst number
    simp only [flying, Option.some.injEq, bne_iff_ne, if_pos, Stage.isInFlight,
      Bool.false_eq_true, if_false, reduceCtorEq, iff_false, not_and, not_not]
    exact Eq.symm
  · -- Nobody else is in flight under the name that is given up.
    have theirs : exchange.flight? number = some name → name ≠ call.name := by
      rintro flyingToo rfl
      rw [← coherent.holder?_eq_some_iff_flight?] at flying flyingToo
      rw [flying] at flyingToo
      exact mine (Option.some.inj flyingToo).symm
    simpa [mine] using theirs

theorem start (coherent : Coherent exchange) {name : String} (frame : Bytes)
    (builder : FrameBuilder) (valid : (NameField.encode? name).isSome = true) :
    Coherent (exchange.addCall builder name frame) where
  numbered := by simp [addCall, coherent.numbered, List.range_succ]
  named call membership := by
    rcases List.mem_append.mp membership with old | new
    · exact coherent.named call old
    · rw [List.mem_singleton.mp new]
      exact valid
  exclusive := coherent.exclusive
  held other number := by
    refine (coherent.held other number).trans ?_
    simp only [flight?, addCall, call?, List.find?_append]
    cases found : exchange.calls.find? fun call => call.number == number with
    | some call => simp
    | none => by_cases fresh : exchange.issued = number <;>
        simp [fresh, Option.filter, Call.isInFlight, Stage.isInFlight]

theorem step (coherent : Coherent exchange) (step : Step) : Coherent (exchange.step step) := by
  have effect : Effect exchange step (exchange.step step) := step_effect step
  generalize exchange.step step = next at effect
  cases effect with
  | idle unheard => exact coherent
  | reject refused => exact ⟨coherent.numbered, coherent.named, coherent.exclusive, coherent.held⟩
  | start accepted =>
      have valid := (ParamRequest.exists_frame_iff _ _ _).mp ⟨_, _, accepted⟩
      exact coherent.start _ _ valid
  | refuse call found built held =>
      exact coherent.advance found (by rw [built]; rfl)
  | register call found built free => exact coherent.register found built free
  | @sent call outcome found registered =>
      refine coherent.advance found ?_
      rw [registered]
      cases outcome <;> rfl
  | conclude call found waiting => exact coherent.advance found (by rw [waiting]; rfl)
  | leave call found leaving => exact coherent.leave found leaving
  | hear held => exact coherent.setSlot _ _

end Coherent

/-! ## Runs -/

theorem run_append (first second : List Step) :
    exchange.run (first ++ second) = (exchange.run first).run second := by
  simp only [run, List.foldl_append]

theorem run_concat (steps : List Step) (last : Step) :
    exchange.run (steps ++ [last]) = (exchange.run steps).step last := by
  rw [run_append]
  rfl

theorem Coherent.run (coherent : Coherent exchange) (steps : List Step) :
    Coherent (exchange.run steps) := by
  induction steps generalizing exchange with
  | nil => exact coherent
  | cons first steps inductionHypothesis => exact inductionHypothesis (coherent.step first)

theorem coherent_run (steps : List Step) : Coherent (empty.run steps) := coherent_empty.run steps

end Exchange

end MavBridge
