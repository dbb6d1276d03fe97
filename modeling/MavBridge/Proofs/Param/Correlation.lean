import MavBridge.Proofs.Param.WholeCalls
import Mathlib.Data.List.Induction

/-!
# Which echo answers a call

An echo goes to the call that holds its name, and the first one stays.  `Window` is a time in which
one call holds its name, and `Followed` what each step keeps of a call: its slot has the first
report under its name in its window, and its answer is what its slot had.
-/

namespace MavBridge

namespace Exchange

variable {exchange : Exchange}

/-- The report that a step brings. -/
def Step.report? : Step → Option ParamReport
  | .resolve report => some report
  | _ => none

/-- The first report under a name that some steps bring. -/
def firstReport? (name : String) (steps : List Step) : Option ParamReport :=
  (steps.filterMap Step.report?).find? fun report => report.name == name

/-- After the steps `before`, a call registers, and it holds its name throughout the steps `window`
after that. -/
structure Window (number : Nat) (name : String) (before window : List Step) : Prop where
  built : ∃ call, (empty.run before).call? number = some call ∧ call.name = name ∧
    call.stage = .built
  held : ∀ early, early <+: window →
    (empty.run (before ++ .register number :: early)).holder? name = some number

/-- A call has been answered with the first report under its name in its window, which ended when it
left. -/
def Answered (steps : List Step) (number : Nat) (name : String) (value : ParamValue) : Prop :=
  ∃ before window after report,
    steps = before ++ .register number :: (window ++ .leave number :: after) ∧
      Window number name before window ∧
      (empty.run (before ++ .register number :: (window ++ [.leave number]))).holder? name = none ∧
      firstReport? name window = some report ∧
      value = .ofReport report

/-! ## Reports and windows -/

theorem firstReport?_concat (name : String) (steps : List Step) (last : Step) :
    firstReport? name (steps ++ [last]) =
      (firstReport? name steps).or (last.report?.filter fun report => report.name == name) := by
  unfold firstReport?
  rw [List.filterMap_append, List.find?_append]
  cases brought : last.report? with
  | none => simp [brought]
  | some report =>
      by_cases named : report.name = name
      · simp [brought, named, Option.filter]
      · simp [brought, named, Option.filter]

theorem Window.extend {number : Nat} {name : String} {before window : List Step} {last : Step}
    (opened : Window number name before window)
    (held : (empty.run (before ++ .register number :: (window ++ [last]))).holder? name =
      some number) : Window number name before (window ++ [last]) := by
  refine ⟨opened.built, ?_⟩
  intro early isPrefix
  rcases List.prefix_concat_iff.mp isPrefix with whole | earlier
  · rw [whole]
    exact held
  · exact opened.held early earlier

theorem Answered.extend {steps : List Step} {number : Nat} {name : String} {value : ParamValue}
    (answered : Answered steps number name value) (last : Step) :
    Answered (steps ++ [last]) number name value := by
  rcases answered with ⟨before, window, after, report, rfl, opened, closed, first, valued⟩
  exact ⟨before, window, after ++ [last], report, by simp, opened, closed, first, valued⟩

/-! ## One step -/

/-- What a call has come to by some steps. -/
structure Followed (steps : List Step) (call : Call) : Prop where
  fresh : call.stage = .built → call.slot = none
  flying : call.isInFlight = true → ∃ before window,
    steps = before ++ .register call.number :: window ∧
      Window call.number call.name before window ∧
      call.slot = (firstReport? call.name window).map .ofReport
  settled : ∀ value, call.stage = .leaving (.ok value) → call.slot = some value
  answered : ∀ value, call.stage = .returned (.ok value) →
    Answered steps call.number call.name value

/-- While a call stays in flight, its window stays open. -/
theorem Followed.flying_concat {steps : List Step} {call after : Call} {last : Step}
    (followed : Followed steps call) (flying : call.isInFlight = true)
    (found : (empty.run (steps ++ [last])).call? call.number = some after)
    (sameName : after.name = call.name) (flyingAfter : after.isInFlight = true)
    (slot : after.slot = call.slot.or
      ((last.report?.filter fun report => report.name == call.name).map .ofReport)) :
    ∃ before window, steps ++ [last] = before ++ .register call.number :: window ∧
      Window call.number call.name before window ∧
      after.slot = (firstReport? call.name window).map .ofReport := by
  rcases followed.flying flying with ⟨before, window, rfl, opened, heard⟩
  have reached : before ++ .register call.number :: window ++ [last] =
      before ++ .register call.number :: (window ++ [last]) := by simp
  refine ⟨before, window ++ [last], reached, opened.extend ?_, ?_⟩
  · rw [← reached, ← sameName]
    exact (coherent_run _).holder?_of_isInFlight found flyingAfter
  · rw [slot, heard, firstReport?_concat, Option.map_or]

theorem holder?_leave {number : Nat} {call : Call} {result : Except Fault ParamValue}
    (found : exchange.call? number = some call) (leaving : call.stage = .leaving result) :
    (exchange.leave number).holder? call.name = none := by
  rw [holder?_eq_none_iff]
  unfold leave
  split
  next turn name frame outcome slot turnFound =>
    rw [found] at turnFound
    cases turnFound
    simp
  next other =>
    cases call
    simp only at leaving
    subst leaving
    exact absurd found (other _ _ _ _ _)

section Moves

variable {steps : List Step} {call : Call} {last : Step} (followed : Followed steps call)
  (found : (empty.run steps).call? call.number = some call)

include followed found

theorem Followed.stay
    (foundAfter : (empty.run (steps ++ [last])).call? call.number = some call)
    (unheard : ∀ report, last = .resolve report →
      (empty.run steps).holder? report.name ≠ some call.number) :
    Followed (steps ++ [last]) call := by
  refine ⟨followed.fresh, ?_, followed.settled, ?_⟩
  · intro flying
    refine followed.flying_concat flying foundAfter rfl flying ?_
    cases last with
    | resolve report =>
        -- A report under the name of this call would have come to it.
        have others : report.name ≠ call.name := by
          intro ours
          have held := (coherent_run steps).holder?_of_isInFlight found flying
          exact unheard report rfl (ours ▸ held)
        simp [Step.report?, Option.filter, others]
    | _ => simp [Step.report?]
  · intro value returned
    exact (followed.answered value returned).extend last

theorem Followed.register (built : call.stage = .built)
    (foundAfter : (empty.run (steps ++ [.register call.number])).call? call.number =
      some { call with stage := .registered }) :
    Followed (steps ++ [.register call.number]) { call with stage := .registered } := by
  refine ⟨by simp, ?_, by simp, by simp⟩
  intro flying
  refine ⟨steps, [], rfl, ⟨⟨call, found, rfl, built⟩, ?_⟩, followed.fresh built⟩
  intro early isPrefix
  rw [List.prefix_nil.mp isPrefix]
  exact (coherent_run _).holder?_of_isInFlight foundAfter flying

/-- What the call answers with is what its slot had, and its window ends here. -/
theorem Followed.leave {result : Except Fault ParamValue} (leaving : call.stage = .leaving result) :
    Followed (steps ++ [.leave call.number]) { call with stage := .returned result } := by
  refine ⟨by simp, ?_, by simp, ?_⟩
  · intro flyingAfter
    cases flyingAfter
  · intro value returned
    simp only [Stage.returned.injEq] at returned
    subst returned
    rcases followed.flying (Call.isInFlight_of_stage leaving rfl) with
      ⟨before, window, rfl, opened, heard⟩
    rw [followed.settled value leaving] at heard
    rcases Option.map_eq_some_iff.mp heard.symm with ⟨report, first, valued⟩
    refine ⟨before, window, [], report, by simp, opened, ?_, first, valued.symm⟩
    have closed := holder?_leave found leaving
    rw [← List.cons_append, ← List.append_assoc, run_concat]
    exact closed

/-- A report that comes for the call stays in its slot if it is the first one. -/
theorem Followed.hear {report : ParamReport}
    (held : (empty.run steps).holder? report.name = some call.number)
    (foundAfter : (empty.run (steps ++ [.resolve report])).call? call.number =
      some { call with slot := call.slot <|> some (.ofReport report) }) :
    Followed (steps ++ [.resolve report])
      { call with slot := call.slot <|> some (.ofReport report) } := by
  rcases (coherent_run steps).isInFlight_of_holder? found held with ⟨flying, named⟩
  refine ⟨?_, ?_, ?_, ?_⟩
  · intro built
    simp [Call.isInFlight, show call.stage = .built from built, Stage.isInFlight] at flying
  · intro flyingAfter
    refine followed.flying_concat flying foundAfter rfl flyingAfter ?_
    simp [Step.report?, Option.filter, named]
  · intro value leaving
    have settled := followed.settled value leaving
    simp [settled]
  · intro value returned
    simp [Call.isInFlight, show call.stage = .returned _ from returned, Stage.isInFlight]
      at flying

end Moves

theorem Followed.move {steps : List Step} {call after : Call} {last : Step}
    (followed : Followed steps call) (found : (empty.run steps).call? call.number = some call)
    (foundAfter : (empty.run (steps ++ [last])).call? call.number = some after)
    (move : Move (empty.run steps) last call after) : Followed (steps ++ [last]) after := by
  cases move with
  | stay unheard => exact followed.stay found foundAfter unheard
  | refuse built held =>
      refine ⟨by simp, ?_, by simp, by simp⟩
      intro flying
      cases flying
  | register built free => exact followed.register found built foundAfter
  | @sent call outcome registered =>
      have flying : call.isInFlight = true := Call.isInFlight_of_stage registered rfl
      refine ⟨?_, ?_, ?_, ?_⟩
      · cases outcome <;> simp [stageAfterSending]
      · intro flyingAfter
        exact followed.flying_concat flying foundAfter rfl flyingAfter (by simp [Step.report?])
      · cases outcome <;> simp [stageAfterSending]
      · cases outcome <;> simp [stageAfterSending]
  | conclude waiting =>
      have flying : call.isInFlight = true := Call.isInFlight_of_stage waiting rfl
      refine ⟨by simp, ?_, ?_, by simp⟩
      · intro flyingAfter
        exact followed.flying_concat flying foundAfter rfl flyingAfter (by simp [Step.report?])
      · intro value concluded
        simp only [Stage.leaving.injEq, conclusion] at concluded
        cases answer : call.slot with
        | none => simp [answer] at concluded
        | some first => simpa [answer] using concluded
  | leave leaving => exact followed.leave found leaving
  | hear held => exact followed.hear found held foundAfter

theorem followed_of_fresh {steps : List Step} {call : Call} (built : call.stage = .built)
    (unheard : call.slot = none) : Followed steps call := by
  refine ⟨fun _ => unheard, ?_, ?_, ?_⟩
  · intro flying
    simp [Call.isInFlight, built, Stage.isInFlight] at flying
  · intro value leaving
    simp [built] at leaving
  · intro value returned
    simp [built] at returned

theorem followed_run (steps : List Step) {number : Nat} {call : Call}
    (found : (empty.run steps).call? number = some call) : Followed steps call := by
  -- On the end of the run: a call is there before the last step, or the step has brought it.
  induction steps using List.reverseRecOn generalizing call with
  | nil => simp [run, empty, call?] at found
  | append_singleton steps last inductionHypothesis =>
      cases foundBefore : (empty.run steps).call? number with
      | none =>
          rw [run_concat] at found
          rcases fresh_of_step foundBefore found with ⟨built, unheard⟩
          exact followed_of_fresh built unheard
      | some earlier =>
          obtain rfl := number_of_call? foundBefore
          rcases step_move foundBefore last with ⟨after, foundAfter, move⟩
          rw [← run_concat, found] at foundAfter
          cases foundAfter
          exact (inductionHypothesis foundBefore).move foundBefore found move

/-! ## Answers -/

theorem Coherent.resolve_eq_true_iff (coherent : Coherent exchange) (report : ParamReport) :
    (exchange.resolve report).1 = true ↔
      ∃ call ∈ exchange.inFlight, call.name = report.name := by
  rw [← coherent.mem_pending_iff, ← not_iff_not, ← holder?_eq_none_iff]
  unfold resolve
  cases held : exchange.holder? report.name <;> simp

/-- A report goes by a call that does not hold its name, or that has heard another before. -/
theorem Coherent.call?_resolve (coherent : Coherent exchange) (report : ParamReport) {call : Call}
    (membership : call ∈ exchange.calls)
    (passes : call.isInFlight = false ∨ call.name ≠ report.name ∨ call.slot ≠ none) :
    (exchange.resolve report).2.call? call.number = some call := by
  have found : exchange.call? call.number = some call :=
    coherent.call?_eq_some_iff.mpr ⟨membership, rfl⟩
  rcases step_move found (.resolve report) with ⟨after, foundAfter, move⟩
  refine foundAfter.trans (congrArg some ?_)
  cases move with
  | stay unheard => rfl
  | hear held =>
      rcases coherent.isInFlight_of_holder? found held with ⟨flying, named⟩
      have heard : call.slot ≠ none := by
        rcases passes with grounded | others | heard
        · rw [flying] at grounded
          cases grounded
        · exact absurd named others
        · exact heard
      rcases Option.ne_none_iff_exists'.mp heard with ⟨first, slot⟩
      cases call
      simp only at slot
      simp [slot]

theorem Coherent.call?_of_start (coherent : Coherent exchange) {target : Identity}
    {request : ParamRequest} {number : Nat} {after : Exchange}
    (started : exchange.start target request = (.ok number, after)) :
    number = exchange.issued ∧
      ∃ call, after.call? number = some call ∧ call.name = request.name := by
  unfold Exchange.start at started
  split at started
  next fault builder refused => cases started
  next frame builder accepted =>
    cases started
    exact ⟨rfl, _, coherent.call?_addCall_issued builder request.name frame, rfl⟩

theorem name_run {number : Nat} {call : Call} (found : exchange.call? number = some call)
    (steps : List Step) :
    ∃ after, (exchange.run steps).call? number = some after ∧ after.name = call.name := by
  induction steps generalizing exchange call with
  | nil => exact ⟨call, found, rfl⟩
  | cons first steps inductionHypothesis =>
      rcases step_move found first with ⟨moved, foundMoved, move⟩
      rcases inductionHypothesis foundMoved with ⟨after, foundAfter, named⟩
      exact ⟨after, foundAfter, named.trans move.name_eq⟩

theorem answered_of_result? {steps : List Step} {number : Nat} {value : ParamValue}
    (given : (empty.run steps).result? number = some (.ok value)) :
    ∃ call, (empty.run steps).call? number = some call ∧
      Answered steps number call.name value := by
  rcases result?_eq_some_iff.mp given with ⟨call, found, returned⟩
  have answered := (followed_run steps found).answered value returned
  rw [number_of_call? found] at answered
  exact ⟨call, found, answered⟩

/-- A whole call that is answered is the next one that starts. -/
theorem answered_of_perform {steps : List Step} {σ : Type} {around : Surroundings σ}
    {ready : σ → Prop} (acts : around.Acts ready) {s : σ} (isReady : ready s)
    (same : around.exchange s = empty.run steps)
    {target : Identity} {request : ParamRequest} {value : ParamValue}
    (given : (around.perform target request s).1 = .ok value) :
    ∃ later, around.exchange (around.perform target request s).2 = empty.run (steps ++ later) ∧
      Answered (steps ++ later) (empty.run steps).issued request.name value := by
  rcases Surroundings.result?_of_perform given with ⟨number, exchange, started, result⟩
  rcases acts.perform_of_start isReady started with ⟨rest, reached⟩
  have later : around.exchange (around.perform target request s).2 =
      empty.run (steps ++ .start target request :: rest) := by
    have begun : (empty.run steps).step (.start target request) = exchange := by
      rw [← same, step, started]
    rw [reached, run_append, ← begun]
    rfl
  refine ⟨.start target request :: rest, later, ?_⟩
  rw [later] at result
  rcases answered_of_result? result with ⟨call, found, answered⟩
  rcases (coherent_run steps).call?_of_start (same ▸ started) with ⟨rfl, fresh, begun, named⟩
  rcases name_run begun rest with ⟨after, foundAfter, sameName⟩
  rw [← later, reached, foundAfter] at found
  cases found
  rw [sameName, named] at answered
  exact answered

/-- What comes of setting a parameter is read off the answer of the whole call. -/
theorem answered_of_write {steps : List Step} {σ : Type} {around : Surroundings σ}
    {ready : σ → Prop} (acts : around.Acts ready) {s : σ} (isReady : ready s)
    (same : around.exchange s = empty.run steps)
    {target : Identity} {name : String} {value : Binary64} {type : ParamType}
    {result : WriteResult} (given : (around.write target name value type s).1 = .ok result) :
    ∃ later echo, around.exchange (around.write target name value type s).2 =
        empty.run (steps ++ later) ∧
      Answered (steps ++ later) (empty.run steps).issued name echo ∧
      result = .ofEcho value type echo := by
  have mapped : (around.write target name value type s).1 =
      (around.perform target (.write name value type) s).1.map (.ofEcho value type) := rfl
  rw [mapped] at given
  cases answer : (around.perform target (.write name value type) s).1 with
  | error fault =>
      rw [answer] at given
      cases given
  | ok echo =>
      rw [answer] at given
      cases given
      rcases answered_of_perform acts isReady same answer with ⟨later, reached, answered⟩
      exact ⟨later, echo, reached, answered, rfl⟩

/-- Whatever steps calls and echoes have taken, in whatever order: a call that has returned an
answer has returned the first report that came under its name in its window; a report is taken
exactly if a call holds its name, and it changes no call but that one, and that one only if no
report has come for it before; and calls that run from start to end, be it to read or to write,
answer by the same rule, with windows after their start. -/
theorem answers_correlated (steps : List Step) :
    let exchange := empty.run steps
    (∀ number value, exchange.result? number = some (.ok value) →
      ∃ call, exchange.call? number = some call ∧ Answered steps number call.name value) ∧
      (∀ report, (exchange.resolve report).1 = true ↔
        ∃ call ∈ exchange.inFlight, call.name = report.name) ∧
      (∀ report, ∀ call ∈ exchange.calls,
        call.isInFlight = false ∨ call.name ≠ report.name ∨ call.slot ≠ none →
        (exchange.resolve report).2.call? call.number = some call) ∧
      (∀ (σ : Type) (around : Surroundings σ) (ready : σ → Prop) (s : σ) (target : Identity)
        (request : ParamRequest) (value : ParamValue), around.Acts ready → ready s →
        around.exchange s = exchange → (around.perform target request s).1 = .ok value →
        ∃ later, around.exchange (around.perform target request s).2 =
            empty.run (steps ++ later) ∧
          Answered (steps ++ later) exchange.issued request.name value) ∧
      (∀ (σ : Type) (around : Surroundings σ) (ready : σ → Prop) (s : σ) (target : Identity)
        (name : String) (value : Binary64) (type : ParamType) (result : WriteResult),
        around.Acts ready → ready s → around.exchange s = exchange →
        (around.write target name value type s).1 = .ok result →
        ∃ later echo, around.exchange (around.write target name value type s).2 =
            empty.run (steps ++ later) ∧
          Answered (steps ++ later) exchange.issued name echo ∧
          result = .ofEcho value type echo) := by
  intro exchange
  have coherent : Coherent exchange := coherent_run steps
  refine ⟨?_, coherent.resolve_eq_true_iff, ?_, ?_, ?_⟩
  · intro number value given
    exact answered_of_result? given
  · intro report call membership passes
    exact coherent.call?_resolve report membership passes
  · intro σ around ready s target request value acts isReady same given
    exact answered_of_perform acts isReady same given
  · intro σ around ready s target name value type result acts isReady same given
    exact answered_of_write acts isReady same given

end Exchange

end MavBridge
