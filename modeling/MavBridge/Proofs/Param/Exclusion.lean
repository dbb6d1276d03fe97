import MavBridge.Proofs.Param.WholeCalls
import Mathlib.Data.List.Induction

/-!
# One call for each name

Calls and echoes take their steps in any order, also while another call is sending.  In every state
that they lead to, the registered names are those of the calls in flight.  A call that comes for a
taken name is refused: it sends nothing, and leaves what is registered as it is.
-/

namespace MavBridge

namespace Exchange

variable {exchange : Exchange}

/-- The call whose frame a step sends. -/
def sender? (exchange : Exchange) : Step → Option Nat
  | .sent number _ =>
      match exchange.call? number with
      | some { stage := .registered, .. } => some number
      | _ => none
  | _ => none

/-- The calls whose frames some steps send, in order. -/
def senders (exchange : Exchange) : List Step → List Nat
  | [] => []
  | first :: steps => (exchange.sender? first).toList ++ (exchange.step first).senders steps

/-! ## Calls that are refused -/

theorem sender?_eq_some_iff {step : Step} {number : Nat} :
    exchange.sender? step = some number ↔
      ∃ outcome call, step = .sent number outcome ∧ exchange.call? number = some call ∧
        call.stage = .registered := by
  constructor
  · intro sends
    cases step with
    | sent turn outcome =>
        simp only [sender?] at sends
        split at sends
        next numbered name frame slot found =>
          cases sends
          exact ⟨outcome, _, rfl, found, rfl⟩
        next other => cases sends
    | _ => cases sends
  · rintro ⟨outcome, call, rfl, found, registered⟩
    cases call
    simp only at registered
    subst registered
    simp only [sender?, found]

theorem senders_append (first second : List Step) :
    exchange.senders (first ++ second) =
      exchange.senders first ++ (exchange.run first).senders second := by
  induction first generalizing exchange with
  | nil => rfl
  | cons step first inductionHypothesis =>
      rw [List.cons_append, senders, inductionHypothesis, senders, List.append_assoc]
      rfl

/-- A call that has its result keeps it, and sends no more. -/
theorem returned_run {number : Nat} {result : Except Fault ParamValue}
    (returned : exchange.result? number = some result) (steps : List Step) :
    (exchange.run steps).result? number = some result ∧ number ∉ exchange.senders steps := by
  induction steps generalizing exchange with
  | nil => exact ⟨returned, List.not_mem_nil⟩
  | cons step steps inductionHypothesis =>
      rcases result?_eq_some_iff.mp returned with ⟨call, found, stage⟩
      rcases step_move found step with ⟨after, afterFound, move⟩
      have returnedAfter : (exchange.step step).result? number = some result :=
        result?_eq_some_iff.mpr ⟨after, afterFound, move.stage_eq_of_returned stage⟩
      rcases inductionHypothesis returnedAfter with ⟨kept, silent⟩
      refine ⟨kept, ?_⟩
      rw [senders, List.mem_append, Option.mem_toList]
      rintro (now | later)
      · rcases sender?_eq_some_iff.mp now with ⟨outcome, sender, -, senderFound, registered⟩
        rw [found] at senderFound
        cases senderFound
        simp [stage] at registered
      · exact silent later

/-- A call that has sent its frame is past its beginning. -/
theorem ne_built_of_mem_senders {steps : List Step} {number : Nat}
    (sends : number ∈ empty.senders steps) :
    ∃ call, (empty.run steps).call? number = some call ∧ call.stage ≠ .built := by
  induction steps using List.reverseRecOn with
  | nil => simp [senders] at sends
  | append_singleton steps last inductionHypothesis =>
      rw [senders_append, List.mem_append] at sends
      rw [run_concat]
      have begun : ∃ call, (empty.run steps).call? number = some call ∧ call.stage ≠ .built := by
        rcases sends with earlier | now
        · exact inductionHypothesis earlier
        · have sender : (empty.run steps).sender? last = some number := by
            simpa [senders] using now
          rcases sender?_eq_some_iff.mp sender with ⟨outcome, call, -, found, registered⟩
          exact ⟨call, found, by simp [registered]⟩
      rcases begun with ⟨call, found, stage⟩
      rcases step_move found last with ⟨after, afterFound, move⟩
      exact ⟨after, afterFound, move.stage_ne_built stage⟩

/-- A call that comes, after some steps, for a taken name. -/
structure Refuses (steps : List Step) (call : Call) : Prop where
  /-- What is registered stays, and for the same calls. -/
  pending : ((empty.run steps).register call.number).pending = (empty.run steps).pending
  /-- The other calls notice nothing. -/
  others : ∀ number, number ≠ call.number →
    ((empty.run steps).register call.number).call? number = (empty.run steps).call? number
  result : ∀ later, (empty.run (steps ++ .register call.number :: later)).result? call.number =
    some (.error (.paramBusy call.name))
  silent : ∀ later, call.number ∉ empty.senders (steps ++ .register call.number :: later)

theorem refuses_of_taken {steps : List Step} {call : Call}
    (membership : call ∈ (empty.run steps).calls) (built : call.stage = .built)
    (taken : ∃ other ∈ (empty.run steps).inFlight, other.name = call.name) :
    Refuses steps call := by
  have coherent := coherent_run steps
  have found : (empty.run steps).call? call.number = some call :=
    coherent.call?_eq_some_iff.mpr ⟨membership, rfl⟩
  have refused := register_of_held found built (coherent.holder?_ne_none taken)
  have returned : ((empty.run steps).step (.register call.number)).result? call.number =
      some (.error (.paramBusy call.name)) := by
    refine result?_eq_some_iff.mpr ⟨{ call with stage := .returned _ }, ?_, rfl⟩
    rw [show (empty.run steps).step (.register call.number) = _ from refused,
      call?_setStage_of_found found, if_pos rfl]
  refine ⟨?_, ?_, ?_, ?_⟩
  · rw [refused]
    rfl
  · intro number theirs
    rw [refused, call?_setStage_of_ne theirs]
  · intro later
    rw [run_append]
    exact (returned_run returned later).1
  · intro later
    rw [senders_append, List.mem_append]
    rintro (earlier | now)
    · rcases ne_built_of_mem_senders earlier with ⟨sender, senderFound, begun⟩
      rw [found] at senderFound
      cases senderFound
      exact begun built
    · have quiet : (empty.run steps).sender? (.register call.number) = none := rfl
      rw [senders, quiet] at now
      exact (returned_run returned later).2 now

/-- Whatever steps calls and echoes have taken, in whatever order: the registered names are those of
the calls in flight, and no two of these share one; a call that comes for a taken name is refused,
whether it has its frame already or runs from start to end, when it neither sends nor waits; nothing
is registered when no call is in flight; and whole calls, with all that happens while they send and
wait, lead to states of which all this holds again. -/
theorem names_exclusive (steps : List Step) :
    let exchange := empty.run steps
    (exchange.pending.map (·.1)).Perm (exchange.inFlight.map (·.name)) ∧
      (∀ call ∈ exchange.inFlight, ∀ other ∈ exchange.inFlight, call.name = other.name →
        call = other) ∧
      (∀ call ∈ exchange.calls, call.stage = .built →
        (∃ other ∈ exchange.inFlight, other.name = call.name) → Refuses steps call) ∧
      (∀ (σ : Type) (around : Surroundings σ) (ready : σ → Prop) (s : σ) (target : Identity)
        (request : ParamRequest), around.Keeps ready → ready s → around.exchange s = exchange →
        (∃ other ∈ exchange.inFlight, other.name = request.name) →
        ∃ refused, around.perform target request s =
            (.error (.paramBusy request.name), around.put refused s) ∧
          refused.pending = exchange.pending ∧
          ∀ number call, exchange.call? number = some call →
            refused.call? number = some call) ∧
      (exchange.inFlight = [] → exchange.pendingCount = 0) ∧
      (∀ (σ : Type) (around : Surroundings σ) (ready : σ → Prop) (s : σ) (target : Identity)
        (request : ParamRequest), around.Acts ready → ready s → around.exchange s = exchange →
        ∃ later, around.exchange (around.perform target request s).2 =
          empty.run (steps ++ later)) := by
  intro exchange
  have coherent : Coherent exchange := coherent_run steps
  refine ⟨coherent.pending_perm, ?_, ?_, ?_, ?_, ?_⟩
  · intro call flying other flyingToo sameName
    exact coherent.eq_of_name_eq flying flyingToo sameName
  · intro call membership built taken
    exact refuses_of_taken membership built taken
  · intro σ around ready s target request keeps isReady same taken
    have held := coherent.holder?_ne_none taken
    rw [← same] at coherent held ⊢
    exact Surroundings.perform_of_taken keeps isReady coherent target held
  · intro none
    have emptied := coherent.pending_perm.length_eq
    rw [none] at emptied
    simpa [pendingCount] using emptied
  · intro σ around ready s target request acts isReady same
    rcases acts.perform target request isReady with ⟨later, reached⟩
    exact ⟨later, by rw [reached, same, run_append]⟩

end Exchange

end MavBridge
