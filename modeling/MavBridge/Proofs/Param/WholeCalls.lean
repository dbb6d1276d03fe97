import MavBridge.Param.Rehearsal
import MavBridge.Proofs.Param.Coherence

/-!
# Calls that run from start to end

A whole call takes the steps of an exchange, one after the other, and so does everything that
happens while it sends and waits, other whole calls included.
-/

namespace MavBridge

/-- One exchange has come of another by steps. -/
def Exchange.Leads (first last : Exchange) : Prop := ∃ steps, last = first.run steps

namespace Exchange.Leads

theorem refl (exchange : Exchange) : exchange.Leads exchange := ⟨[], rfl⟩

theorem step (exchange : Exchange) (step : Step) : exchange.Leads (exchange.step step) :=
  ⟨[step], rfl⟩

theorem trans {first middle last : Exchange} (reached : first.Leads middle)
    (reachedLast : middle.Leads last) : first.Leads last := by
  rcases reached with ⟨steps, rfl⟩
  rcases reachedLast with ⟨later, rfl⟩
  exact ⟨steps ++ later, (Exchange.run_append steps later).symm⟩

end Exchange.Leads

open Exchange (Leads)

namespace Surroundings

variable {σ : Type} {around : Surroundings σ} {ready : σ → Prop} {s : σ}

/-- In states that are ready, surroundings hold one exchange; and they stay ready. -/
structure Keeps (around : Surroundings σ) (ready : σ → Prop) : Prop where
  held : ∀ exchange s, ready s → around.exchange (around.put exchange s) = exchange
  put : ∀ exchange s, ready s → ready (around.put exchange s)
  send : ∀ frame s, ready s → ready (around.send frame s).2
  wait : ∀ s, ready s → ready (around.wait s)

/-- In states that are ready, surroundings act on their exchange by its steps only. -/
structure Acts (around : Surroundings σ) (ready : σ → Prop) : Prop where
  keeps : around.Keeps ready
  send : ∀ frame s, ready s →
    Leads (around.exchange s) (around.exchange (around.send frame s).2)
  wait : ∀ s, ready s → Leads (around.exchange s) (around.exchange (around.wait s))

theorem Keeps.leads_put (keeps : around.Keeps ready) (isReady : ready s) (step : Exchange.Step) :
    Leads (around.exchange s)
      (around.exchange (around.put ((around.exchange s).step step) s)) := by
  rw [keeps.held _ _ isReady]
  exact .step (around.exchange s) step

theorem Keeps.exchange_modify (keeps : around.Keeps ready) (change : Exchange → Exchange)
    (isReady : ready s) :
    around.exchange (around.modify change s) = change (around.exchange s) :=
  keeps.held _ _ isReady

theorem Keeps.modify (keeps : around.Keeps ready) (change : Exchange → Exchange)
    (isReady : ready s) : ready (around.modify change s) := keeps.put _ _ isReady

theorem Keeps.await (keeps : around.Keeps ready) (number : Nat) (frame : Bytes)
    (isReady : ready s) : ready (around.await number frame s) := by
  have afterSend := keeps.send frame s isReady
  unfold Surroundings.await
  generalize around.send frame s = sent at afterSend
  obtain ⟨outcome, sent⟩ := sent
  have noted := keeps.modify (·.sent number outcome) afterSend
  cases outcome with
  | error fault => exact keeps.modify _ noted
  | ok done => exact keeps.modify _ (keeps.modify _ (keeps.wait _ noted))

/-- A whole call leaves its surroundings ready for the next. -/
theorem Keeps.perform (keeps : around.Keeps ready) (target : Identity) (request : ParamRequest)
    (isReady : ready s) : ready (around.perform target request s).2 := by
  unfold Surroundings.perform
  split
  next => exact keeps.put _ _ isReady
  next number exchange _ =>
    have registered := keeps.put (exchange.register number) s isReady
    dsimp only
    split
    next turn name frame slot found => exact keeps.await number frame registered
    next other => exact registered

theorem Acts.await (acts : around.Acts ready) (number : Nat) (frame : Bytes) (isReady : ready s) :
    Leads (around.exchange s) (around.exchange (around.await number frame s)) := by
  have sent := acts.send frame s isReady
  have afterSend := acts.keeps.send frame s isReady
  unfold Surroundings.await
  generalize around.send frame s = sending at sent afterSend
  obtain ⟨outcome, sending⟩ := sending
  have noted := acts.keeps.leads_put afterSend (.sent number outcome)
  have afterNote := acts.keeps.modify (·.sent number outcome) afterSend
  cases outcome with
  | error fault =>
      exact (sent.trans noted).trans (acts.keeps.leads_put afterNote (.leave number))
  | ok done =>
      have waited := acts.wait _ afterNote
      have afterWait := acts.keeps.wait _ afterNote
      have concluded := acts.keeps.leads_put afterWait (.conclude number)
      exact (((sent.trans noted).trans waited).trans concluded).trans
        (acts.keeps.leads_put (acts.keeps.modify _ afterWait) (.leave number))

/-- All that a call does after its frame is built is steps. -/
theorem Acts.perform_of_start (acts : around.Acts ready) {target : Identity}
    {request : ParamRequest} (isReady : ready s) {number : Nat} {exchange : Exchange}
    (started : (around.exchange s).start target request = (.ok number, exchange)) :
    Leads exchange (around.exchange (around.perform target request s).2) := by
  have registered : Leads exchange
      (around.exchange (around.put (exchange.register number) s)) := by
    rw [acts.keeps.held _ _ isReady]
    exact .step exchange (.register number)
  have stillReady := acts.keeps.put (exchange.register number) s isReady
  unfold Surroundings.perform
  rw [started]
  dsimp only
  split
  next turn name frame slot found => exact registered.trans (acts.await number frame stillReady)
  next other => exact registered

/-- A whole call is steps of the exchange. -/
theorem Acts.perform (acts : around.Acts ready) (target : Identity) (request : ParamRequest)
    (isReady : ready s) :
    Leads (around.exchange s) (around.exchange (around.perform target request s).2) := by
  have begun := Leads.step (around.exchange s) (.start target request)
  rw [Exchange.step] at begun
  cases started : (around.exchange s).start target request with
  | mk outcome exchange =>
      rw [started] at begun
      cases outcome with
      | error fault =>
          unfold Surroundings.perform
          rw [started]
          dsimp only
          rw [acts.keeps.held _ _ isReady]
          exact begun
      | ok number => exact begun.trans (acts.perform_of_start isReady started)

/-- The answer of a whole call is the result of a call that it has started. -/
theorem result?_of_perform {target : Identity} {request : ParamRequest}
    {value : ParamValue} (answered : (around.perform target request s).1 = .ok value) :
    ∃ number exchange, (around.exchange s).start target request = (.ok number, exchange) ∧
      (around.exchange (around.perform target request s).2).result? number = some (.ok value) := by
  unfold Surroundings.perform at answered ⊢
  cases started : (around.exchange s).start target request with
  | mk outcome exchange =>
      rw [started] at answered
      cases outcome with
      | error fault => cases answered
      | ok number =>
          refine ⟨number, exchange, rfl, ?_⟩
          rcases Option.getD_eq_iff.mp answered with given | ⟨-, timedOut⟩
          · exact given
          · cases timedOut

/-- A call that comes for a taken name returns at once: it neither sends nor waits, and leaves the
other calls, and what is registered, as they are. -/
theorem perform_of_taken (keeps : around.Keeps ready) (isReady : ready s)
    (coherent : (around.exchange s).Coherent) (target : Identity) {request : ParamRequest}
    (taken : (around.exchange s).holder? request.name ≠ none) :
    ∃ refused, around.perform target request s =
        (.error (.paramBusy request.name), around.put refused s) ∧
      refused.pending = (around.exchange s).pending ∧
      ∀ number call, (around.exchange s).call? number = some call →
        refused.call? number = some call := by
  rcases (request.exists_frame_iff (around.exchange s).builder target).mpr
    (coherent.encode?_of_holder? taken) with ⟨frame, builder, accepted⟩
  generalize begun : (around.exchange s).addCall builder request.name frame = exchange
  have started : (around.exchange s).start target request =
      (.ok (around.exchange s).issued, exchange) := begun ▸ Exchange.start_of_frame accepted
  have found : exchange.call? (around.exchange s).issued =
      some { number := (around.exchange s).issued, name := request.name, frame } :=
    begun ▸ coherent.call?_addCall_issued builder request.name frame
  have stillTaken : exchange.holder? request.name ≠ none := begun ▸ taken
  have refused := Exchange.register_of_held found rfl stillTaken
  have returned := Exchange.call?_setStage_of_found found (around.exchange s).issued
    (.returned (.error (.paramBusy request.name)))
  rw [if_pos rfl] at returned
  have answered := Exchange.result?_eq_some_iff.mpr ⟨_, returned, rfl⟩
  refine ⟨exchange.register (around.exchange s).issued, ?_, ?_, ?_⟩
  · simp only [perform, started, refused, returned]
    rw [keeps.held _ _ isReady, answered]
    rfl
  · rw [refused, ← begun]
    rfl
  · intro number call ours
    have theirs : number ≠ (around.exchange s).issued := by
      rintro rfl
      rw [coherent.call?_issued] at ours
      cases ours
    rw [refused, Exchange.call?_setStage_of_ne theirs, ← begun]
    exact Exchange.call?_addCall ours builder request.name frame

end Surroundings

namespace Rehearsal

variable {nested : String → Rehearsal → Except Fault ParamValue × Rehearsal}

theorem act_leads
    (nests : ∀ name rehearsal, Leads rehearsal.exchange (nested name rehearsal).2.exchange)
    (name : String) (set : Option Binary32) (actions : List VehicleAction)
    (rehearsal : Rehearsal) :
    Leads rehearsal.exchange (act nested name set actions rehearsal).2.exchange := by
  induction actions generalizing rehearsal with
  | nil => exact .refl _
  | cons action actions inductionHypothesis =>
      cases action with
      | echo other value type count index =>
          exact (Leads.step rehearsal.exchange (.resolve _)).trans (inductionHypothesis _)
      | nestedRead other => exact (nests other rehearsal).trans (inductionHypothesis _)
      | countPending => exact inductionHypothesis _
      | fail fault => exact .refl _

theorem acts_of_leads {send : Bytes → Rehearsal → Except Fault Unit × Rehearsal}
    (leads : ∀ frame rehearsal, Leads rehearsal.exchange (send frame rehearsal).2.exchange) :
    Surroundings.Acts
      { exchange := (·.exchange), put := fun exchange rehearsal => { rehearsal with exchange },
        send, wait := id } fun _ => True where
  keeps := ⟨fun _ _ _ => rfl, fun _ _ _ => trivial, fun _ _ _ => trivial, fun _ _ => trivial⟩
  send frame rehearsal _ := leads frame rehearsal
  wait _ _ := .refl _

/-- Whatever the vehicle does about a frame, nested requests included, is steps. -/
theorem send_leads (depth : Nat) (frame : Bytes) (rehearsal : Rehearsal) :
    Leads rehearsal.exchange (send depth frame rehearsal).2.exchange := by
  induction depth generalizing frame rehearsal with
  | zero => exact .refl _
  | succ depth inductionHypothesis =>
      refine act_leads ?_ _ _ _ (rehearsal.note (.frame frame))
      intro name inside
      exact (acts_of_leads inductionHypothesis).perform inside.target (.read name) trivial

theorem surroundings_acts (rehearsal : Rehearsal) :
    rehearsal.surroundings.Acts fun _ => True :=
  acts_of_leads (send_leads rehearsal.depth)

end Rehearsal

end MavBridge
