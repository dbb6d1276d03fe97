import MavBridge.Proofs.Param.Batches
import MavBridge.Proofs.Param.Interludes

/-!
# A batch is its calls in turn

A batch makes its calls one after the other, each in the world that the one before it has left,
whatever came of that one.  So it sends what they send and leaves what they leave, and its report
tallies what came of them.
-/

namespace MavBridge

namespace BatchReport

section Turns

variable {σ ε α : Type} (single : ε → σ → α × σ)

/-- What comes of single calls, each in the world that the one before it has left. -/
def inTurn : List ε → σ → List α × σ
  | [], s => ([], s)
  | entry :: rest, s =>
      ((single entry s).1 :: (inTurn rest (single entry s).2).1,
        (inTurn rest (single entry s).2).2)

/-- Every entry is attempted, whatever came of those before it. -/
theorem getElem?_inTurn {entries : List ε} {place : Nat} {entry : ε}
    (found : entries[place]? = some entry) (s : σ) :
    (inTurn single entries s).1[place]? =
      some (single entry (inTurn single (entries.take place) s).2).1 := by
  induction entries generalizing place s with
  | nil => cases found
  | cons first rest inductionHypothesis =>
      cases place with
      | zero =>
          cases found
          rfl
      | succ place => exact inductionHypothesis found (single first s).2

theorem length_inTurn (entries : List ε) (s : σ) :
    (inTurn single entries s).1.length = entries.length := by
  induction entries generalizing s with
  | nil => rfl
  | cons entry rest inductionHypothesis => exact congrArg Nat.succ (inductionHypothesis _)

end Turns

section Tallying

variable {σ ε α : Type} {single : ε → σ → Except Fault α × σ} {name : ε → String}

/-- A batch that comes to the same as single calls in turn. -/
structure Tallied (single : ε → σ → Except Fault α × σ) (name : ε → String) (entries : List ε)
    (s : σ) (batch : BatchReport α × σ) : Prop where
  /-- The world is as the single calls leave it. -/
  world : batch.2 = (inTurn single entries s).2
  attempted : (inTurn single entries s).1.length = entries.length ∧
    ∀ place entry, entries[place]? = some entry →
      (inTurn single entries s).1[place]? =
        some (single entry (inTurn single (entries.take place) s).2).1
  /-- The last value and the last error text under each name. -/
  reports : Reports batch.1 ((entries.map name).zip (inTurn single entries s).1)
  success : batch.1.success = true ↔ ∀ outcome ∈ (inTurn single entries s).1, outcome.isOk = true

theorem outcomes_eq_zip (entries : List ε) (s : σ) :
    outcomes name single entries s = (entries.map name).zip (inTurn single entries s).1 := by
  induction entries generalizing s with
  | nil => rfl
  | cons entry rest inductionHypothesis =>
      exact congrArg (List.cons _) (inductionHypothesis (single entry s).2)

theorem collect_snd (entries : List ε) (report : BatchReport α) (s : σ) :
    (collect name single entries report s).2 = (inTurn single entries s).2 := by
  induction entries generalizing report s with
  | nil => rfl
  | cons entry rest inductionHypothesis => exact inductionHypothesis _ (single entry s).2

theorem success_collect (entries : List ε) (report : BatchReport α) (s : σ) :
    (collect name single entries report s).1.success = true ↔
      report.success = true ∧ ∀ outcome ∈ (inTurn single entries s).1, outcome.isOk = true := by
  induction entries generalizing report s with
  | nil => simp [collect, inTurn]
  | cons entry rest inductionHypothesis =>
      have later := inductionHypothesis (report.record (name entry) (single entry s).1)
        (single entry s).2
      rw [collect, inTurn, List.forall_mem_cons]
      refine later.trans ?_
      cases (single entry s).1 with
      | ok value => simp [record, Except.isOk, Except.toBool]
      | error fault => simp [record, Except.isOk, Except.toBool]

theorem tallied_collect (entries : List ε) (s : σ) :
    Tallied single name entries s (collect name single entries {} s) where
  world := collect_snd entries {} s
  attempted := ⟨length_inTurn single entries s, fun _ _ found => getElem?_inTurn single found s⟩
  reports := by
    rw [← outcomes_eq_zip]
    exact reports_collect name single entries s
  success := by simpa using success_collect entries {} s

end Tallying

end BatchReport

namespace Surroundings

open BatchReport (Tallied)
open Exchange (Interlude)

variable {σ : Type}

/-! ## The frames of a batch -/

/-- The surroundings with a record of the frames that are sent. -/
def recorded (around : Surroundings σ) : Surroundings (σ × List Bytes) where
  exchange s := around.exchange s.1
  put exchange s := (around.put exchange s.1, s.2)
  send frame s := ((around.send frame s.1).1, (around.send frame s.1).2, s.2 ++ [frame])
  wait s := (around.wait s.1, s.2)

/-- The frame that a call sends, unless its name does not fit or is taken. -/
def sends (around : Surroundings σ) (target : Identity) (request : ParamRequest) (s : σ) :
    List Bytes :=
  match (request.frame (around.exchange s).builder target).1 with
  | .error _ => []
  | .ok frame => if (around.exchange s).holder? request.name = none then [frame] else []

variable {around : Surroundings σ} {ready : σ → Prop}

@[simp]
theorem exchange_recorded (s : σ × List Bytes) :
    around.recorded.exchange s = around.exchange s.1 := rfl

@[simp]
theorem put_recorded (exchange : Exchange) (s : σ × List Bytes) :
    around.recorded.put exchange s = (around.put exchange s.1, s.2) := rfl

theorem await_recorded (number : Nat) (frame : Bytes) (s : σ) (sent : List Bytes) :
    around.recorded.await number frame (s, sent) =
      (around.await number frame s, sent ++ [frame]) := by
  rcases sending : around.send frame s with ⟨outcome, after⟩
  have noted : around.recorded.send frame (s, sent) = (outcome, after, sent ++ [frame]) := by
    simp [recorded, sending]
  unfold await
  rw [sending, noted]
  cases outcome <;> rfl

/-- The record takes no part in a call. -/
theorem perform_recorded {s : σ} (coherent : (around.exchange s).Coherent) (target : Identity)
    (request : ParamRequest) (sent : List Bytes) :
    around.recorded.perform target request (s, sent) =
      ((around.perform target request s).1, (around.perform target request s).2,
        sent ++ around.sends target request s) := by
  cases valid : NameField.encode? request.name with
  | none =>
      have refused := request.frame_of_invalid valid (around.exchange s).builder target
      rw [perform_of_invalid target valid, perform_of_invalid target valid, sends, refused]
      simp [recorded]
  | some field =>
      have isValid : (NameField.encode? request.name).isSome = true := by rw [valid]; rfl
      obtain ⟨frame, builder, accepted⟩ :=
        (request.exists_frame_iff (around.exchange s).builder target).mpr isValid
      have plain := perform_eq_of_frame coherent accepted
      have coherentToo : (around.recorded.exchange (s, sent)).Coherent := coherent
      have noted := perform_eq_of_frame coherentToo accepted
      rw [plain, noted, sends, accepted]
      by_cases free : (around.exchange s).holder? request.name = none
      · simp [free, await_recorded]
      · simp [free]

/-- The frames that calls send, each in the world that the one before it has left. -/
def sendsInTurn (around : Surroundings σ) (target : Identity) : List ParamRequest → σ → List Bytes
  | [], _ => []
  | request :: rest, s =>
      around.sends target request s ++
        around.sendsInTurn target rest (around.perform target request s).2

/-! ## Whole batches -/

section Batches

variable {ε α : Type}

/-- A call for an entry, and what is made of its result. -/
def answer (around : Surroundings σ) (target : Identity) (request : ε → ParamRequest)
    (finish : ε → Except Fault ParamValue → Except Fault α) (entry : ε) (s : σ) :
    Except Fault α × σ :=
  (finish entry (around.perform target (request entry) s).1,
    (around.perform target (request entry) s).2)

variable {target : Identity} {name : ε → String} {request : ε → ParamRequest}
  {finish : ε → Except Fault ParamValue → Except Fault α}

theorem Acts.collect_recorded (acts : around.Acts ready) {s : σ} (isReady : ready s)
    (coherent : (around.exchange s).Coherent) (entries : List ε) (report : BatchReport α)
    (sent : List Bytes) :
    BatchReport.collect name (around.recorded.answer target request finish) entries report
        (s, sent) =
      ((BatchReport.collect name (around.answer target request finish) entries report s).1,
        (BatchReport.collect name (around.answer target request finish) entries report s).2,
        sent ++ around.sendsInTurn target (entries.map request) s) := by
  -- On the entries; each call leaves the exchange coherent for the next one.
  induction entries generalizing s report sent with
  | nil => simp [BatchReport.collect, sendsInTurn]
  | cons entry rest inductionHypothesis =>
      obtain ⟨steps, stepped⟩ := acts.perform target (request entry) isReady
      have readyThen := acts.keeps.perform target (request entry) isReady
      have coherentThen :
          (around.exchange (around.perform target (request entry) s).2).Coherent := by
        rw [stepped]
        exact coherent.run steps
      have noted : around.recorded.answer target request finish entry (s, sent) =
          ((around.answer target request finish entry s).1,
            (around.answer target request finish entry s).2,
            sent ++ around.sends target (request entry) s) := by
        rw [answer, perform_recorded coherent]
        rfl
      rw [BatchReport.collect, noted, List.map_cons, sendsInTurn, ← List.append_assoc]
      exact inductionHypothesis readyThen coherentThen _ _

theorem Nests.collect (nests : around.Nests ready) {s : σ} (isReady : ready s)
    (coherent : (around.exchange s).Coherent) (entries : List ε) (report : BatchReport α) :
    Interlude (around.exchange s) (around.exchange
      (BatchReport.collect name (around.answer target request finish) entries report s).2) := by
  induction entries generalizing s report with
  | nil => exact .nothing _
  | cons entry rest inductionHypothesis =>
      have interlude := nests.perform target (request entry) isReady coherent
      have readyThen := nests.keeps.perform target (request entry) isReady
      exact interlude.trans (inductionHypothesis readyThen (interlude.settled coherent).coherent _)

/-- What is known of a batch of requests, which a record shows that takes no part in it. -/
structure Carried (around : Surroundings σ) (target : Identity) (requests : List ParamRequest)
    (s : σ) (batch : BatchReport α × σ) (noted : BatchReport α × σ × List Bytes) : Prop where
  frames : ∀ ready, around.Acts ready → ready s →
    noted = (batch.1, batch.2, around.sendsInTurn target requests s)
  pending : ∀ ready, around.Nests ready → ready s →
    (around.exchange batch.2).pending = (around.exchange s).pending

theorem carried_collect (around : Surroundings σ) (target : Identity) (name : ε → String)
    (request : ε → ParamRequest) (finish : ε → Except Fault ParamValue → Except Fault α) {s : σ}
    (coherent : (around.exchange s).Coherent) (entries : List ε) :
    Carried around target (entries.map request) s
      (BatchReport.collect name (around.answer target request finish) entries {} s)
      (BatchReport.collect name (around.recorded.answer target request finish) entries {}
        (s, [])) where
  frames _ acts isReady := acts.collect_recorded isReady coherent entries {} []
  pending _ nests isReady := ((nests.collect isReady coherent entries {}).settled coherent).pending

end Batches

/-- The request that sets a parameter as an entry says. -/
def assigning (entry : ParamAssignment) : ParamRequest :=
  .write entry.name entry.value entry.type

/-- A batch, to read or to write, is its calls in turn, whatever comes of them and whatever happens
while they send and wait.  This goes for surroundings with a record of the frames too; the record
takes no part, and has what the calls send in turn.  What was registered before is what is
registered afterwards, if all calls that are made meanwhile have returned. -/
theorem batches_in_turn (around : Surroundings σ) (target : Identity) (s : σ) :
    (∀ names : List String,
      Tallied (fun name => around.read target name) id names s
        (around.readBatch target names s)) ∧
      (∀ entries : List ParamAssignment,
        Tallied (fun entry => around.write target entry.name entry.value entry.type) (·.name)
          entries s (around.writeBatch target entries s)) ∧
      (∀ steps, around.exchange s = Exchange.empty.run steps →
        (∀ names : List String,
          Carried around target (names.map .read) s (around.readBatch target names s)
            (around.recorded.readBatch target names (s, []))) ∧
          ∀ entries : List ParamAssignment,
            Carried around target (entries.map assigning) s (around.writeBatch target entries s)
              (around.recorded.writeBatch target entries (s, []))) := by
  refine ⟨?_, ?_, ?_⟩
  · intro names
    exact BatchReport.tallied_collect names s
  · intro entries
    exact BatchReport.tallied_collect entries s
  · intro steps reached
    have coherent : (around.exchange s).Coherent := by
      rw [reached]
      exact Exchange.coherent_run steps
    refine ⟨?_, ?_⟩
    · intro names
      exact carried_collect around target id .read (fun _ result => result) coherent names
    · intro entries
      exact carried_collect around target (·.name) assigning
        (fun entry result => result.map (WriteResult.ofEcho entry.value entry.type)) coherent
        entries

/-- A vehicle that asks for other parameters before it answers, while a call for `D` waits. -/
def inquisitive : Rehearsal where
  target := ⟨1, 1⟩
  replies := [("A", [.nestedRead "B", .echo none (some ⟨0x3F800000⟩) 9 1 0]),
    ("B", [.nestedRead "C", .fail .notConnected])]
  exchange := Exchange.empty.run [.start ⟨1, 1⟩ (.read "D"), .register 0]

/-- Names of calls that fail to send, succeed, time out, are busy or do not fit. -/
def assorted : List String := ["B", "A", "C", "D", "a name too long to fit", "A"]

/-- The calls of the vehicle take numbers too, and so does the one that is busy. -/
theorem batches_in_turn_inquisitive :
    let batch := inquisitive.surroundings.readBatch ⟨1, 1⟩ assorted inquisitive
    let noted := inquisitive.surroundings.recorded.readBatch ⟨1, 1⟩ assorted (inquisitive, [])
    noted = (batch.1, batch.2,
        inquisitive.surroundings.sendsInTurn ⟨1, 1⟩ (assorted.map .read) inquisitive) ∧
      noted.2.2.map (·.getD 4 0) = [1, 3, 6, 8] ∧
      batch.2.exchange.pending = inquisitive.exchange.pending ∧
      inquisitive.exchange.pending = [("D", 0)] ∧
      batch.1.values.map (·.1) = ["A"] ∧
      batch.1.errors.map (·.1) = ["B", "C", "D", "a name too long to fit"] := by
  intro batch noted
  have carried : Carried inquisitive.surroundings ⟨1, 1⟩ (assorted.map .read) inquisitive
      batch noted :=
    ((batches_in_turn inquisitive.surroundings ⟨1, 1⟩ inquisitive).2.2
      [.start ⟨1, 1⟩ (.read "D"), .register 0] rfl).1 assorted
  have held : ∀ rehearsal, inquisitive.surroundings.exchange rehearsal = rehearsal.exchange :=
    fun _ => rfl
  have waiting := carried.pending _ inquisitive.surroundings_nests trivial
  rw [held, held] at waiting
  exact ⟨carried.frames _ inquisitive.surroundings_acts trivial, by decide +kernel, waiting,
    by decide +kernel, by decide +kernel, by decide +kernel⟩

end Surroundings

end MavBridge
