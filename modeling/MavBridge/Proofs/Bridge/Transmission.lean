import MavBridge.Bridge.Writing

/-!
# The bytes that a device receives

The device is held for the whole of a write, so that what it receives is a row of whole parcels, in
the order in which they have found it free.
-/

namespace MavBridge

namespace RunningEgress

/-! ## Writes that nobody interrupts -/

section Alone

variable {σ : Type} (device : Transport σ)

/-- The steps that a device makes of a write. -/
def answering (data : Bytes) (s : σ) : List Step :=
  if data.isEmpty then [.flush (device.flush s).1]
  else
    match device.write data s with
    | (.ok (taken + 1), s) => .push (.ok (taken + 1)) :: answering (data.drop (taken + 1)) s
    | (answer, _) => [.push answer]
termination_by data.length
decreasing_by
  have nonempty : data ≠ [] := by simp_all
  have positive := List.length_pos_iff.mpr nonempty
  simp only [List.length_drop]
  omega

theorem run_cons (running : RunningEgress) (step : Step) (later : List Step) :
    running.run (step :: later) =
      ((running.step step).1 ++ ((running.step step).2.run later).1,
        ((running.step step).2.run later).2) := rfl

theorem run_answering (running : RunningEgress) (parcel : Parcel) (rest : Bytes) (s : σ)
    (held : running.writing = some ⟨parcel, rest⟩) :
    (running.run (answering device rest s)).2 =
      running.conclude parcel (device.writeAll rest s).1 := by
  induction rest, s using Transport.writeAll.induct device generalizing running with
  | case1 rest s empty =>
      rw [answering, Transport.writeAll, if_pos empty, if_pos empty]
      cases flushed : (device.flush s).1 <;>
        simp [run, step, flush, held, empty, conclude, finish]
  | case2 rest s nonempty fault after written =>
      rw [answering, Transport.writeAll, if_neg nonempty, if_neg nonempty, written]
      simp [run, step, push, held, nonempty, conclude]
  | case3 rest s nonempty after written =>
      rw [answering, Transport.writeAll, if_neg nonempty, if_neg nonempty, written]
      simp [run, step, push, held, nonempty, conclude]
  | case4 rest s nonempty taken after written inductionHypothesis =>
      rw [answering, Transport.writeAll, if_neg nonempty, if_neg nonempty, written]
      simp only [run_cons, step, push, held, nonempty]
      rw [inductionHypothesis _ rfl]
      simp [conclude, finish]

/-- A chunk is written as if at once when nothing comes between. -/
theorem run_writeHeld (egress : Egress) {chunk : Bytes} (inHand : egress.inHand = some chunk)
    (s : σ) :
    (run { egress } (.writeHeld ::
        if egress.link.isOpen then answering device chunk s else [])).2 =
      { egress := (egress.writeHeld device s).1 } := by
  cases isOpen : egress.link.isOpen with
  | false =>
      simp [run, step, writeHeld, Egress.writeHeld, Link.write, inHand, isOpen, finish]
  | true =>
      have held : (writeHeld { egress }).writing = some ⟨⟨chunk, true⟩, chunk⟩ := by
        simp [writeHeld, inHand, isOpen, begin]
      simp only [run_cons, step, if_pos, run_answering device _ _ _ _ held]
      unfold Egress.writeHeld Link.write
      cases written : device.writeAll chunk s with
      | mk outcome after =>
          cases outcome <;>
            simp [inHand, isOpen, written, writeHeld, begin, conclude, finish]

theorem run_send (egress : Egress) (frame : Bytes) (s : σ) :
    (run { egress } (.send frame ::
        if egress.link.isOpen then answering device frame s else [])).2 =
      { egress := (egress.send device frame s).2.1 } := by
  cases isOpen : egress.link.isOpen with
  | false => simp [run, step, send, Egress.send, Link.write, isOpen]
  | true =>
      have held : (send { egress } frame).writing = some ⟨⟨frame, false⟩, frame⟩ := by
        simp [send, isOpen, begin]
      simp only [run_cons, step, if_pos, run_answering device _ _ _ _ held]
      unfold Egress.send Link.write
      cases written : device.writeAll frame s with
      | mk outcome after =>
          cases outcome <;> simp [isOpen, send, begin, conclude, finish]

end Alone

theorem run_closing (egress : Egress) :
    run { egress } [.leave, .release, .bury, .halt] = ([], { egress := egress.close }) := rfl

/-! ## What is to be received -/

/-- What is noted of the steps of a run, in order. -/
def noted {α : Type} (note : RunningEgress → Step → Option α) :
    RunningEgress → List Step → List α
  | _, [] => []
  | running, step :: later => (note running step).toList ++ noted note (running.step step).2 later

/-- The parcel whose write begins: the device is free, and the link is open. -/
def begun (running : RunningEgress) : Step → Option Parcel
  | .writeHeld =>
      if running.writing.isNone && running.egress.link.isOpen then
        running.egress.inHand.map (⟨·, true⟩)
      else none
  | .send frame =>
      if running.writing.isNone && running.egress.link.isOpen then some ⟨frame, false⟩ else none
  | _ => none

def Step.hasSucceeded : Step → Prop
  | .push answer => ∃ taken, answer = .ok (taken + 1)
  | .flush answer => answer = .ok ()
  | _ => True

def bytesOf (parcels : List Parcel) : Bytes := (parcels.map (·.data)).flatten

/-- A device that has received these bytes, as the writes of these parcels have begun: all of each,
except for the last one while it is being written. -/
structure Transmits (parcels : List Parcel) (received : Bytes) (running : RunningEgress) :
    Prop where
  free : running.writing = none →
    received = bytesOf parcels ∧ running.egress.link.bytesWritten = received.length
  held : ∀ writing, running.writing = some writing → ∃ whole taken,
    parcels = whole ++ [writing.parcel] ∧ received = bytesOf whole ++ taken ∧
      taken ++ writing.rest = writing.parcel.data ∧
      running.egress.link.bytesWritten = (bytesOf whole).length

variable {parcels : List Parcel} {received : Bytes} {running : RunningEgress} {writing : Writing}

/-! ## Beginning a write -/

/-- The writer begins a write when the device is free and the link is open; it drops what it holds
when the link is closed. -/
theorem writeHeld_cases (running : RunningEgress) :
    (∃ chunk, running.writing = none ∧ running.egress.link.isOpen = true ∧
      running.egress.inHand = some chunk ∧ running.begun .writeHeld = some ⟨chunk, true⟩ ∧
      running.writeHeld = running.begin ⟨chunk, true⟩) ∨
    (∃ chunk, running.writing = none ∧ running.egress.link.isOpen = false ∧
      running.egress.inHand = some chunk ∧ running.begun .writeHeld = none ∧
      running.writeHeld = running.finish ⟨chunk, true⟩) ∨
    (running.begun .writeHeld = none ∧ running.writeHeld = running) := by
  unfold writeHeld begun
  cases free : running.writing with
  | some writing => exact .inr (.inr ⟨by simp, rfl⟩)
  | none =>
      cases inHand : running.egress.inHand with
      | none => exact .inr (.inr ⟨by simp, rfl⟩)
      | some chunk =>
          cases isOpen : running.egress.link.isOpen with
          | true => exact .inl ⟨chunk, rfl, rfl, rfl, by simp, rfl⟩
          | false => exact .inr (.inl ⟨chunk, rfl, rfl, rfl, by simp, rfl⟩)

theorem send_cases (running : RunningEgress) (frame : Bytes) :
    (running.writing = none ∧ running.begun (.send frame) = some ⟨frame, false⟩ ∧
      running.send frame = running.begin ⟨frame, false⟩) ∨
    (running.begun (.send frame) = none ∧ running.send frame = running) := by
  unfold send begun
  cases free : running.writing with
  | some writing => exact .inr ⟨by simp, rfl⟩
  | none =>
      cases isOpen : running.egress.link.isOpen with
      | true => exact .inl ⟨rfl, by simp, rfl⟩
      | false => exact .inr ⟨by simp, rfl⟩

/-! ## The steps of a write -/

theorem transmits_fresh {link : Link} (unused : link.bytesWritten = 0) :
    Transmits [] [] { egress := { link } } where
  free _ := ⟨rfl, unused⟩
  held writing same := by cases same

/-- Only what the link has counted matters to the device. -/
theorem Transmits.withEgress (transmits : Transmits parcels received running) {egress : Egress}
    (bytesWritten : egress.link.bytesWritten = running.egress.link.bytesWritten) :
    Transmits parcels received { running with egress } where
  free idle := by
    rw [bytesWritten]
    exact transmits.free idle
  held writing busy := by
    rw [bytesWritten]
    exact transmits.held writing busy

theorem Transmits.begin (transmits : Transmits parcels received running)
    (idle : running.writing = none) (parcel : Parcel) :
    Transmits (parcels ++ [parcel]) received (running.begin parcel) where
  free busy := by cases busy
  held writing same := by
    cases same
    obtain ⟨whole, counted⟩ := transmits.free idle
    refine ⟨parcels, [], rfl, ?_, rfl, ?_⟩
    · rw [whole, List.append_nil]
    · rw [← whole]
      exact counted

theorem Transmits.advance (transmits : Transmits parcels received running)
    (busy : running.writing = some writing) (count : Nat) :
    Transmits parcels (received ++ writing.rest.take count)
      { running with writing := some { writing with rest := writing.rest.drop count } } where
  free idle := by cases idle
  held later same := by
    cases same
    obtain ⟨whole, taken, begun, reached, partly, counted⟩ := transmits.held writing busy
    refine ⟨whole, taken ++ writing.rest.take count, begun, ?_, ?_, counted⟩
    · rw [reached, List.append_assoc]
    · rw [List.append_assoc, List.take_append_drop, partly]

/-- A write that has come to its end is counted. -/
theorem Transmits.conclude (transmits : Transmits parcels received running)
    (busy : running.writing = some writing) (empty : writing.rest = []) {egress : Egress}
    (bytesWritten : egress.link.bytesWritten =
      running.egress.link.bytesWritten + writing.parcel.data.length) :
    Transmits parcels received { egress } where
  free _ := by
    obtain ⟨whole, taken, begun, reached, partly, counted⟩ := transmits.held writing busy
    rw [empty, List.append_nil] at partly
    constructor
    · simp [begun, reached, partly, bytesOf]
    · rw [bytesWritten, counted, reached, partly, List.length_append]
  held writing same := by cases same

/-! ## Steps and runs -/

theorem Transmits.release (transmits : Transmits parcels received running) :
    Transmits parcels received running.release := by
  unfold RunningEgress.release
  split
  next => exact transmits.withEgress rfl
  next => exact transmits

theorem Transmits.writeHeld (transmits : Transmits parcels received running) :
    Transmits (parcels ++ (running.begun .writeHeld).toList) received running.writeHeld := by
  rcases running.writeHeld_cases with ⟨chunk, idle, -, -, begins, same⟩ |
    ⟨chunk, idle, -, -, unbegun, same⟩ | ⟨unbegun, same⟩
  · rw [begins, same]
    exact transmits.begin idle ⟨chunk, true⟩
  · have lost : Transmits parcels received
        { running with egress := { running.egress with inHand := none } } :=
      transmits.withEgress rfl
    rw [unbegun, same]
    simpa [finish, idle] using lost
  · rw [unbegun, same]
    simpa using transmits

theorem Transmits.send (transmits : Transmits parcels received running) (frame : Bytes) :
    Transmits (parcels ++ (running.begun (.send frame)).toList) received (running.send frame) := by
  rcases running.send_cases frame with ⟨idle, begins, same⟩ | ⟨unbegun, same⟩
  · rw [begins, same]
    exact transmits.begin idle ⟨frame, false⟩
  · rw [unbegun, same]
    simpa using transmits

theorem Transmits.push (transmits : Transmits parcels received running) (taken : Nat) :
    Transmits parcels (received ++ (running.push (.ok (taken + 1))).1)
      (running.push (.ok (taken + 1))).2 := by
  unfold RunningEgress.push
  cases held : running.writing with
  | none => simpa using transmits
  | some writing =>
      by_cases empty : writing.rest.isEmpty = true
      · simpa only [if_pos empty, List.append_nil] using transmits
      · simpa only [if_neg empty] using transmits.advance held (taken + 1)

theorem Transmits.flush (transmits : Transmits parcels received running) :
    Transmits parcels received (running.flush (.ok ())) := by
  unfold RunningEgress.flush
  cases held : running.writing with
  | none => exact transmits
  | some writing =>
      cases empty : writing.rest.isEmpty with
      | false => simpa [empty] using transmits
      | true =>
          simp only [empty, if_true]
          refine transmits.conclude held (List.isEmpty_iff.mp empty) ?_
          split <;> rfl

theorem Transmits.step (transmits : Transmits parcels received running) (step : Step)
    (succeeds : step.hasSucceeded) :
    Transmits (parcels ++ (running.begun step).toList) (received ++ (running.step step).1)
      (running.step step).2 := by
  -- Most steps begin no write and change nothing that matters to the device.
  have quietly (egress : Egress)
      (bytesWritten : egress.link.bytesWritten = running.egress.link.bytesWritten) :
      Transmits (parcels ++ []) (received ++ []) { running with egress } := by
    simpa using transmits.withEgress bytesWritten
  cases step with
  | offer chunk => exact quietly (running.egress.offer chunk) (by simp)
  | enqueue chunk => exact quietly (running.egress.enqueue chunk) (by simp)
  | take => exact quietly running.egress.take (by simp)
  | writeHeld => simpa [RunningEgress.step] using transmits.writeHeld
  | send frame => simpa [RunningEgress.step] using transmits.send frame
  | push answer =>
      obtain ⟨taken, rfl⟩ := succeeds
      simpa [begun, RunningEgress.step] using transmits.push taken
  | flush answer =>
      obtain rfl := succeeds
      simpa [begun, RunningEgress.step] using transmits.flush
  | observe outcome =>
      exact quietly (running.egress.observe outcome).2 (Link.bytesWritten_observe ..)
  | leave => exact quietly { running.egress with link := running.egress.link.abandonReader } rfl
  | release => simpa [begun, RunningEgress.step] using transmits.release
  | bury =>
      exact quietly { running.egress with link := { running.egress.link with isAlive := false } }
        rfl
  | halt => exact quietly { running.egress with isRunning := false } rfl

theorem Transmits.run (transmits : Transmits parcels received running) (steps : List Step)
    (succeed : ∀ step ∈ steps, step.hasSucceeded) :
    Transmits (parcels ++ noted begun running steps) (received ++ (running.run steps).1)
      (running.run steps).2 := by
  induction steps generalizing parcels received running with
  | nil => simpa [noted, RunningEgress.run] using transmits
  | cons step later inductionHypothesis =>
      have next := transmits.step step (succeed step List.mem_cons_self)
      have last := inductionHypothesis next fun step listed =>
        succeed step (List.mem_cons_of_mem _ listed)
      simpa [noted, run_cons] using last

/-- The frames among some parcels. -/
def framesOf (parcels : List Parcel) : List Bytes :=
  (parcels.filter (!·.isRelayed)).map (·.data)

/-- The frames that a step would send. -/
def Step.frame? : Step → Option Bytes
  | .send frame => some frame
  | _ => none

theorem framesOf_begun (running : RunningEgress) (steps : List Step) :
    (framesOf (noted begun running steps)).Sublist (steps.filterMap Step.frame?) := by
  induction steps generalizing running with
  | nil => exact .slnil
  | cons step later inductionHypothesis =>
      have first : (framesOf (running.begun step).toList).Sublist (step.frame?).toList := by
        cases step with
        | writeHeld =>
            simp only [begun]
            split
            · cases running.egress.inHand <;> exact .refl _
            · exact .refl _
        | send frame =>
            simp only [begun]
            split
            · exact .refl _
            · exact List.nil_sublist _
        | _ => exact .refl _
      have parted : (step :: later).filterMap Step.frame? =
          (step.frame?).toList ++ later.filterMap Step.frame? := by
        cases frame : step.frame? <;> simp [frame]
      have both := first.append (inductionHypothesis (running.step step).2)
      rw [parted]
      simpa [noted, framesOf] using both

end RunningEgress

end MavBridge
