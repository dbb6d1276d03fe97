import MavBridge.Device.Scripted
import MavBridge.Proofs.Bridge.Transmission

/-!
# The chunks that are relayed to a vehicle

Chunks are written in the order in which the queue has taken them.  One that has found the queue
full is counted, and not written; one that has found the link closed is lost.
-/

namespace MavBridge

namespace RunningEgress

/-! ## What is to be counted -/

/-- The chunk that is relayed to a session which is alive, or was so when it was looked at, and
whose writer is at work. -/
def relayed (running : RunningEgress) : Step → Option Bytes
  | .offer chunk =>
      if running.egress.link.isAlive && running.egress.isRunning then some chunk else none
  | .enqueue chunk => if running.egress.isRunning then some chunk else none
  | _ => none

/-- The relayed chunk, if fewer chunks wait than may. -/
def accepted (running : RunningEgress) (step : Step) : Option Bytes :=
  (running.relayed step).filter fun _ => running.egress.queue.length < 256

/-- The relayed chunk, if as many chunks wait as may. -/
def overflowed (running : RunningEgress) (step : Step) : Option Bytes :=
  (running.relayed step).filter fun _ => 256 ≤ running.egress.queue.length

/-- The chunk in hand is being written. -/
def isWritingChunk (running : RunningEgress) : Bool := running.writing.any (·.parcel.isRelayed)

/-- The accepted chunks whose writes have not begun. -/
def waiting (running : RunningEgress) : List Bytes :=
  (bif running.isWritingChunk then [] else running.egress.inHand.toList) ++ running.egress.queue

/-- The chunks among some parcels. -/
def chunksOf (parcels : List Parcel) : List Bytes :=
  (parcels.filter (·.isRelayed)).map (·.data)

/-- A queue that has been given these chunks and has refused so many others, as the writes of these
parcels have begun.  What has left the queue is written unless the link was closed by then. -/
structure Queues (parcels : List Parcel) (given : List Bytes) (refused : Nat)
    (running : RunningEgress) : Prop where
  inHand : ∀ writing, running.writing = some writing → writing.parcel.isRelayed = true →
    running.egress.inHand = some writing.parcel.data
  ordered : ∃ lost, given = chunksOf parcels ++ lost ++ running.waiting ∧
    (running.egress.link.isOpen = true → lost = [])
  dropped : running.egress.dropped = refused
  bounded : running.egress.queue.length ≤ 256

variable {parcels : List Parcel} {given : List Bytes} {refused : Nat} {running : RunningEgress}
  {writing : Writing}

/-! ## What happens to the queue -/

theorem queues_fresh (link : Link) : Queues [] [] 0 { egress := { link } } where
  inHand := by simp
  ordered := ⟨[], rfl, fun _ => rfl⟩
  dropped := rfl
  bounded := Nat.zero_le _

/-- Only whether the link is open matters to the queue, and it may be closed at any time. -/
theorem Queues.withLink (queues : Queues parcels given refused running) {link : Link}
    (isOpen : link.isOpen = true → running.egress.link.isOpen = true) :
    Queues parcels given refused { running with egress := { running.egress with link } } where
  inHand := queues.inHand
  ordered := by
    obtain ⟨lost, ordered, unspoilt⟩ := queues.ordered
    exact ⟨lost, ordered, fun stays => unspoilt (isOpen stays)⟩
  dropped := queues.dropped
  bounded := queues.bounded

theorem Queues.enqueue (queues : Queues parcels given refused running) (chunk : Bytes) :
    Queues parcels (given ++ (running.accepted (.enqueue chunk)).toList)
      (refused + (running.overflowed (.enqueue chunk)).toList.length)
      { running with egress := running.egress.enqueue chunk } := by
  unfold accepted overflowed relayed Egress.enqueue Egress.capacity
  by_cases atWork : running.egress.isRunning = true
  · by_cases room : running.egress.queue.length < 256
    · have unfilled : ¬ 256 ≤ running.egress.queue.length := Nat.not_le_of_lt room
      simp only [atWork, room, unfilled, if_true, Option.filter, decide_true, decide_false]
      constructor
      case inHand => exact queues.inHand
      case ordered =>
        obtain ⟨lost, ordered, unspoilt⟩ := queues.ordered
        refine ⟨lost, ?_, unspoilt⟩
        simp [ordered, waiting, isWritingChunk]
      case dropped => exact queues.dropped
      case bounded =>
        rw [List.length_append]
        exact room
    · have full : 256 ≤ running.egress.queue.length := Nat.le_of_not_lt room
      simp only [atWork, room, full, if_true, if_false, Option.filter, decide_true, decide_false]
      constructor
      case inHand => exact queues.inHand
      case ordered => simpa [waiting, isWritingChunk] using queues.ordered
      case dropped => exact congrArg (· + 1) queues.dropped
      case bounded => exact queues.bounded
  · simpa [atWork] using queues

theorem Queues.take (queues : Queues parcels given refused running) :
    Queues parcels given refused { running with egress := running.egress.take } := by
  unfold Egress.take
  split
  case h_2 => exact queues
  case h_1 chunk queue _ inHand line =>
    -- A chunk that is being written would still be in hand.
    have unwritten : ∀ writing, running.writing = some writing →
        writing.parcel.isRelayed = false := by
      intro writing held
      cases isRelayed : writing.parcel.isRelayed with
      | false => rfl
      | true =>
          have same := queues.inHand writing held isRelayed
          rw [inHand] at same
          cases same
    constructor
    case inHand =>
      intro writing held isRelayed
      rw [unwritten writing held] at isRelayed
      cases isRelayed
    case ordered =>
      obtain ⟨lost, ordered, unspoilt⟩ := queues.ordered
      refine ⟨lost, ?_, unspoilt⟩
      cases held : running.writing with
      | none => simp [ordered, waiting, isWritingChunk, held, inHand, line]
      | some writing =>
          simp [ordered, waiting, isWritingChunk, held, unwritten writing held, inHand, line]
    case dropped => exact queues.dropped
    case bounded =>
      have bounded := queues.bounded
      rw [line, List.length_cons] at bounded
      exact Nat.le_of_succ_le bounded

/-- The chunk in hand is no longer waiting once its write has begun. -/
theorem Queues.beginChunk (queues : Queues parcels given refused running)
    (free : running.writing = none) (isOpen : running.egress.link.isOpen = true) {chunk : Bytes}
    (inHand : running.egress.inHand = some chunk) :
    Queues (parcels ++ [⟨chunk, true⟩]) given refused (running.begin ⟨chunk, true⟩) where
  inHand writing same _ := by
    cases same
    exact inHand
  ordered := by
    obtain ⟨lost, ordered, unspoilt⟩ := queues.ordered
    obtain rfl := unspoilt isOpen
    refine ⟨[], ?_, fun _ => rfl⟩
    simp [ordered, chunksOf, waiting, isWritingChunk, RunningEgress.begin, free, inHand]
  dropped := queues.dropped
  bounded := queues.bounded

theorem Queues.beginFrame (queues : Queues parcels given refused running)
    (free : running.writing = none) (frame : Bytes) :
    Queues (parcels ++ [⟨frame, false⟩]) given refused (running.begin ⟨frame, false⟩) where
  inHand writing same isRelayed := by
    cases same
    cases isRelayed
  ordered := by
    simpa [chunksOf, waiting, isWritingChunk, RunningEgress.begin, free] using queues.ordered
  dropped := queues.dropped
  bounded := queues.bounded

/-- A chunk that finds the link closed is lost. -/
theorem Queues.lose (queues : Queues parcels given refused running)
    (free : running.writing = none) (closed : running.egress.link.isOpen = false) {chunk : Bytes}
    (inHand : running.egress.inHand = some chunk) :
    Queues parcels given refused (running.finish ⟨chunk, true⟩) where
  inHand writing same := by cases same
  ordered := by
    obtain ⟨lost, ordered, -⟩ := queues.ordered
    refine ⟨lost ++ [chunk], ?_, by simp [finish, closed]⟩
    simp [ordered, waiting, isWritingChunk, finish, free, inHand]
  dropped := queues.dropped
  bounded := queues.bounded

/-- It does not matter to the queue how far a write has come. -/
theorem Queues.advance (queues : Queues parcels given refused running)
    (held : running.writing = some writing) (rest : Bytes) :
    Queues parcels given refused { running with writing := some { writing with rest } } where
  inHand later same isRelayed := by
    cases same
    exact queues.inHand writing held isRelayed
  ordered := by simpa [waiting, isWritingChunk, held] using queues.ordered
  dropped := queues.dropped
  bounded := queues.bounded

theorem Queues.finish (queues : Queues parcels given refused running)
    (held : running.writing = some writing) :
    Queues parcels given refused (running.finish writing.parcel) := by
  unfold RunningEgress.finish
  have ordered := queues.ordered
  cases isRelayed : writing.parcel.isRelayed with
  | false =>
      constructor
      case inHand => simp
      case ordered => simpa [waiting, isWritingChunk, held, isRelayed] using ordered
      case dropped => exact queues.dropped
      case bounded => exact queues.bounded
  | true =>
      constructor
      case inHand => simp
      case ordered => simpa [waiting, isWritingChunk, held, isRelayed] using ordered
      case dropped => exact queues.dropped
      case bounded => exact queues.bounded

/-! ## Steps and runs -/

theorem Queues.offer (queues : Queues parcels given refused running) (chunk : Bytes) :
    Queues parcels (given ++ (running.accepted (.offer chunk)).toList)
      (refused + (running.overflowed (.offer chunk)).toList.length)
      { running with egress := running.egress.offer chunk } := by
  rw [Egress.offer_eq_ite]
  cases alive : running.egress.link.isAlive with
  | true =>
      have same : running.relayed (.offer chunk) = running.relayed (.enqueue chunk) := by
        simp [relayed, alive]
      simpa only [accepted, overflowed, same, if_true] using queues.enqueue chunk
  | false => simpa [accepted, overflowed, relayed, alive] using queues

theorem Queues.writeHeld (queues : Queues parcels given refused running) :
    Queues (parcels ++ (running.begun .writeHeld).toList) given refused running.writeHeld := by
  rcases running.writeHeld_cases with ⟨chunk, idle, isOpen, inHand, begins, same⟩ |
    ⟨chunk, idle, closed, inHand, unbegun, same⟩ | ⟨unbegun, same⟩
  · rw [begins, same]
    exact queues.beginChunk idle isOpen inHand
  · rw [unbegun, same]
    simpa using queues.lose idle closed inHand
  · rw [unbegun, same]
    simpa using queues

theorem Queues.send (queues : Queues parcels given refused running) (frame : Bytes) :
    Queues (parcels ++ (running.begun (.send frame)).toList) given refused
      (running.send frame) := by
  rcases running.send_cases frame with ⟨idle, begins, same⟩ | ⟨unbegun, same⟩
  · rw [begins, same]
    exact queues.beginFrame idle frame
  · rw [unbegun, same]
    simpa using queues

theorem Queues.push (queues : Queues parcels given refused running) (answer : Except Fault Nat) :
    Queues parcels given refused (running.push answer).2 := by
  unfold RunningEgress.push
  split
  next => exact queues
  next writing held =>
    split
    next => exact queues
    next =>
      split
      next taken => exact queues.advance held (writing.rest.drop (taken + 1))
      next => exact queues.finish held

theorem Queues.flush (queues : Queues parcels given refused running)
    (answer : Except Fault Unit) : Queues parcels given refused (running.flush answer) := by
  unfold RunningEgress.flush
  split
  next => exact queues
  next writing held =>
    split
    next =>
      cases answer with
      | ok done => exact Queues.finish (queues.withLink id) held
      | error fault => exact queues.finish held
    next => exact queues

theorem Queues.halt (queues : Queues parcels given refused running) :
    Queues parcels given refused running.halt where
  inHand := queues.inHand
  ordered := queues.ordered
  dropped := queues.dropped
  bounded := queues.bounded

theorem Queues.step (queues : Queues parcels given refused running) (step : Step) :
    Queues (parcels ++ (running.begun step).toList) (given ++ (running.accepted step).toList)
      (refused + (running.overflowed step).toList.length) (running.step step).2 := by
  -- A link may be closed, but nobody opens one again.
  have relinked (link : Link) (isOpen : link.isOpen = true → running.egress.link.isOpen = true) :
      Queues (parcels ++ []) (given ++ []) refused
        { running with egress := { running.egress with link } } := by
    simpa using queues.withLink isOpen
  cases step with
  | offer chunk => simpa [begun, RunningEgress.step] using queues.offer chunk
  | enqueue chunk => simpa [begun, RunningEgress.step] using queues.enqueue chunk
  | take => simpa [begun, accepted, overflowed, relayed, RunningEgress.step] using queues.take
  | writeHeld =>
      simpa [accepted, overflowed, relayed, RunningEgress.step] using queues.writeHeld
  | send frame =>
      simpa [accepted, overflowed, relayed, RunningEgress.step] using queues.send frame
  | push answer =>
      simpa [begun, accepted, overflowed, relayed, RunningEgress.step] using queues.push answer
  | flush answer =>
      simpa [begun, accepted, overflowed, relayed, RunningEgress.step] using queues.flush answer
  | observe outcome =>
      exact relinked (running.egress.link.observe outcome).2 (by simp)
  | leave => exact relinked running.egress.link.abandonReader id
  | release =>
      simp only [RunningEgress.step, RunningEgress.release]
      split
      next => exact relinked { running.egress.link with isOpen := false } (by simp)
      next => simpa [begun, accepted, overflowed, relayed] using queues
  | bury => exact relinked { running.egress.link with isAlive := false } id
  | halt => simpa [begun, accepted, overflowed, relayed, RunningEgress.step] using queues.halt

theorem Queues.run (queues : Queues parcels given refused running) (steps : List Step) :
    Queues (parcels ++ noted begun running steps) (given ++ noted accepted running steps)
      (refused + (noted overflowed running steps).length) (running.run steps).2 := by
  induction steps generalizing parcels given refused running with
  | nil => simpa [noted, RunningEgress.run] using queues
  | cons step later inductionHypothesis =>
      simpa [noted, run_cons, Nat.add_assoc] using inductionHypothesis (queues.step step)

/-- A relayed chunk is either taken or counted as dropped. -/
theorem length_relayed (running : RunningEgress) (steps : List Step) :
    (noted relayed running steps).length =
      (noted accepted running steps).length + (noted overflowed running steps).length := by
  induction steps generalizing running with
  | nil => rfl
  | cons step later inductionHypothesis =>
      have one : (running.relayed step).toList.length =
          (running.accepted step).toList.length + (running.overflowed step).toList.length := by
        unfold accepted overflowed
        cases running.relayed step with
        | none => rfl
        | some chunk =>
            by_cases room : running.egress.queue.length < 256
            · simp [Option.filter, room, Nat.not_le_of_lt room]
            · simp [Option.filter, room, Nat.le_of_not_lt room]
      simp only [noted, List.length_append, one, inductionHypothesis]
      omega

/-- Whoever relays and sends, and whenever the link dies and is closed: as long as its writes
succeed, the device receives whole parcels one after the other, in the order in which they have
found it free, and their bytes are what the link has counted; only of a parcel that is being written
a first part is there instead.  The chunks among them are those which the queue has taken, in order
and once each, except for those that still wait and those that have found the link closed.  The
queue takes every chunk that is relayed to a live session unless it is full, and then the chunk is
counted as dropped. -/
theorem device_receives_whole_parcels {σ : Type} {device : Transport σ} {port : String}
    {options : LinkOptions} {greeting : Greeting} {s last : σ} {link : Link}
    (linked : Link.ofGreeting device port options greeting s = (.ok link, last))
    (steps : List Step) (succeed : ∀ step ∈ steps, step.hasSucceeded) :
    let fresh : RunningEgress := { egress := { link } }
    let parcels := noted begun fresh steps
    let received := (fresh.run steps).1
    let running := (fresh.run steps).2
    (running.writing = none →
      received = bytesOf parcels ∧ running.egress.link.bytesWritten = received.length) ∧
    (∀ writing, running.writing = some writing → ∃ whole taken,
      parcels = whole ++ [writing.parcel] ∧ received = bytesOf whole ++ taken ∧
        taken ++ writing.rest = writing.parcel.data ∧
        running.egress.link.bytesWritten = (bytesOf whole).length) ∧
    (∃ lost, noted accepted fresh steps = chunksOf parcels ++ lost ++ running.waiting ∧
      (running.egress.link.isOpen = true → lost = [])) ∧
    (framesOf parcels).Sublist (steps.filterMap Step.frame?) ∧
    running.egress.dropped = (noted overflowed fresh steps).length ∧
    (noted relayed fresh steps).length =
      (noted accepted fresh steps).length + running.egress.dropped ∧
    running.egress.queue.length ≤ 256 := by
  intro fresh parcels received running
  have unused : link.bytesWritten = 0 := by
    obtain rfl := Link.eq_of_ofGreeting linked
    rfl
  have transmits := (transmits_fresh unused).run steps succeed
  have queues := (queues_fresh link).run steps
  simp only [List.nil_append, Nat.zero_add] at transmits queues
  refine ⟨transmits.free, transmits.held, queues.ordered, framesOf_begun fresh steps,
    queues.dropped, ?_, queues.bounded⟩
  rw [queues.dropped]
  exact length_relayed fresh steps

/-- An egress whose link has just been opened. -/
def opened : RunningEgress where
  egress := {
    link := {
      port := "/dev/ttyACM0", vehicle := ⟨1, 1⟩, maxFailures := 3, reader := .waiting [] } }

/-- A frame is sent while the device takes a chunk byte by byte, and once more afterwards; then the
link dies, which keeps nobody from writing, and takes no further chunk. -/
def twoWriters : List Step :=
  [.offer [1, 2], .take, .writeHeld, .push (.ok 1), .send [9, 8], .offer [3], .push (.ok 1),
    .flush (.ok ()), .send [9, 8], .bury, .offer [4], .push (.ok 2), .flush (.ok ()), .take,
    .writeHeld, .push (.ok 1), .flush (.ok ())]

theorem device_receives_whole_parcels_twoWriters :
    Link.ofGreeting ScriptedDevice.transport "/dev/ttyACM0" { maxFailures := 3 } ⟨⟨1, 1⟩, []⟩
        ({ polls := [] } : ScriptedDevice) = (.ok opened.egress.link, { polls := [] }) ∧
      (∀ step ∈ twoWriters, step.hasSucceeded) ∧
      noted begun opened twoWriters = [⟨[1, 2], true⟩, ⟨[9, 8], false⟩, ⟨[3], true⟩] ∧
      (opened.run twoWriters).1 = bytesOf (noted begun opened twoWriters) ∧
      (opened.run twoWriters).2.egress.link.bytesWritten = 5 := by
  have linked : Link.ofGreeting ScriptedDevice.transport "/dev/ttyACM0" { maxFailures := 3 }
      ⟨⟨1, 1⟩, []⟩ ({ polls := [] } : ScriptedDevice) =
        (.ok opened.egress.link, { polls := [] }) := rfl
  have succeed : ∀ step ∈ twoWriters, step.hasSucceeded := by
    simp [twoWriters, Step.hasSucceeded]
  have begins : noted begun opened twoWriters =
      [⟨[1, 2], true⟩, ⟨[9, 8], false⟩, ⟨[3], true⟩] := by decide
  obtain ⟨free, -⟩ := device_receives_whole_parcels linked twoWriters succeed
  obtain ⟨whole, counted⟩ := free (by decide)
  refine ⟨linked, succeed, begins, whole, counted.trans ?_⟩
  decide

end RunningEgress

end MavBridge
