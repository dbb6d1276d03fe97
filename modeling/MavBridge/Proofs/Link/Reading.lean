import MavBridge.Device.Scripted
import MavBridge.Link.Reading
import Mathlib.Data.List.DropRight

/-!
# The reader of a link

What the reader hands over is the replay and then what its polls have brought, in order and once
each.  The link dies when as many polls in a row have failed as its budget says, and it never comes
back to life.
-/

namespace MavBridge

/-- What happens to a reader. -/
inductive ReaderEvent where
  | started
  /-- A poll has ended while the reader was wanted, or was not any more. -/
  | polled (outcome : Except Fault Bytes) (wanted : Bool)

namespace ReaderEvent

/-- A chunk is handed over unless it is empty. -/
def handing (chunk : Bytes) : List Bytes := if chunk.isEmpty then [] else [chunk]

/-- What is handed over because of an event. -/
def handed (replay : Bytes) : ReaderEvent → List Bytes
  | .started => handing replay
  | .polled (.ok chunk) _ => handing chunk
  | .polled (.error _) _ => []

/-- Whether a poll has failed; polls of a reader that is not wanted any more do not count. -/
def hasFailed? : ReaderEvent → Option Bool
  | .polled outcome true => some (!outcome.isOk)
  | _ => none

/-- The failures since the last success. -/
def failuresInARow (history : List ReaderEvent) : Nat :=
  ((history.filterMap hasFailed?).rtakeWhile (· = true)).length

theorem failuresInARow_concat (history : List ReaderEvent) (event : ReaderEvent) :
    failuresInARow (history ++ [event]) =
      match event.hasFailed? with
      | none => failuresInARow history
      | some true => failuresInARow history + 1
      | some false => 0 := by
  unfold failuresInARow
  cases failed : event.hasFailed? with
  | none => simp [List.filterMap_append, failed]
  | some failure => cases failure <;> simp [List.filterMap_append, failed]

end ReaderEvent

namespace RunningLink

open ReaderEvent

/-- What happens to the reader in a step. -/
def events (running : RunningLink) : Step → List ReaderEvent
  | .start =>
      match running.link.reader with
      | .waiting _ => [.started]
      | _ => []
  | .learn outcome => if running.isPolling then [.polled outcome running.isWanted] else []
  | _ => []

/-- What happens to the reader over a run. -/
def history : RunningLink → List Step → List ReaderEvent
  | _, [] => []
  | running, step :: later => running.events step ++ history (running.step step).2 later

/-- A link whose reader has gone through this history, and handed over these chunks. -/
structure Follows (replay : Bytes) (budget : Nat) (past : List ReaderEvent) (chunks : List Bytes)
    (running : RunningLink) : Prop where
  budgeted : running.link.budget = budget
  handed : chunks = past.flatMap (ReaderEvent.handed replay)
  begun : past = [] ∨ ∃ polls, past = .started :: polls ∧ .started ∉ polls
  waiting : ∀ found, running.link.reader = .waiting found →
    found = replay ∧ past = [] ∧ running.link.isOpen = true
  reading : ∀ failures, running.link.reader = .reading failures →
    past ≠ [] ∧ failures = failuresInARow past ∧ failures < budget
  polling : running.isPolling = true → running.link.isReading = true
  dead : running.link.isAlive = false ↔
    running.link.isOpen = false ∨ budget ≤ failuresInARow past

variable {replay : Bytes} {budget : Nat} {past : List ReaderEvent} {chunks : List Bytes}
  {running after : RunningLink}

theorem follows_fresh {link : Link} (waiting : link.reader = .waiting replay)
    (isOpen : link.isOpen = true) (isAlive : link.isAlive = true) :
    Follows replay link.budget [] [] { link } where
  budgeted := rfl
  handed := rfl
  begun := .inl rfl
  waiting := by
    intro found same
    rw [waiting] at same
    cases same
    exact ⟨rfl, rfl, isOpen⟩
  reading := by simp [waiting]
  polling := by simp
  dead := by simp [isOpen, isAlive, failuresInARow, Link.budget]

theorem isReading_iff {link : Link} :
    link.isReading = true ↔ ∃ failures, link.reader = .reading failures := by
  unfold Link.isReading
  split <;> simp_all

/-- Nothing happens, except that the reader may end. -/
theorem Follows.quiet (follows : Follows replay budget past chunks running) {reader : Reader}
    (link : after.link = { running.link with reader })
    (kept : reader = running.link.reader ∨ reader = .ended)
    (polling : after.isPolling = true → after.link.isReading = true) :
    Follows replay budget past chunks after := by
  have sameReader {found : Reader} (same : after.link.reader = found) (going : found ≠ .ended) :
      running.link.reader = found := by
    rw [link] at same
    rcases kept with rfl | rfl
    · exact same
    · exact absurd same.symm going
  refine { follows with budgeted := ?_, waiting := ?_, reading := ?_, polling, dead := ?_ }
  · rw [link]
    exact follows.budgeted
  · intro found same
    rw [link]
    exact follows.waiting found (sameReader same (by simp))
  · intro failures same
    exact follows.reading failures (sameReader same (by simp))
  · rw [link]
    exact follows.dead

theorem Follows.start (follows : Follows replay budget past chunks running) :
    Follows replay budget (past ++ running.events .start) (chunks ++ running.start.1)
      running.start.2 := by
  unfold RunningLink.start Link.startReader events
  cases reader : running.link.reader with
  | waiting found =>
      obtain ⟨rfl, rfl, isOpen⟩ := follows.waiting found reader
      have silent := follows.handed
      subst silent
      have positive : 0 < budget := by
        rw [← follows.budgeted]
        exact Nat.lt_of_lt_of_le Nat.zero_lt_one (Nat.le_max_left ..)
      refine ⟨follows.budgeted, ?_, .inr ⟨[], rfl, by simp⟩, by simp, ?_, fun _ => rfl, ?_⟩
      · simp [ReaderEvent.handed, handing]
      · intro failures same
        cases same
        exact ⟨by simp, rfl, positive⟩
      · exact follows.dead
  | reading failures => simpa using follows
  | ended => simpa using follows

theorem observe_ok {link : Link} {failures : Nat} (reader : link.reader = .reading failures)
    (chunk : Bytes) : (link.observe (.ok chunk)).2 = { link with reader := .reading 0 } := by
  unfold Link.observe
  rw [reader]
  cases chunk <;> rfl

theorem observe_error {link : Link} {failures : Nat} (reader : link.reader = .reading failures)
    (fault : Fault) : (link.observe (.error fault)).2 =
      if link.budget ≤ failures + 1 then { link with reader := .ended, isAlive := false }
      else { link with reader := .reading (failures + 1) } := by
  unfold Link.observe
  rw [reader]
  dsimp only
  split <;> rfl

/-- A poll ends; what the link makes of its outcome is left open. -/
theorem Follows.polled (follows : Follows replay budget past chunks running)
    (polling : running.isPolling = true) {outcome : Except Fault Bytes} {wanted : Bool}
    {link : Link} (budgeted : link.budget = running.link.budget)
    (waiting : ∀ found, link.reader ≠ .waiting found)
    (reading : ∀ failures, link.reader = .reading failures →
      failures = failuresInARow (past ++ [.polled outcome wanted]) ∧ failures < budget)
    (dead : link.isAlive = false ↔
      link.isOpen = false ∨ budget ≤ failuresInARow (past ++ [.polled outcome wanted])) :
    Follows replay budget (past ++ [.polled outcome wanted])
      (chunks ++ (running.link.observe outcome).1.toList)
      { running with link, isPolling := false } := by
  obtain ⟨failures, reader⟩ := isReading_iff.mp (follows.polling polling)
  obtain ⟨started, -, -⟩ := follows.reading failures reader
  have handed : (running.link.observe outcome).1.toList =
      ReaderEvent.handed replay (.polled outcome wanted) := by
    unfold Link.observe
    rw [reader]
    rcases outcome with fault | chunk
    · dsimp only
      split <;> rfl
    · cases chunk <;> rfl
  refine ⟨budgeted.trans follows.budgeted, ?_, ?_, ?_, ?_, by simp, dead⟩
  · rw [follows.handed, handed, List.flatMap_append, List.flatMap_singleton]
  · obtain ⟨polls, rfl, once⟩ := follows.begun.resolve_left started
    exact .inr ⟨polls ++ [.polled outcome wanted], rfl, by simpa using once⟩
  · exact fun found same => absurd same (waiting found)
  · exact fun failures same => ⟨by simp, reading failures same⟩

theorem Follows.learn (follows : Follows replay budget past chunks running)
    (outcome : Except Fault Bytes) :
    Follows replay budget (past ++ running.events (.learn outcome))
      (chunks ++ (running.learn outcome).1) (running.learn outcome).2 := by
  unfold RunningLink.learn events
  by_cases polling : running.isPolling = true
  swap
  · simpa [polling] using follows
  obtain ⟨failures, reader⟩ := isReading_iff.mp (follows.polling polling)
  obtain ⟨-, counted, within⟩ := follows.reading failures reader
  have alive : running.link.isAlive = false ↔ running.link.isOpen = false := by
    rw [follows.dead, ← counted]
    exact or_iff_left (Nat.not_le_of_lt within)
  simp only [polling, if_true]
  by_cases wanted : running.isWanted = true
  · rw [if_pos wanted]
    rcases outcome with fault | chunk
    · have counts : failuresInARow (past ++ [.polled (.error fault) running.isWanted]) =
          failures + 1 := by
        rw [wanted, failuresInARow_concat, counted]
        rfl
      rw [observe_error reader, follows.budgeted]
      split
      · next spent =>
          refine follows.polled polling rfl (by simp) (by simp) ?_
          simp [counts, spent]
      · next unspent =>
          refine follows.polled polling rfl (by simp) ?_ ?_
          · intro found same
            cases same
            rw [counts]
            exact ⟨rfl, Nat.lt_of_not_le unspent⟩
          · rw [counts]
            simpa [unspent] using alive
    · have counts : failuresInARow (past ++ [.polled (.ok chunk) running.isWanted]) = 0 := by
        rw [wanted, failuresInARow_concat]
        rfl
      have positive : 0 < budget := Nat.lt_of_le_of_lt (Nat.zero_le failures) within
      rw [observe_ok reader]
      refine follows.polled polling rfl (by simp) ?_ ?_
      · intro found same
        cases same
        rw [counts]
        exact ⟨rfl, positive⟩
      · rw [counts]
        simpa [Nat.ne_of_gt positive] using alive
  · rw [if_neg wanted]
    have counts : failuresInARow (past ++ [.polled outcome running.isWanted]) =
        failuresInARow past := by
      rw [Bool.eq_false_iff.mpr wanted, failuresInARow_concat]
      rfl
    refine follows.polled polling rfl (by simp [reader]) ?_ ?_
    · intro found same
      rw [counts]
      exact (follows.reading found same).2
    · rw [counts]
      exact follows.dead

theorem Follows.release (follows : Follows replay budget past chunks running) :
    Follows replay budget past chunks running.release := by
  unfold RunningLink.release
  split
  · next reading =>
      obtain ⟨failures, reader⟩ := isReading_iff.mp reading
      refine ⟨follows.budgeted, follows.handed, follows.begun, ?_, follows.reading, ?_, ?_⟩
      · simp [reader]
      · exact fun _ => reading
      · simp [Link.close]
  · next idle =>
      refine ⟨follows.budgeted, follows.handed, follows.begun, ?_, ?_, ?_, ?_⟩
      · simp [Link.close]
      · simp [Link.close]
      · exact fun polling => absurd (follows.polling polling) idle
      · simp [Link.close]

theorem Follows.step (follows : Follows replay budget past chunks running) (step : Step) :
    Follows replay budget (past ++ running.events step) (chunks ++ (running.step step).1)
      (running.step step).2 := by
  cases step with
  | start => exact follows.start
  | learn outcome => exact follows.learn outcome
  | poll =>
      simp only [events, RunningLink.step, List.append_nil, RunningLink.poll]
      split
      · next begins =>
          exact follows.quiet rfl (.inl rfl) fun _ => (Bool.and_eq_true_iff.mp begins).1
      · exact follows
  | leave =>
      simp only [events, RunningLink.step, List.append_nil, RunningLink.leave]
      split
      · next leaves =>
          refine follows.quiet rfl (.inr rfl) fun polling => ?_
          simp_all
      · exact follows
  | ask =>
      simp only [events, RunningLink.step, List.append_nil]
      exact follows.quiet rfl (.inl rfl) follows.polling
  | release =>
      simp only [events, RunningLink.step, List.append_nil]
      exact follows.release

theorem Follows.run (follows : Follows replay budget past chunks running) (steps : List Step) :
    Follows replay budget (past ++ running.history steps) (chunks ++ (running.run steps).1)
      (running.run steps).2 := by
  induction steps generalizing past chunks running with
  | nil => simpa [history, RunningLink.run] using follows
  | cons step later inductionHypothesis =>
      simpa [history, RunningLink.run] using inductionHypothesis (follows.step step)

/-! ## What does not change any more -/

/-- What the end of the reader, the death of the link and its closing leave behind for good. -/
structure Settles (before after : RunningLink) : Prop where
  ended : before.link.reader = .ended → after.link.reader = .ended
  dead : before.link.isAlive = false → after.link.isAlive = false
  closed : before.link.isOpen = false → after.link.isOpen = false

theorem Settles.refl (running : RunningLink) : running.Settles running := ⟨id, id, id⟩

theorem Settles.trans {before middle : RunningLink} (first : before.Settles middle)
    (second : middle.Settles after) : before.Settles after where
  ended := second.ended ∘ first.ended
  dead := second.dead ∘ first.dead
  closed := second.closed ∘ first.closed

theorem settles_step (running : RunningLink) (step : Step) :
    running.Settles (running.step step).2 := by
  cases step with
  | start =>
      simp only [RunningLink.step, RunningLink.start, Link.startReader]
      cases reader : running.link.reader with
      | waiting replay => exact ⟨by simp [reader], id, id⟩
      | reading failures => exact .refl running
      | ended => exact .refl running
  | poll =>
      simp only [RunningLink.step, RunningLink.poll]
      split
      · exact ⟨id, id, id⟩
      · exact .refl running
  | learn outcome =>
      simp only [RunningLink.step, RunningLink.learn]
      split
      · cases reader : running.link.reader with
        | waiting replay => constructor <;> simp [Link.observe, reader]
        | ended => constructor <;> simp [Link.observe, reader]
        | reading failures =>
            split
            · rcases outcome with fault | chunk
              · rw [observe_error reader]
                split <;> constructor <;> simp [reader]
              · rw [observe_ok reader]
                constructor <;> simp [reader]
            · exact ⟨id, id, id⟩
      · exact .refl running
  | leave =>
      simp only [RunningLink.step, RunningLink.leave]
      split
      · exact ⟨fun _ => rfl, id, id⟩
      · exact .refl running
  | ask => exact ⟨id, id, id⟩
  | release =>
      simp only [RunningLink.step, RunningLink.release]
      split
      · exact ⟨id, fun _ => rfl, fun _ => rfl⟩
      · exact ⟨fun _ => rfl, fun _ => rfl, fun _ => rfl⟩

theorem settles_run (running : RunningLink) (later : List Step) :
    running.Settles (running.run later).2 := by
  induction later generalizing running with
  | nil => exact .refl running
  | cons step later inductionHypothesis =>
      exact (settles_step running step).trans (inductionHypothesis _)

/-- A reader that has ended hands nothing over. -/
theorem run_of_ended (ended : running.link.reader = .ended) (later : List Step) :
    (running.run later).1 = [] := by
  induction later generalizing running with
  | nil => rfl
  | cons step later inductionHypothesis =>
      have silent : (running.step step).1 = [] := by
        cases step with
        | start => simp [RunningLink.step, RunningLink.start, Link.startReader, ended]
        | learn outcome =>
            simp only [RunningLink.step, RunningLink.learn]
            split <;> simp [Link.observe, ended]
        | _ => rfl
      have others := inductionHypothesis ((settles_step running step).ended ended)
      simp [RunningLink.run, silent, others]

/-- Only the owner closes a link. -/
theorem isOpen_step (running : RunningLink) (step : Step) :
    (running.step step).2.link.isOpen = false ↔
      running.link.isOpen = false ∨ step = .release := by
  constructor
  · intro closed
    cases step with
    | release => exact .inr rfl
    | start =>
        left
        simp only [RunningLink.step, RunningLink.start, Link.startReader] at closed
        cases reader : running.link.reader <;> simpa [reader] using closed
    | poll =>
        left
        simp only [RunningLink.step, RunningLink.poll] at closed
        split at closed <;> exact closed
    | learn outcome =>
        left
        simp only [RunningLink.step, RunningLink.learn] at closed
        split at closed
        · dsimp only at closed
          split at closed
          · rwa [Link.isOpen_observe] at closed
          · exact closed
        · exact closed
    | leave =>
        left
        simp only [RunningLink.step, RunningLink.leave] at closed
        split at closed <;> exact closed
    | ask => exact .inl closed
  · rintro (closed | rfl)
    · exact (settles_step running step).closed closed
    · simp only [RunningLink.step, RunningLink.release]
      split <;> rfl

theorem isOpen_run (running : RunningLink) (steps : List Step) :
    (running.run steps).2.link.isOpen = false ↔
      running.link.isOpen = false ∨ .release ∈ steps := by
  induction steps generalizing running with
  | nil => simp [RunningLink.run]
  | cons step later inductionHypothesis =>
      have next := inductionHypothesis (running.step step).2
      rw [isOpen_step, or_assoc, eq_comm (a := step)] at next
      rwa [List.mem_cons]

theorem Follows.ended_of_dead (follows : Follows replay budget past chunks running)
    (dead : running.link.isAlive = false) (isOpen : running.link.isOpen = true) :
    running.link.reader = .ended := by
  have spent : budget ≤ failuresInARow past := by simpa [isOpen] using follows.dead.mp dead
  cases reader : running.link.reader with
  | ended => rfl
  | waiting found =>
      obtain ⟨-, rfl, -⟩ := follows.waiting found reader
      have positive : 0 < running.link.budget :=
        Nat.lt_of_lt_of_le Nat.zero_lt_one (Nat.le_max_left ..)
      rw [follows.budgeted] at positive
      exact absurd spent (Nat.not_le_of_lt positive)
  | reading failures =>
      obtain ⟨-, rfl, within⟩ := follows.reading failures reader
      exact absurd spent (Nat.not_le_of_lt within)

/-- What a link refuses once its owner has let go of the device. -/
theorem Follows.refuses (follows : Follows replay budget past chunks running)
    (closed : running.link.isOpen = false) :
    running.link.isAlive = false ∧
      running.link.startReader =
        (.error (.alreadyRunning (running.link.port ++ " reader")), running.link) ∧
      ∀ {σ : Type} (device : Transport σ) (data : Bytes) (s : σ),
        running.link.write device data s = (.error .notConnected, running.link, s) := by
  refine ⟨follows.dead.mpr (.inl closed), ?_, fun device data s => ?_⟩
  · unfold Link.startReader
    cases reader : running.link.reader with
    | waiting found =>
        obtain ⟨-, -, isOpen⟩ := follows.waiting found reader
        rw [closed] at isOpen
        cases isOpen
    | reading failures => rfl
    | ended => rfl
  · simp [Link.write, closed]

theorem run_poll_learn {link : Link} (reading : link.isReading = true)
    (outcome : Except Fault Bytes) (later : List Step) :
    run { link, isWanted := true } (.poll :: .learn outcome :: later) =
      ((link.observe outcome).1.toList ++
          (run { link := (link.observe outcome).2, isWanted := true } later).1,
        (run { link := (link.observe outcome).2, isWanted := true } later).2) := by
  simp [run, RunningLink.step, RunningLink.poll, RunningLink.learn, reading]

/-- A reader that polls a device while nobody closes the link goes through such steps. -/
theorem exists_run_readWhile {σ : Type} (device : Transport σ) (polls : Nat) (link : Link) (s : σ) :
    ∃ steps, .release ∉ steps ∧ run { link, isWanted := true } steps =
      ((Link.readWhile device polls link s).1,
        { link := (Link.readWhile device polls link s).2.1, isWanted := true }) := by
  induction polls generalizing link s with
  | zero => exact ⟨[], by simp, rfl⟩
  | succ polls inductionHypothesis =>
      unfold Link.readWhile
      cases reading : link.isReading with
      | false => exact ⟨[], by simp, rfl⟩
      | true =>
          cases polled : Link.pollDevice device s with
          | mk outcome after =>
              obtain ⟨later, unreleased, others⟩ :=
                inductionHypothesis (link.observe outcome).2 after
              simp only [if_true]
              split
              next =>
                refine ⟨[.poll, .learn (.ok [])], by simp, ?_⟩
                have nothing : (link.observe (.ok [])).1 = none := by
                  unfold Link.observe
                  split <;> simp_all
                rw [run_poll_learn reading, nothing]
                rfl
              next =>
                refine ⟨.poll :: .learn outcome :: later, by simpa using unreleased, ?_⟩
                rw [run_poll_learn reading, others]

/-- Whatever the polls bring, and whenever the owner starts and closes: the reader hands over the
replay when it is started, which it is once at most, and after that what its polls have brought, in
order and once each.  The link is dead when it has been closed, or as many polls in a row as the
budget says have failed while the reader was wanted, and never otherwise.  A reader that has ended,
by death or before the device was let go of, hands over nothing any more; the link stays dead; and
once closed, it takes no writes and no second start. -/
theorem reader_hands_over_within_budget {σ : Type} {device : Transport σ} {port : String}
    {options : LinkOptions} {greeting : Greeting} {s last : σ} {link : Link}
    (linked : Link.ofGreeting device port options greeting s = (.ok link, last))
    (steps : List Step) :
    let history := history { link } steps
    let running := (RunningLink.run { link } steps).2
    ((history = [] ∨ ∃ polls, history = .started :: polls ∧ .started ∉ polls) ∧
      (RunningLink.run { link } steps).1 =
        history.flatMap (ReaderEvent.handed greeting.replay)) ∧
    (running.link.isAlive = false ↔
      .release ∈ steps ∨ max 1 options.maxFailures ≤ failuresInARow history) ∧
    (running.link.isAlive = false → .release ∉ steps → running.link.reader = .ended) ∧
    (running.link.isReading = false →
      running.release.link = running.link.close ∧ running.release.link.reader = .ended) ∧
    ∀ later,
      let after := (running.run later).2
      (running.link.reader = .ended → (running.run later).1 = []) ∧
      (running.link.isAlive = false → after.link.isAlive = false) ∧
      (.release ∈ steps →
        after.link.startReader =
            (.error (.alreadyRunning (after.link.port ++ " reader")), after.link) ∧
          ∀ data world,
            after.link.write device data world = (.error .notConnected, after.link, world)) := by
  intro history running
  obtain ⟨waiting, isOpen, isAlive, budgeted⟩ :
      link.reader = .waiting greeting.replay ∧ link.isOpen = true ∧ link.isAlive = true ∧
        link.budget = max 1 options.maxFailures := by
    obtain rfl := Link.eq_of_ofGreeting linked
    exact ⟨rfl, rfl, rfl, rfl⟩
  have fresh : Follows greeting.replay _ [] [] { link } := follows_fresh waiting isOpen isAlive
  rw [budgeted] at fresh
  have follows := fresh.run steps
  simp only [List.nil_append] at follows
  have closed : running.link.isOpen = false ↔ .release ∈ steps := by
    simpa [isOpen] using isOpen_run { link } steps
  refine ⟨⟨follows.begun, follows.handed⟩, ?_, ?_, ?_, fun later => ⟨?_, ?_, ?_⟩⟩
  · rw [← closed]
    exact follows.dead
  · intro dead unclosed
    rw [← closed, Bool.not_eq_false] at unclosed
    exact follows.ended_of_dead dead unclosed
  · intro idle
    simp [RunningLink.release, idle, Link.close]
  · exact fun ended => run_of_ended ended later
  · exact (settles_run running later).dead
  · intro released
    have stillClosed := (settles_run running later).closed (closed.mpr released)
    obtain ⟨-, unstarted, unwritten⟩ := (follows.run later).refuses stillClosed
    exact ⟨unstarted, unwritten device⟩

/-- A link that survives one failure in a row, and not two. -/
def twoFailures : Link where
  port := "/dev/ttyACM0"
  vehicle := ⟨1, 1⟩
  maxFailures := 2
  reader := .waiting [0xFD, 9]

/-- Every success restarts the count, also that of a poll which brings nothing. -/
def untilDeath : List Step :=
  let unplugged : Except Fault Bytes := .error .notConnected
  [.start, .poll, .learn (.ok [1, 2]), .poll, .learn unplugged, .poll, .learn (.ok []), .poll,
    .learn unplugged, .poll, .learn (.ok [3]), .poll, .learn unplugged, .poll, .learn unplugged]

theorem reader_hands_over_within_budget_twoFailures :
    let dead := (RunningLink.run { link := twoFailures } untilDeath).2
    Link.ofGreeting ScriptedDevice.transport "/dev/ttyACM0" { maxFailures := 2 }
        ⟨⟨1, 1⟩, [0xFD, 9]⟩ ({ polls := [] } : ScriptedDevice) =
          (.ok twoFailures, { polls := [] }) ∧
      (RunningLink.run { link := twoFailures } untilDeath).1 = [[0xFD, 9], [1, 2], [3]] ∧
      dead.link.isAlive = false ∧ dead.link.reader = .ended ∧
      (∀ later, (dead.run later).1 = []) ∧
      (RunningLink.run { link := twoFailures } (untilDeath.take 13)).2.link.isAlive = true := by
  intro dead
  have linked : Link.ofGreeting ScriptedDevice.transport "/dev/ttyACM0" { maxFailures := 2 }
      ⟨⟨1, 1⟩, [0xFD, 9]⟩ ({ polls := [] } : ScriptedDevice) =
        (.ok twoFailures, { polls := [] }) := rfl
  obtain ⟨⟨-, handed⟩, deadIff, ended, -, later⟩ :=
    reader_hands_over_within_budget linked untilDeath
  have isDead : dead.link.isAlive = false := deadIff.mpr (.inr (by decide))
  have hasEnded : dead.link.reader = .ended := ended isDead (by simp [untilDeath])
  refine ⟨linked, handed.trans (by decide), isDead, hasEnded, ?_, by decide⟩
  exact fun steps => (later steps).1 hasEnded

end RunningLink

end MavBridge
