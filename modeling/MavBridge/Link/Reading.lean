import MavBridge.Link.Basic

/-!
The reader of a link at work, and the owner who closes the link.

The reader looks whether it is still wanted before each poll. Closing asks it to end, waits for it,
and lets go of the device; the owner does not wait for ever, so that a late reader may still be in a
poll by then. What a poll brings is handed over in any case, but a reader that is not wanted any
more does not declare its link dead.
-/

namespace MavBridge

/-- A link with its reader. -/
structure RunningLink where
  link : Link
  /-- The reader has been started, and has not been asked to end. -/
  isWanted : Bool := false
  /-- The reader is in a poll. -/
  isPolling : Bool := false
  deriving DecidableEq, Repr

namespace RunningLink

/-- The steps of the reader and of the link's owner. -/
inductive Step where
  /-- The owner starts the reader, which hands over what was read before. -/
  | start
  /-- The reader begins a poll. -/
  | poll
  /-- The poll ends. -/
  | learn (outcome : Except Fault Bytes)
  /-- The reader sees that it is not wanted, and ends. -/
  | leave
  /-- Closing, first: the reader is asked to end. -/
  | ask
  /-- Closing, last: the owner lets go of the device, whether or not the reader has ended. -/
  | release
  deriving Repr

def start (running : RunningLink) : List Bytes × RunningLink :=
  match running.link.startReader with
  | (.ok replay, link) =>
      (if replay.isEmpty then [] else [replay], { running with link, isWanted := true })
  | (.error _, _) => ([], running)

def poll (running : RunningLink) : RunningLink :=
  if running.link.isReading && running.isWanted then { running with isPolling := true } else running

/-- The reader learns the outcome of its poll, and hands over what it has brought. -/
def learn (running : RunningLink) (outcome : Except Fault Bytes) : List Bytes × RunningLink :=
  if running.isPolling then
    let (chunk, link) := running.link.observe outcome
    (chunk.toList,
      { running with link := if running.isWanted then link else running.link, isPolling := false })
  else ([], running)

def leave (running : RunningLink) : RunningLink :=
  if running.link.isReading && !running.isWanted && !running.isPolling then
    { running with link := { running.link with reader := .ended } }
  else running

def ask (running : RunningLink) : RunningLink := { running with isWanted := false }

def release (running : RunningLink) : RunningLink :=
  if running.link.isReading then
    { running with link := { running.link.close with reader := running.link.reader } }
  else { running with link := running.link.close }

/-- One step; the answer is what is handed over, if anything is. -/
def step (running : RunningLink) : Step → List Bytes × RunningLink
  | .start => running.start
  | .poll => ([], running.poll)
  | .learn outcome => running.learn outcome
  | .leave => ([], running.leave)
  | .ask => ([], running.ask)
  | .release => ([], running.release)

/-- Steps one after the other; the answer is what is handed over, in order. -/
def run (running : RunningLink) : List Step → List Bytes × RunningLink
  | [] => ([], running)
  | step :: later =>
      let (first, next) := running.step step
      let (others, last) := next.run later
      (first ++ others, last)

end RunningLink

end MavBridge
