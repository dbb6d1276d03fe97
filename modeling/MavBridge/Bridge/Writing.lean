import MavBridge.Bridge.Egress

/-!
Those who write to a vehicle at work, step by step.

The device is held by one of them at a time, from the first byte of a write to its last, and takes
a write in as many parts as it likes. Meanwhile chunks are relayed, the link may die, and others
wait for the device; so does the owner, who closes the link.
-/

namespace MavBridge

/-- What is written in one piece. -/
structure Parcel where
  data : Bytes
  /-- A relayed chunk, and not a frame that somebody sends. -/
  isRelayed : Bool
  deriving DecidableEq, Repr

/-- A write under way. -/
structure Writing where
  parcel : Parcel
  /-- What the device has not taken yet. -/
  rest : Bytes
  deriving DecidableEq, Repr

/-- An egress, and the write that holds its device. -/
structure RunningEgress where
  egress : Egress
  writing : Option Writing := none
  deriving DecidableEq, Repr

namespace RunningEgress

/-- The steps of those who relay and send, of the writer, of the device, and of the link's reader
and owner. -/
inductive Step where
  | offer (chunk : Bytes)
  /-- The rest of an offer that has found the link alive some time ago. -/
  | enqueue (chunk : Bytes)
  | take
  /-- The writer turns to the device with what it has taken. -/
  | writeHeld
  /-- Somebody turns to the device with a frame. -/
  | send (frame : Bytes)
  /-- Whoever holds the device offers what is left, and learns how many bytes were taken. -/
  | push (answer : Except Fault Nat)
  /-- Whoever holds the device has nothing left, and flushes it. -/
  | flush (answer : Except Fault Unit)
  | observe (outcome : Except Fault Bytes)
  /-- Closing, first: the reader ends. -/
  | leave
  /-- Closing: the owner lets go of the device, which nobody else holds by then. -/
  | release
  /-- Closing: the link is declared dead. -/
  | bury
  /-- Closing, last: the writer takes no more chunks, and ends when it has none in hand. -/
  | halt
  deriving Repr

def begin (running : RunningEgress) (parcel : Parcel) : RunningEgress :=
  { running with writing := some ⟨parcel, parcel.data⟩ }

/-- The device is free again; a writer whose chunk was written has nothing in hand any more. -/
def finish (running : RunningEgress) (parcel : Parcel) : RunningEgress where
  egress :=
    if parcel.isRelayed then { running.egress with inHand := none } else running.egress

/-- The end of a write; only a whole success is counted. -/
def conclude (running : RunningEgress) (parcel : Parcel) :
    Except Fault Unit → RunningEgress
  | .ok () =>
      let link := running.egress.link
      let bytesWritten := link.bytesWritten + parcel.data.length
      { running with egress := { running.egress with link := { link with bytesWritten } } }
        |>.finish parcel
  | .error _ => running.finish parcel

/-- Whoever finds the device held waits; a link that is closed takes nothing. -/
def writeHeld (running : RunningEgress) : RunningEgress :=
  match running.writing, running.egress.inHand with
  | none, some chunk =>
      if running.egress.link.isOpen then running.begin ⟨chunk, true⟩
      else running.finish ⟨chunk, true⟩
  | _, _ => running

def send (running : RunningEgress) (frame : Bytes) : RunningEgress :=
  match running.writing with
  | none => if running.egress.link.isOpen then running.begin ⟨frame, false⟩ else running
  | some _ => running

/-- The answer is what the device takes. A write that fails is not begun again. -/
def push (running : RunningEgress) (answer : Except Fault Nat) : Bytes × RunningEgress :=
  match running.writing with
  | none => ([], running)
  | some writing =>
      if writing.rest.isEmpty then ([], running)
      else
        match answer with
        | .ok (taken + 1) =>
            (writing.rest.take (taken + 1),
              { running with
                writing := some { writing with rest := writing.rest.drop (taken + 1) } })
        | _ => ([], running.finish writing.parcel)

def flush (running : RunningEgress) (answer : Except Fault Unit) : RunningEgress :=
  match running.writing with
  | none => running
  | some writing =>
      if writing.rest.isEmpty then running.conclude writing.parcel answer else running

def release (running : RunningEgress) : RunningEgress :=
  match running.writing with
  | none =>
      let link := { running.egress.link with isOpen := false }
      { running with egress := { running.egress with link } }
  | some _ => running

def halt (running : RunningEgress) : RunningEgress :=
  { running with egress := { running.egress with isRunning := false } }

/-- One step; the answer is what the device takes. -/
def step (running : RunningEgress) : Step → Bytes × RunningEgress
  | .offer chunk => ([], { running with egress := running.egress.offer chunk })
  | .enqueue chunk => ([], { running with egress := running.egress.enqueue chunk })
  | .take => ([], { running with egress := running.egress.take })
  | .writeHeld => ([], running.writeHeld)
  | .send frame => ([], running.send frame)
  | .push answer => running.push answer
  | .flush answer => ([], running.flush answer)
  | .observe outcome => ([], { running with egress := (running.egress.observe outcome).2 })
  | .leave =>
      let link := running.egress.link.abandonReader
      ([], { running with egress := { running.egress with link } })
  | .release => ([], running.release)
  | .bury =>
      let link := { running.egress.link with isAlive := false }
      ([], { running with egress := { running.egress with link } })
  | .halt => ([], running.halt)

/-- Steps one after the other; the answer is all that the device takes, in order. -/
def run (running : RunningEgress) : List Step → Bytes × RunningEgress
  | [] => ([], running)
  | step :: later =>
      let (first, next) := running.step step
      let (others, last) := next.run later
      (first ++ others, last)

end RunningEgress

end MavBridge
