import MavBridge.Device.Transport

/-!
A serial terminal with a vehicle at its far end.

It is opened for one user at a time: while a handle of one opening is left it cannot be opened
again. Bytes wait in either direction until they are read. Once the far end has hung up nothing can
be read or written any more.
-/

namespace MavBridge

structure Terminal where
  path : String
  /-- What the far end has written and nobody has read. -/
  incoming : Bytes := []
  /-- What was written for the far end and it has not read. -/
  outgoing : Bytes := []
  isHungUp : Bool := false
  /-- The handles that are left of each opening. -/
  openings : List Nat := []
  deriving Repr

namespace Terminal

def isBusy (terminal : Terminal) : Bool := terminal.openings.any (· != 0)

/-- Open the terminal; the answer is the number of the opening. -/
def openDevice (terminal : Terminal) : Except Fault Nat × Terminal :=
  if terminal.isHungUp then (.error (.serial "Input/output error"), terminal)
  else if terminal.isBusy then (.error (.serial "Device or resource busy"), terminal)
  else
    (.ok terminal.openings.length, { terminal with openings := terminal.openings ++ [1] })

/-- Change how many handles are left of an opening. -/
def setHandles (terminal : Terminal) (number : Nat) (change : Nat → Nat) : Terminal :=
  { terminal with openings := terminal.openings.modify number change }

/-- Close all handles of an opening. -/
def release (terminal : Terminal) (number : Nat) : Terminal :=
  terminal.setHandles number fun _ => 0

/-- The far end writes. -/
def feed (terminal : Terminal) (bytes : Bytes) : Terminal :=
  if terminal.isHungUp then terminal else { terminal with incoming := terminal.incoming ++ bytes }

/-- The far end reads so many bytes, if they are there. -/
def farRead (terminal : Terminal) (count : Nat) : Option Bytes × Terminal :=
  if terminal.isHungUp ∨ terminal.outgoing.length < count then (none, terminal)
  else
    (some (terminal.outgoing.take count),
      { terminal with outgoing := terminal.outgoing.drop count })

def hangUp (terminal : Terminal) : Terminal := { terminal with isHungUp := true }

/-- The outcome of an operation, unless the far end has hung up. -/
def unlessHungUp {α : Type} (terminal : Terminal) (fault : Fault) (outcome : α × Terminal) :
    Except Fault α × Terminal :=
  if terminal.isHungUp then (.error fault, terminal) else (.ok outcome.1, outcome.2)

/-- One opening of the terminal as a transport. Polling again helps only while there are bytes to
read. -/
def transport (number : Nat) : Transport Terminal where
  available terminal :=
    terminal.unlessHungUp (.serial "Input/output error") (terminal.incoming.length, terminal)
  read limit terminal :=
    terminal.unlessHungUp (.ofSystem .brokenPipe)
      (terminal.incoming.take limit, { terminal with incoming := terminal.incoming.drop limit })
  write bytes terminal :=
    terminal.unlessHungUp (.ofSystem .brokenPipe)
      (bytes.length, { terminal with outgoing := terminal.outgoing ++ bytes })
  flush terminal := terminal.unlessHungUp (.ofKind .other) ((), terminal)
  duplicate terminal := (.ok (), terminal.setHandles number (· + 1))
  pollsWithin time terminal := if time.nanoseconds = 0 then 0 else terminal.incoming.length + 1

end Terminal

end MavBridge
