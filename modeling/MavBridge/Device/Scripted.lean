import MavBridge.Device.Transport

/-!
A device that follows a script: each time it is asked for bytes while it has none, the next entry of
the script says what happens.
-/

namespace MavBridge

/-- An entry of the script. -/
inductive Poll where
  /-- Bytes arrive. -/
  | arrives (chunk : Bytes)
  /-- The question for bytes fails. -/
  | availableFails (kind : IoKind)
  /-- A byte is announced, and reading it fails. -/
  | readFails (kind : IoKind)
  /-- A byte is announced that is not there. -/
  | phantom
  /-- Nothing arrives. -/
  | idle
  deriving Repr

/-- A device with the rest of its script, and a record of what was read. -/
structure ScriptedDevice where
  polls : List Poll
  current : Bytes := []
  /-- What the next read gives when nothing is there. -/
  announced : Option (Option IoKind) := none
  /-- Bytes that one read gives at most. -/
  readLimit : Option Nat := none
  reads : List Nat := []
  deriving Repr

namespace ScriptedDevice

def available (device : ScriptedDevice) : Except Fault Nat × ScriptedDevice :=
  if device.current.isEmpty then
    match device.polls with
    | [] => (.ok 0, device)
    | .arrives chunk :: polls => (.ok chunk.length, { device with polls, current := chunk })
    | .availableFails kind :: polls => (.error (.ofKind kind), { device with polls })
    | .readFails kind :: polls => (.ok 1, { device with polls, announced := some (some kind) })
    | .phantom :: polls => (.ok 1, { device with polls, announced := some none })
    | .idle :: polls => (.ok 0, { device with polls })
  else (.ok device.current.length, device)

def read (device : ScriptedDevice) (limit : Nat) : Except Fault Bytes × ScriptedDevice :=
  match device.announced with
  | some (some kind) => (.error (.ofKind kind), { device with announced := none })
  | some none => (.ok [], { device with announced := none, reads := device.reads ++ [0] })
  | none =>
      let count := min limit (device.readLimit.getD limit)
      let chunk := device.current.take count
      (.ok chunk,
        { device with
          current := device.current.drop count, reads := device.reads ++ [chunk.length] })

/-- Bytes that are still to arrive. -/
def remaining (device : ScriptedDevice) : Nat :=
  (device.current ++ device.polls.flatMap fun
    | .arrives chunk => chunk
    | _ => []).length

/-- The device as a transport that only reads. -/
def transport : Transport ScriptedDevice where
  available := available
  read limit device := device.read limit
  write bytes device := (.ok bytes.length, device)
  flush device := (.ok (), device)
  duplicate device := (.ok (), device)
  pollsWithin time device :=
    if time.nanoseconds = 0 then 0 else device.polls.length + device.remaining + 1

end ScriptedDevice

end MavBridge
