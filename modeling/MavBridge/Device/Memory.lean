import MavBridge.Device.Transport
import MavBridge.Frame.Stream
import MavBridge.Param.Value

/-!
Devices in memory: one that can be told to fail and that answers requests about parameters, and one
that takes only so many bytes at a time.
-/

namespace MavBridge

/-- How writing to a device goes wrong. -/
inductive WriteFault where
  | fails (kind : IoKind)
  | takesNothing
  deriving DecidableEq, Repr

/-- A device in memory. When the bytes written to it complete a request about a parameter, the
replies under its name become readable. -/
structure MemoryDevice where
  readable : Bytes := []
  written : Bytes := []
  availableFault : Option IoKind := none
  readFault : Option IoKind := none
  writeFault : Option WriteFault := none
  /-- What is wrong with a second handle. -/
  duplicateFault : Option Fault := none
  requests : Extractor := {}
  replies : List (String × List Bytes) := []
  deriving Repr

namespace MemoryDevice

def inject (device : MemoryDevice) (bytes : Bytes) : MemoryDevice :=
  { device with readable := device.readable ++ bytes }

/-- The replies to a frame. -/
def repliesTo (device : MemoryDevice) (frame : Bytes) : List Bytes :=
  match (Message.read? frame).bind fun (_, message) => message.paramRequest? with
  | none => []
  | some (name, _) =>
      ((device.replies.find? fun entry => entry.1 == name).map (·.2)).getD []

/-- Answer the requests that `bytes` complete. -/
def respond (device : MemoryDevice) (bytes : Bytes) : MemoryDevice :=
  let (frames, requests) := (device.requests.push bytes).drain
  { device with requests }.inject (frames.flatMap device.repliesTo).flatten

def available (device : MemoryDevice) : Except Fault Nat :=
  match device.availableFault with
  | some kind => .error (.ofKind kind)
  | none => .ok device.readable.length

def read (device : MemoryDevice) (limit : Nat) : Except Fault Bytes × MemoryDevice :=
  match device.readFault with
  | some kind => (.error (.ofKind kind), device)
  | none =>
      (.ok (device.readable.take limit), { device with readable := device.readable.drop limit })

def write (device : MemoryDevice) (bytes : Bytes) : Except Fault Nat × MemoryDevice :=
  let answered := device.respond bytes
  match device.writeFault with
  | some (.fails kind) => (.error (.ofKind kind), answered)
  | some .takesNothing => (.ok 0, answered)
  | none => (.ok bytes.length, { answered with written := device.written ++ bytes })

def duplicate (device : MemoryDevice) : Except Fault Unit :=
  match device.duplicateFault with
  | some fault => .error fault
  | none => .ok ()

/-- The device as a transport. Polling again helps only while there are bytes to read. -/
def transport : Transport MemoryDevice where
  available device := (device.available, device)
  read limit device := device.read limit
  write bytes device := device.write bytes
  flush device := (.ok (), device)
  duplicate device := (device.duplicate, device)
  pollsWithin time device := if time.nanoseconds = 0 then 0 else device.readable.length + 1

end MemoryDevice

/-- A device that takes at most so many bytes in each write, or fails in it; after the last limit it
takes everything. -/
structure MeteredDevice where
  limits : List (Except IoKind Nat)
  /-- What was taken in each write. -/
  taken : List Bytes := []
  isFlushed : Bool := false

namespace MeteredDevice

def write (device : MeteredDevice) (bytes : Bytes) : Except Fault Nat × MeteredDevice :=
  match device.limits with
  | .error kind :: limits => (.error (.ofKind kind), { device with limits })
  | .ok limit :: limits =>
      (.ok (bytes.take limit).length,
        { device with limits, taken := device.taken ++ [bytes.take limit] })
  | [] => (.ok bytes.length, { device with taken := device.taken ++ [bytes] })

/-- The device as a transport that has nothing to read. -/
def transport : Transport MeteredDevice where
  available device := (.ok 0, device)
  read _ device := (.ok [], device)
  write bytes device := device.write bytes
  flush device := (.ok (), { device with isFlushed := true })
  duplicate device := (.ok (), device)
  pollsWithin _ _ := 0

end MeteredDevice

end MavBridge
