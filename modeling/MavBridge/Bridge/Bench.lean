import MavBridge.Bridge.Basic
import MavBridge.Device.Memory
import MavBridge.Output.Network
import MavBridge.Output.Recorder

/-!
A bridge that is being tried out: devices in memory, outputs that record, and no serial ports.
-/

namespace MavBridge

/-- The world of a bridge that is being tried out. -/
structure Bench where
  outputs : RouterBench := {}
  network : Network := {}
  devices : List MemoryDevice := []
  deriving Repr

namespace Bench

def device (bench : Bench) (number : Nat) : MemoryDevice := bench.devices[number]?.getD {}

def setDevice (bench : Bench) (number : Nat) (device : MemoryDevice) : Bench :=
  { bench with devices := bench.devices.set number device }

/-- Put a device on the bench; the answer is its number. -/
def plug (bench : Bench) (device : MemoryDevice) : Nat × Bench :=
  (bench.devices.length, { bench with devices := bench.devices ++ [device] })

def station : Station Bench Recorder where
  outlets := Recorder.outlets.within Bench.outputs fun outputs bench => { bench with outputs }
  device number :=
    MemoryDevice.transport.within (·.device number)
      fun device bench => bench.setDevice number device
  openPort _ _ bench := (.error (.serial "No such file or directory"), bench)
  release _ bench := bench
  listen address bench :=
    let (calls, network) := bench.network.listen address
    (calls, { bench with network })
  unlisten endpoint bench := { bench with network := bench.network.unbind endpoint }
  now _ := 1

end Bench

end MavBridge
