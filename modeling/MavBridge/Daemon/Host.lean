import MavBridge.Bridge.Basic
import MavBridge.Device.Terminal
import MavBridge.Output.Network

/-!
The machine that a bridge runs on: its files, its sockets and its serial terminal.
-/

namespace MavBridge

structure Host where
  files : FileSystem := {}
  machine : Machine := {}
  terminal : Terminal
  deriving Repr

namespace Host

/-- Why a path that is not the terminal's cannot be opened as a serial port. -/
def portTrouble (files : FileSystem) (path : String) : String :=
  match files.read (FilePath.ofText path) with
  | .ok _ => "Not a typewriter"
  | .error .isADirectory => "Is a directory"
  | .error .notADirectory => "Not a directory"
  | .error .invalidFilename => "File name too long"
  | .error _ => "No such file or directory"

def openPort (path : String) (host : Host) : Except Fault Nat × Host :=
  if path = host.terminal.path then
    let (device, terminal) := host.terminal.openDevice
    (device, { host with terminal })
  else (.error (.serial (portTrouble host.files path)), host)

/-- The machine as the world of a bridge. -/
def station : Station Host NetworkOutput where
  outlets := NetworkOutput.outlets.within Host.machine fun machine host => { host with machine }
  device number :=
    (Terminal.transport number).within Host.terminal fun terminal host => { host with terminal }
  openPort path _ host := host.openPort path
  release number host := { host with terminal := host.terminal.release number }
  listen address host :=
    let (calls, network) := host.machine.network.listen address
    (calls, { host with machine := { host.machine with network } })
  unlisten endpoint host :=
    let network := host.machine.network.unbind endpoint
    { host with machine := { host.machine with network } }
  now _ := 1

end Host

end MavBridge
