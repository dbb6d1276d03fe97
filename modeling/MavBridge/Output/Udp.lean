import MavBridge.Bytes
import MavBridge.Fault
import MavBridge.Network.Sockets

/-!
An output that sends each frame in a datagram to one remote end, and reads the replies.
-/

namespace MavBridge

/-- The outcomes of the socket calls of a start, in order. -/
structure DatagramCalls where
  resolve : Except Fault Endpoint
  bind : Except Fault Unit
  configure : Except Fault Unit := .ok ()
  duplicate : Except Fault Unit := .ok ()
  localAddress : Except Fault Endpoint
  deriving Repr

/-- The socket of an output that has started, and the remote end. -/
structure DatagramSocket where
  localAddress : Endpoint
  remote : Endpoint
  deriving DecidableEq, Repr

structure UdpOutput where
  id : String
  remote : String
  isRunning : Bool := false
  socket : Option DatagramSocket := none
  /-- Readers that are at work. -/
  readers : Nat := 0
  received : List Bytes := []
  deriving DecidableEq, Repr

namespace UdpOutput

def create (id remote : String) : UdpOutput := { id, remote }

/-- Where to bind for a remote end: any address of its version. -/
def anyAddress (remote : Endpoint) : Endpoint :=
  match remote.ip with
  | .v4 _ => ⟨.v4 [0, 0, 0, 0], 0⟩
  | .v6 _ => ⟨.v6 [0, 0, 0, 0, 0, 0, 0, 0], 0⟩

/-- Bind, and start the reader; the address of the near end is asked for last. -/
def start (calls : DatagramCalls) (output : UdpOutput) : Except Fault String × UdpOutput :=
  if output.socket.isSome then (.error (.alreadyRunning output.id), output)
  else
    match calls.resolve, calls.bind, calls.configure, calls.duplicate with
    | .error fault, _, _, _ => (.error fault, output)
    | _, .error fault, _, _ => (.error fault, output)
    | _, _, .error fault, _ => (.error fault, output)
    | _, _, _, .error fault => (.error fault, output)
    | .ok remote, .ok (), .ok (), .ok () =>
        let reading := { output with isRunning := true, readers := output.readers + 1 }
        match calls.localAddress with
        | .error fault => (.error fault, reading)
        | .ok localAddress =>
            (.ok ("Sending to " ++ remote.text ++ " from " ++ localAddress.text),
              { reading with socket := some ⟨localAddress, remote⟩ })

/-- Close the socket; nothing happens without one. -/
def stop (output : UdpOutput) : UdpOutput :=
  if output.socket.isSome then { output with isRunning := false, socket := none, readers := 0 }
  else output

/-- Send a frame; `sendTo` is what the socket makes of it. -/
def send (output : UdpOutput) (sendTo : Endpoint → Except Fault Unit) : Except Fault Nat :=
  match output.socket with
  | none => .error (.notRunning output.id)
  | some socket => (sendTo socket.remote).map fun () => 1

/-- A datagram has come in. -/
def deliver (output : UdpOutput) (chunk : Bytes) : UdpOutput :=
  { output with received := output.received ++ [chunk] }

def localAddress (output : UdpOutput) : Option Endpoint := output.socket.map (·.localAddress)

end UdpOutput

end MavBridge
