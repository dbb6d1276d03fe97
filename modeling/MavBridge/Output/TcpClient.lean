import MavBridge.Bytes
import MavBridge.Fault
import MavBridge.Network.Sockets

/-!
An output that connects to one remote end.

When the remote end closes the connection the output has stopped, until it is started again.
-/

namespace MavBridge

/-- A connection, what the remote end has received on it, and what the next writes will meet: how
many bytes are taken at most, or a failure. After the last answer everything is taken. -/
structure Stream where
  localAddress : Endpoint
  received : Bytes := []
  answers : List (Except IoKind Nat) := []
  deriving Repr

namespace Stream

/-- Write all bytes; what was taken before a failure has been received. -/
def writeAll (stream : Stream) (data : Bytes) : Except Fault Unit × Stream :=
  if data.isEmpty then (.ok (), stream)
  else
    match _answers : stream.answers with
    | [] => (.ok (), { stream with received := stream.received ++ data })
    | .error .interrupted :: answers => writeAll { stream with answers } data
    | .error kind :: answers => (.error (.ofKind kind), { stream with answers })
    | .ok 0 :: answers => (.error (.ofKind .writeZero), { stream with answers })
    | .ok (count + 1) :: answers =>
        writeAll { stream with received := stream.received ++ data.take (count + 1), answers }
          (data.drop (count + 1))
termination_by stream.answers.length
decreasing_by all_goals simp [_answers]

end Stream

/-- The outcomes of the socket calls of a start, in order. -/
structure ConnectCalls where
  resolve : Except Fault Endpoint
  /-- The address of the near end. -/
  connect : Except Fault Endpoint
  configure : Except Fault Unit := .ok ()
  duplicate : Except Fault Unit := .ok ()
  deriving Repr

structure TcpClient where
  id : String
  remote : String
  isRunning : Bool := false
  stream : Option Stream := none
  /-- Readers that are at work. -/
  readers : Nat := 0
  changes : Nat := 0
  received : List Bytes := []
  deriving Repr

namespace TcpClient

def create (id remote : String) : TcpClient := { id, remote }

/-- Connect. -/
def start (calls : ConnectCalls) (client : TcpClient) : Except Fault String × TcpClient :=
  if client.isRunning then (.error (.alreadyRunning client.id), client)
  else
    match calls.resolve, calls.connect, calls.configure, calls.duplicate with
    | .error fault, _, _, _ => (.error fault, client)
    | _, .error fault, _, _ => (.error fault, client)
    | _, _, .error fault, _ => (.error fault, client)
    | _, _, _, .error fault => (.error fault, client)
    | .ok remote, .ok localAddress, .ok (), .ok () =>
        (.ok ("Connected to " ++ remote.text),
          { client with
            stream := some { localAddress }
            isRunning := true
            readers := client.readers + 1 })

/-- Close the connection. -/
def stop (client : TcpClient) : TcpClient :=
  { client with isRunning := false, stream := none, readers := 0 }

/-- Send a frame. -/
def send (client : TcpClient) (frame : Bytes) : Except Fault Nat × TcpClient :=
  match client.stream with
  | none => (.error (.notRunning client.id), client)
  | some stream =>
      ((stream.writeAll frame).1.map fun () => 1,
        { client with stream := some (stream.writeAll frame).2 })

/-- The remote end has sent something. -/
def deliver (client : TcpClient) (chunk : Bytes) : TcpClient :=
  { client with received := client.received ++ [chunk] }

/-- The reader sees that the remote end has closed the connection. -/
def remoteClosed (client : TcpClient) : TcpClient :=
  if client.isRunning then
    { client with
      isRunning := false, stream := none
      readers := client.readers - 1, changes := client.changes + 1 }
  else { client with readers := client.readers - 1 }

def peers (client : TcpClient) : Nat := if client.stream.isSome then 1 else 0

def localAddress (client : TcpClient) : Option Endpoint := client.stream.map (·.localAddress)

end TcpClient

end MavBridge
