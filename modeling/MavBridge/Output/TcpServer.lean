import MavBridge.Bytes
import MavBridge.Fault
import MavBridge.Network.Sockets

/-!
An output that listens and sends every frame to each client that has connected.

Every client has a reader and a writer at work, and a queue of frames for the writer, so that one
that does not read delays nobody; a client whose queue is full is shut down. A client leaves by its
address.

Each step here happens at once: admitting a connection, sending a frame, what one worker does, and
the parts of stopping, which shuts down the clients, forgets the workers, and ends. Between two
parts of stopping the other steps may come. A connection takes no step that is not its next.
-/

namespace MavBridge

/-- How far a worker of a connection has come. -/
inductive WorkerStage where
  | working
  /-- It has seen the end of the connection, and has not yet said so. -/
  | leaving
  | ended
  deriving DecidableEq, Repr

/-- A connection that the listener accepted. It has workers once it has been admitted. -/
structure Connection where
  number : Nat
  address : Endpoint
  isShut : Bool := false
  /-- Frames for the writer, the oldest first. -/
  queue : List Bytes := []
  /-- What is left of the frame that the writer writes. -/
  inHand : Option Bytes := none
  written : Bytes := []
  reader : Option WorkerStage := none
  writer : Option WorkerStage := none
  deriving DecidableEq, Repr

/-- A thread that is waited for when the output stops. -/
inductive Worker where
  | acceptor
  | reader (number : Nat)
  | writer (number : Nat)
  deriving DecidableEq, Repr

/-- The outcomes of the socket calls of a start, in order. -/
structure ListenCalls where
  bind : Except Fault Endpoint
  configure : Except Fault Unit := .ok ()
  localAddress : Except Fault Endpoint
  deriving Repr

structure TcpServer where
  id : String
  bindAddress : String
  isRunning : Bool := false
  localAddress : Option Endpoint := none
  /-- Every connection that was accepted. -/
  connections : List Connection := []
  /-- The numbers of the clients, in the order of their admission. -/
  clients : List Nat := []
  workers : List Worker := []
  /-- How often a change was told. -/
  changes : Nat := 0
  /-- What clients have sent. -/
  received : List Bytes := []
  deriving DecidableEq, Repr

namespace TcpServer

/-- Frames that wait for one client before it counts as stalled. -/
def queueCapacity : Nat := 256

def create (id bindAddress : String) : TcpServer := { id, bindAddress }

/-- Bind and listen. -/
def start (calls : ListenCalls) (server : TcpServer) : Except Fault String × TcpServer :=
  if server.isRunning then (.error (.alreadyRunning server.id), server)
  else
    match calls.bind, calls.configure, calls.localAddress with
    | .error fault, _, _ => (.error fault, server)
    | _, .error fault, _ => (.error fault, server)
    | _, _, .error fault => (.error fault, server)
    | .ok _, .ok (), .ok endpoint =>
        (.ok ("TCP server listening on " ++ endpoint.text),
          { server with
            isRunning := true
            localAddress := some endpoint
            workers := server.workers ++ [.acceptor] })

def connection? (server : TcpServer) (number : Nat) : Option Connection :=
  server.connections.find? fun connection => connection.number == number

def alter (server : TcpServer) (number : Nat) (change : Connection → Connection) : TcpServer :=
  { server with
    connections := server.connections.map fun connection =>
      if connection.number = number then change connection else connection }

/-- Shut some connections down. -/
def shut (server : TcpServer) (numbers : List Nat) : TcpServer :=
  { server with
    connections := server.connections.map fun connection =>
      if connection.number ∈ numbers then { connection with isShut := true } else connection }

def tellChange (server : TcpServer) : TcpServer := { server with changes := server.changes + 1 }

/-- The listener accepts a connection. -/
def accept (server : TcpServer) (address : Endpoint) : TcpServer :=
  { server with
    connections := server.connections ++ [{ number := server.connections.length, address }] }

/-- Both workers of a connection have ended. -/
def hasEnded (server : TcpServer) : Worker → Bool
  | .acceptor => false
  | .reader number => ((server.connection? number).bind (·.reader)) == some .ended
  | .writer number => ((server.connection? number).bind (·.writer)) == some .ended

/-- Forget the workers that have ended. -/
def reap (server : TcpServer) : TcpServer :=
  { server with workers := server.workers.filter fun worker => !server.hasEnded worker }

/-- A connection has been accepted, and neither admitted nor given up. -/
def awaits (server : TcpServer) (number : Nat) : Bool :=
  (server.connection? number).any fun connection =>
    connection.reader.isNone && !connection.isShut

/-- Admit a connection that awaits it, or refuse it when the output is stopping. -/
def register (server : TcpServer) (number : Nat) : TcpServer :=
  if !server.awaits number then server
  else if server.isRunning then
    { server.alter number fun connection =>
        { connection with reader := some .working, writer := some .working } with
      clients := server.clients ++ [number]
      workers := server.workers ++ [Worker.reader number, Worker.writer number] }.tellChange
  else server.shut [number]

/-- Admit a connection that awaits it, when no writer can be started; it is shut down. -/
def registerUnserved (server : TcpServer) (number : Nat) : TcpServer :=
  if server.awaits number && server.isRunning then
    { server.alter number fun connection =>
        { connection with reader := some .working, writer := some .ended, isShut := true } with
      clients := server.clients ++ [number]
      workers := server.workers ++ [Worker.reader number] }
  else server

/-- A connection is given up before it is admitted. -/
def abandon (server : TcpServer) (number : Nat) : TcpServer :=
  if server.awaits number then server.shut [number] else server

/-- A frame can be queued for a client: its writer is there, and the queue is not full. -/
def accepts (server : TcpServer) (number : Nat) : Bool :=
  match server.connection? number with
  | none => false
  | some connection =>
      connection.writer != some .ended && decide (connection.queue.length < queueCapacity)

/-- Queue a frame for some clients. -/
def enqueue (server : TcpServer) (numbers : List Nat) (frame : Bytes) : TcpServer :=
  { server with
    connections := server.connections.map fun connection =>
      if connection.number ∈ numbers then { connection with queue := connection.queue ++ [frame] }
      else connection }

/-- Queue a frame for every client; one for which it cannot be queued is shut down and removed. -/
def fanOut (server : TcpServer) (frame : Bytes) : Except Fault Nat × TcpServer :=
  let kept := server.clients.filter server.accepts
  let pruned := server.clients.filter fun number => !server.accepts number
  let served := { (server.enqueue kept frame).shut pruned with clients := kept }
  if pruned.isEmpty then (.ok kept.length, served)
  else if kept.isEmpty then
    (.error (.other ("All " ++ toString pruned.length ++ " client(s) of '" ++ server.id
      ++ "' failed")), served.tellChange)
  else (.ok kept.length, served.tellChange)

def send (server : TcpServer) (frame : Bytes) : Except Fault Nat × TcpServer :=
  if !server.isRunning then (.error (.notRunning server.id), server) else server.fanOut frame

/-- The writer takes the next frame. -/
def takeFrame (server : TcpServer) (number : Nat) : TcpServer :=
  server.alter number fun connection =>
    match connection.writer, connection.inHand, connection.queue with
    | some .working, none, frame :: queue => { connection with inHand := some frame, queue }
    | _, _, _ => connection

/-- The writer writes so many bytes of the frame in hand, or fails to. -/
def writeSome (server : TcpServer) (number : Nat) (outcome : Except Unit Nat) : TcpServer :=
  server.alter number fun connection =>
    match connection.writer, connection.inHand, outcome with
    | some .working, some rest, .ok count =>
        let left := rest.drop count
        { connection with
          written := connection.written ++ rest.take count
          inHand := if left.isEmpty then none else some left }
    | some .working, some _, .error () => { connection with writer := some .leaving }
    | _, _, _ => connection

/-- The writer of a client that was removed ends once its queue is empty. -/
def endWriter (server : TcpServer) (number : Nat) : TcpServer :=
  if number ∈ server.clients then server
  else
    server.alter number fun connection =>
      match connection.writer, connection.inHand, connection.queue with
      | some .working, none, [] => { connection with writer := some .ended }
      | _, _, _ => connection

/-- A client has sent something. -/
def deliver (server : TcpServer) (number : Nat) (chunk : Bytes) : TcpServer :=
  match (server.connection? number).bind (·.reader) with
  | some .working => { server with received := server.received ++ [chunk] }
  | _ => server

/-- The reader sees the end of the connection or that the output stops. -/
def endReader (server : TcpServer) (number : Nat) : TcpServer :=
  server.alter number fun connection =>
    match connection.reader with
    | some .working => { connection with reader := some .leaving }
    | _ => connection

/-- Remove the clients with an address, and tell if there were any. -/
def clientLeft (server : TcpServer) (address : Endpoint) : TcpServer :=
  let gone := server.clients.filter fun number =>
    (server.connection? number).any fun connection => connection.address == address
  if gone.isEmpty then server
  else
    { server.shut gone with
      clients := server.clients.filter fun number => !gone.contains number }.tellChange

/-- A worker that has seen the end of its connection says so. -/
def leave (server : TcpServer) (worker : Worker) : TcpServer :=
  match worker with
  | .acceptor => server
  | .reader number =>
      match server.connection? number with
      | some { address, reader := some .leaving, .. } =>
          (server.clientLeft address).alter number fun connection =>
            { connection with reader := some .ended }
      | _ => server
  | .writer number =>
      match server.connection? number with
      | some { address, writer := some .leaving, .. } =>
          (server.clientLeft address).alter number fun connection =>
            { connection with writer := some .ended }
      | _ => server

/-- Stopping, first: no connection is admitted any more. -/
def close (server : TcpServer) : TcpServer := { server with isRunning := false }

/-- Stopping, second: the clients are shut down. -/
def drainClients (server : TcpServer) : TcpServer :=
  { server.shut server.clients with clients := [] }

/-- Stopping, third: the workers are taken, to be waited for. -/
def takeWorkers (server : TcpServer) : TcpServer := { server with workers := [] }

/-- Stopping, last. -/
def forgetAddress (server : TcpServer) : TcpServer := { server with localAddress := none }

/-- Stop; nothing happens to an output that does not run. -/
def stop (server : TcpServer) : TcpServer :=
  if server.isRunning then server.close.drainClients.takeWorkers.forgetAddress else server

/-- The steps of the output's owner and of its workers. -/
inductive Step where
  | start (calls : ListenCalls)
  | accept (address : Endpoint)
  | reap
  | register (number : Nat)
  | registerUnserved (number : Nat)
  | abandon (number : Nat)
  | send (frame : Bytes)
  /-- The rest of a send that found the output running. -/
  | fanOut (frame : Bytes)
  | takeFrame (number : Nat)
  | writeSome (number : Nat) (outcome : Except Unit Nat)
  | endWriter (number : Nat)
  | deliver (number : Nat) (chunk : Bytes)
  | endReader (number : Nat)
  | leave (worker : Worker)
  | close
  | drainClients
  | takeWorkers
  | forgetAddress
  deriving Repr

def step (server : TcpServer) : Step → TcpServer
  | .start calls => (server.start calls).2
  | .accept address => server.accept address
  | .reap => server.reap
  | .register number => server.register number
  | .registerUnserved number => server.registerUnserved number
  | .abandon number => server.abandon number
  | .send frame => (server.send frame).2
  | .fanOut frame => (server.fanOut frame).2
  | .takeFrame number => server.takeFrame number
  | .writeSome number outcome => server.writeSome number outcome
  | .endWriter number => server.endWriter number
  | .deliver number chunk => server.deliver number chunk
  | .endReader number => server.endReader number
  | .leave worker => server.leave worker
  | .close => server.close
  | .drainClients => server.drainClients
  | .takeWorkers => server.takeWorkers
  | .forgetAddress => server.forgetAddress

def run (server : TcpServer) (steps : List Step) : TcpServer := steps.foldl step server

end TcpServer

end MavBridge
