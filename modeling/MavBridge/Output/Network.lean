import MavBridge.Output.TcpClient
import MavBridge.Output.TcpServer
import MavBridge.Output.Udp
import MavBridge.Router.Basic
import MavBridge.Store.OutputStore

/-!
The three kinds of network outputs as the channels of a router.
-/

namespace MavBridge

inductive NetworkOutput where
  | server (server : TcpServer)
  | client (client : TcpClient)
  | datagram (output : UdpOutput)
  deriving Repr

/-- The sockets of a machine, and where it keeps the list of outputs. -/
structure Machine where
  network : Network := {}
  store : OutputStore := .memory []
  deriving Repr

namespace Network

/-- The outcomes of listening at an address, and the endpoint taken. -/
def listen (network : Network) (address : String) : ListenCalls × Network :=
  match network.resolve address with
  | .error fault => (⟨.error fault, .ok (), .error fault⟩, network)
  | .ok endpoint =>
      match network.bind endpoint with
      | (.error kind, network) =>
          (⟨.error (.ofSocket kind kind.systemText? address), .ok (), .error (.ofSystem kind)⟩,
            network)
      | (.ok chosen, network) => (⟨.ok chosen, .ok (), .ok chosen⟩, network)

/-- The outcomes of connecting to an address. -/
def connectCalls (network : Network) (address : String) : ConnectCalls :=
  match network.resolve address with
  | .error fault => ⟨.error fault, .error fault, .ok (), .ok ()⟩
  | .ok endpoint =>
      ⟨.ok endpoint,
        match network.connect endpoint with
          | .error kind => .error (.ofSocket kind kind.systemText? address)
          | .ok () => .ok ⟨endpoint.ip, 49152 + network.issued⟩,
        .ok (), .ok ()⟩

/-- The outcomes of preparing to send datagrams to an address. -/
def datagramCalls (network : Network) (address : String) : DatagramCalls :=
  match network.resolve address with
  | .error fault => ⟨.error fault, .ok (), .ok (), .ok (), .error fault⟩
  | .ok endpoint =>
      ⟨.ok endpoint, .ok (), .ok (), .ok (),
        .ok ⟨(UdpOutput.anyAddress endpoint).ip, 49152 + network.issued⟩⟩

end Network

namespace NetworkOutput

/-- The output of a configuration. -/
def create (config : OutputConfig) : Except Fault NetworkOutput :=
  match config.kind with
  | .tcpServer => .ok (.server (.create config.id config.address))
  | .tcpClient => .ok (.client (.create config.id config.address))
  | .udp => .ok (.datagram (.create config.id config.address))
  | .unsupported => .error (.unsupportedOutput config.id)

def isRunning : NetworkOutput → Bool
  | server output => output.isRunning
  | client output => output.isRunning
  | datagram output => output.isRunning

def peers : NetworkOutput → Nat
  | server output => output.clients.length
  | client output => output.peers
  | datagram _ => 0

def localAddress : NetworkOutput → Option Endpoint
  | server output => output.localAddress
  | client output => output.localAddress
  | datagram output => output.localAddress

def start (output : NetworkOutput) (network : Network) :
    Except Fault String × NetworkOutput × Network :=
  match output with
  | server output =>
      if output.isRunning then (.error (.alreadyRunning output.id), server output, network)
      else
        let (calls, network) := network.listen output.bindAddress
        ((output.start calls).1, server (output.start calls).2, network)
  | client output =>
      let calls := network.connectCalls output.remote
      ((output.start calls).1, client (output.start calls).2, network)
  | datagram output =>
      let calls := network.datagramCalls output.remote
      ((output.start calls).1, datagram (output.start calls).2,
        { network with issued := network.issued + 1 })

def stop (output : NetworkOutput) (network : Network) : NetworkOutput × Network :=
  match output with
  | server output =>
      (server output.stop, output.localAddress.elim network network.unbind)
  | client output => (client output.stop, network)
  | datagram output => (datagram output.stop, network)

def send (frame : Bytes) (output : NetworkOutput) (network : Network) :
    Except Fault Nat × NetworkOutput :=
  match output with
  | server output => ((output.send frame).1, server (output.send frame).2)
  | client output => ((output.send frame).1, client (output.send frame).2)
  | datagram output =>
      (output.send fun endpoint => (network.sendTo endpoint).mapError Fault.ofSystem,
        datagram output)

/-- Send a frame so many times, up to the first failure. -/
def sendTimes (frame : Bytes) (network : Network) :
    Nat → NetworkOutput → Except Fault Unit × NetworkOutput
  | 0, output => (.ok (), output)
  | count + 1, output =>
      match output.send frame network with
      | (.error fault, output) => (.error fault, output)
      | (.ok _, output) => sendTimes frame network count output

/-- Network outputs as the channels of a router. -/
def outlets : Outlets Machine NetworkOutput where
  create config machine := (create config, machine)
  start output machine :=
    let (outcome, output, network) := output.start machine.network
    (outcome, output, { machine with network })
  stop output machine :=
    let (output, network) := output.stop machine.network
    (output, { machine with network })
  send frame output machine :=
    let (outcome, output) := output.send frame machine.network
    (outcome, output, machine)
  isRunning := isRunning
  peers := peers
  localAddress output := output.localAddress.map (·.text)
  load machine := machine.store.load
  save outputs machine :=
    ((machine.store.save outputs).1, { machine with store := (machine.store.save outputs).2 })
  announce _ machine := machine

end NetworkOutput

end MavBridge
