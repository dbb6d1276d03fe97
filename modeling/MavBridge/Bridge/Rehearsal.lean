import MavBridge.Bridge.Bench

/-!
A bridge on the bench, under the hands of somebody who tries it out: who subscribes to its events,
takes over what its outputs hear and announce, and holds its writer up.
-/

namespace MavBridge

/-- A bridge that is being tried out. -/
structure BridgeRehearsal where
  bridge : Bridge Bench Recorder
  subscription : Option Nat := none
  /-- Whether changes of the outputs are told to somebody else than the bridge. -/
  isWatched : Bool := false
  /-- Whether what the outputs hear comes to the bridge. -/
  isRelayed : Bool := true

namespace BridgeRehearsal

def outlets (rehearsal : BridgeRehearsal) : Outlets (Bench × EventHub) Recorder :=
  if rehearsal.isWatched then Bench.station.outlets.beside fun _ hub => hub
  else Bridge.outlets Bench.station

/-- The device that was plugged in last. -/
def device (rehearsal : BridgeRehearsal) : MemoryDevice :=
  rehearsal.bridge.world.device (rehearsal.bridge.world.devices.length - 1)

def setDevice (rehearsal : BridgeRehearsal) (device : MemoryDevice) : BridgeRehearsal :=
  let world := rehearsal.bridge.world
  { rehearsal with bridge.world := world.setDevice (world.devices.length - 1) device }

/-- Give the subscription up. -/
def unsubscribe (rehearsal : BridgeRehearsal) : BridgeRehearsal :=
  let hub := rehearsal.bridge.hub
  { rehearsal with bridge.hub := rehearsal.subscription.elim hub hub.drop, subscription := none }

/-- Subscribe, in place of the subscription there was. -/
def subscribe (rehearsal : BridgeRehearsal) : BridgeRehearsal :=
  let rehearsal := rehearsal.unsubscribe
  let (number, hub) := rehearsal.bridge.hub.subscribe
  { rehearsal with bridge.hub := hub, subscription := some number }

/-- A chunk comes in from an output, if it has ever had a channel. -/
def hear (rehearsal : BridgeRehearsal) (id : String) (chunk : Bytes) : BridgeRehearsal :=
  let bridge := rehearsal.bridge
  if (bridge.router.channel? id).isNone then rehearsal
  else if rehearsal.isRelayed then { rehearsal with bridge := bridge.inbound id chunk }
  else { rehearsal with bridge.router := bridge.router.receive id }

/-- An output says that its peers have changed. -/
def peersChanged (rehearsal : BridgeRehearsal) (id : String) : BridgeRehearsal :=
  let bridge := rehearsal.bridge
  let (world, hub) := bridge.router.peersChanged rehearsal.outlets id (bridge.world, bridge.hub)
  { rehearsal with bridge := { bridge with world, hub } }

/-- The writer takes a chunk, if it holds none, and gets no further. -/
def holdUp (rehearsal : BridgeRehearsal) : BridgeRehearsal :=
  { rehearsal with
    bridge.session := rehearsal.bridge.session.map fun session =>
      { session with egress := session.egress.take } }

/-- So many chunks come in while the writer is held up. -/
def hearHeldUp (rehearsal : BridgeRehearsal) (id : String) (count : Nat) : BridgeRehearsal :=
  (List.range count).foldl (fun rehearsal i => (rehearsal.hear id [UInt8.ofNat i]).holdUp) rehearsal

end BridgeRehearsal

end MavBridge
