import MavBridge.Output.Recorder
import MavBridge.Router.Load

/-!
A router of recording outputs, under the hands of somebody who tries it out: who listens to its
announcements, relays what its outputs hear, and starts it anew from what it has kept.
-/

namespace MavBridge

/-- A router that is being tried out. -/
structure RouterRehearsal where
  router : Router Recorder
  bench : RouterBench
  /-- What the relay calls itself, if there is one. -/
  relay : Option String := none
  /-- What the relay has heard, and what it called itself then. -/
  relayed : List (String × Bytes) := []
  /-- The outputs that former routers built, and the relays that still hear them. -/
  former : List (String × Option String) := []

namespace RouterRehearsal

/-- A router with the outputs of a store. -/
def ofStore (store : OutputStore) : RouterRehearsal :=
  let (_, router, bench) := Router.load Recorder.outlets { store }
  { router, bench }

/-- The newest channel of an output was built by the present router. -/
def isPresent (rehearsal : RouterRehearsal) (id : String) : Bool :=
  (rehearsal.bench.built.drop rehearsal.former.length).contains id

/-- The relay that hears an output. -/
def relayOf (rehearsal : RouterRehearsal) (id : String) : Option String :=
  if rehearsal.isPresent id then rehearsal.relay
  else (rehearsal.former.reverse.find? fun output => output.1 == id).bind (·.2)

/-- A chunk comes in from an output. -/
def hear (rehearsal : RouterRehearsal) (id : String) (chunk : Bytes) : RouterRehearsal :=
  { rehearsal with
    router := rehearsal.router.receive id
    relayed := rehearsal.relayed ++ (rehearsal.relayOf id).toList.map fun relay => (relay, chunk) }

/-- An output says that its peers have changed; nobody is told any more of a former router. -/
def peersChanged (rehearsal : RouterRehearsal) (id : String) : RouterRehearsal :=
  if rehearsal.isPresent id then
    { rehearsal with bench := rehearsal.router.announce Recorder.outlets rehearsal.bench }
  else rehearsal

/-- A new router takes the place of this one, without its listener and its relay. -/
def reload (rehearsal : RouterRehearsal) : RouterRehearsal :=
  let (_, fresh, bench) := Router.load Recorder.outlets { rehearsal.bench with isWatched := false }
  let gone := rehearsal.router.entries.map fun entry => (entry.config.id, entry.channel)
  let built := rehearsal.bench.built.drop rehearsal.former.length
  { router := { fresh with retired := rehearsal.router.retired ++ gone }
    bench
    former := rehearsal.former ++ built.map fun id => (id, rehearsal.relay) }

/-- Forget what listener and relay have heard. -/
def hush (rehearsal : RouterRehearsal) : RouterRehearsal :=
  { rehearsal with bench.told := [], relayed := [] }

end RouterRehearsal

end MavBridge
