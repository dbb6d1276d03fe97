import MavBridge.Fault
import MavBridge.Network.Address
import MavBridge.Output.Config
import MavBridge.Router.Basic
import MavBridge.Store.OutputStore

/-!
Outputs that only record what they are sent, for trying a router out.

The host of an output says how it behaves: `nobuild`, `nostart`, `fail`, `empty` and `peers3` each
do as they are called, and an internet address is where it claims to listen.
-/

namespace MavBridge

/-- An output in memory, and the frames that it was sent. -/
structure Recorder where
  config : OutputConfig
  isRunning : Bool := false
  frames : List Bytes := []
  deriving Repr

namespace Recorder

def create (config : OutputConfig) : Except Fault Recorder :=
  if config.host = "nobuild" then .error (.other ("no channel for " ++ config.id))
  else .ok { config }

def start (recorder : Recorder) : Except Fault String × Recorder :=
  if recorder.config.host = "nostart" then (.error (.addrInUse recorder.config.address), recorder)
  else (.ok ("started " ++ recorder.config.address), { recorder with isRunning := true })

def stop (recorder : Recorder) : Recorder := { recorder with isRunning := false }

/-- The number of peers that the host names. -/
def peers (recorder : Recorder) : Nat :=
  match recorder.config.host.toList with
  | 'p' :: 'e' :: 'e' :: 'r' :: 's' :: digits =>
      if digits.isEmpty ∨ digits.any fun char => !char.isDigit then 0
      else digits.foldl (fun n char => 10 * n + (char.toNat - '0'.toNat)) 0
  | _ => 0

def send (recorder : Recorder) (frame : Bytes) : Except Fault Nat × Recorder :=
  if recorder.config.host = "fail" then (.error (.other "broken pipe"), recorder)
  else if recorder.config.host = "empty" then (.ok 0, recorder)
  else (.ok (max recorder.peers 1), { recorder with frames := recorder.frames ++ [frame] })

def localAddress (recorder : Recorder) : Option String :=
  if recorder.isRunning then
    (IpAddress.ofText? recorder.config.host.toList).map fun ip =>
      (Endpoint.mk ip recorder.config.port.toNat).text
  else none

end Recorder

/-- What surrounds a router that is being tried out. -/
structure RouterBench where
  store : OutputStore := .memory []
  /-- The identifiers of the outputs that were built. -/
  built : List String := []
  /-- Whether somebody listens to what the router announces. -/
  isWatched : Bool := false
  /-- What the listener was told. -/
  told : List RouterStatus := []
  deriving Repr

/-- Recorders as the channels of a router. -/
def Recorder.outlets : Outlets RouterBench Recorder where
  create config bench :=
    match Recorder.create config with
    | .ok recorder => (.ok recorder, { bench with built := bench.built ++ [config.id] })
    | .error fault => (.error fault, bench)
  start recorder bench := (recorder.start.1, recorder.start.2, bench)
  stop recorder bench := (recorder.stop, bench)
  send frame recorder bench := ((recorder.send frame).1, (recorder.send frame).2, bench)
  isRunning := Recorder.isRunning
  peers := Recorder.peers
  localAddress := Recorder.localAddress
  load bench := bench.store.load
  save outputs bench :=
    ((bench.store.save outputs).1, { bench with store := (bench.store.save outputs).2 })
  announce status bench :=
    if bench.isWatched then { bench with told := bench.told ++ [status] } else bench

end MavBridge
