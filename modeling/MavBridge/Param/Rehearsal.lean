import MavBridge.Decoder
import MavBridge.Param.Batch

/-!
A vehicle that answers requests by a script, while they are being sent.

For each name that a frame asks for, the script lists what happens in order before sending returns:
an echo, a nested request, a question how many calls wait, or a failure. Everything is logged.
-/

namespace MavBridge

/-- What the vehicle does about a request. -/
inductive VehicleAction where
  /-- An echo; name and value are the request's unless given. -/
  | echo (name : Option String) (value : Option Binary32) (type : UInt8) (count index : UInt16)
  | nestedRead (name : String)
  | countPending
  /-- Sending fails. -/
  | fail (fault : Fault)
  deriving Repr

/-- What has happened. -/
inductive VehicleEvent where
  | frame (frame : Bytes)
  | resolved (waited : Bool)
  | nested (outcome : Except Fault ParamValue)
  | pending (count : Nat)
  deriving Repr

/-- An exchange with a scripted vehicle. -/
structure Rehearsal where
  target : Identity
  replies : List (String × List VehicleAction) := []
  exchange : Exchange := {}
  log : List VehicleEvent := []
  deriving Repr

namespace Rehearsal

def note (rehearsal : Rehearsal) (event : VehicleEvent) : Rehearsal :=
  { rehearsal with log := rehearsal.log ++ [event] }

/-- Hand a message to the exchange. -/
def resolve (rehearsal : Rehearsal) (report : ParamReport) : Bool × Rehearsal :=
  let (waited, exchange) := rehearsal.exchange.resolve report
  (waited, { rehearsal with exchange })

/-- The actions about a frame, with the name it asks for and the value it sets. -/
def actions (rehearsal : Rehearsal) (frame : Bytes) :
    String × Option Binary32 × List VehicleAction :=
  match (Message.read? frame).bind fun (_, message) => message.paramRequest? with
  | none => ("", none, [])
  | some (name, value) =>
      (name, value, ((rehearsal.replies.find? fun entry => entry.1 == name).map (·.2)).getD [])

/-- Perform actions up to one that fails. -/
def act (nested : String → Rehearsal → Except Fault ParamValue × Rehearsal) (name : String)
    (set : Option Binary32) : List VehicleAction → Rehearsal → Except Fault Unit × Rehearsal
  | [], rehearsal => (.ok (), rehearsal)
  | .echo other value type count index :: rest, rehearsal =>
      let (waited, rehearsal) := rehearsal.resolve
        ⟨other.getD name, (value <|> set).getD .zero, type, count, index⟩
      act nested name set rest (rehearsal.note (.resolved waited))
  | .nestedRead other :: rest, rehearsal =>
      let (outcome, rehearsal) := nested other rehearsal
      act nested name set rest (rehearsal.note (.nested outcome))
  | .countPending :: rest, rehearsal =>
      act nested name set rest (rehearsal.note (.pending rehearsal.exchange.pendingCount))
  | .fail fault :: _, rehearsal => (.error fault, rehearsal)

/-- Send a frame; `depth` bounds how deep requests nest. -/
def send : (depth : Nat) → Bytes → Rehearsal → Except Fault Unit × Rehearsal
  | 0, frame, rehearsal => (.ok (), rehearsal.note (.frame frame))
  | depth + 1, frame, rehearsal =>
      let (name, set, actions) := rehearsal.actions frame
      let inner : Surroundings Rehearsal :=
        { exchange := (·.exchange), put := fun exchange rehearsal => { rehearsal with exchange },
          send := send depth, wait := id }
      act (fun other rehearsal => inner.read rehearsal.target other rehearsal) name set actions
        (rehearsal.note (.frame frame))

/-- Requests can nest only while each is about a name that no waiting one has. -/
def depth (rehearsal : Rehearsal) : Nat := (rehearsal.replies.flatMap (·.2)).length + 1

/-- Calls in the company of the vehicle; nothing happens after a frame is sent. -/
def surroundings (rehearsal : Rehearsal) : Surroundings Rehearsal where
  exchange := (·.exchange)
  put exchange rehearsal := { rehearsal with exchange }
  send := send rehearsal.depth
  wait := id

end Rehearsal

end MavBridge
