import MavBridge.Decoder
import MavBridge.Events
import MavBridge.Output.TcpServer
import MavBridge.Param.Exchange
import MavBridge.Router.Basic
import MavBridge.Telemetry

/-!
What becomes of the bytes that a vehicle sends.

Every frame in them is judged: an echo of a parameter goes to the call that waits for it, any other
message into the telemetry, and a frame that cannot be decoded is counted. Judged or not, it is then
passed on to every output and to the listener of the session.
-/

namespace MavBridge

/-- What a session has made of the bytes so far. -/
structure Intake (δ : Type) where
  extractor : Extractor := {}
  decoder : δ
  telemetry : Telemetry := {}
  exchange : Exchange := {}
  bytesIn : Nat := 0
  framesIn : Nat := 0
  decodeFailures : Nat := 0
  deriving Repr

namespace Intake

variable {δ : Type}

/-- Hear a chunk: the frames that it completes. -/
def hear (intake : Intake δ) (chunk : Bytes) : List Bytes × Intake δ :=
  let (frames, extractor) := (intake.extractor.push chunk).drain
  (frames, { intake with extractor, bytesIn := intake.bytesIn + chunk.length })

/-- What is made of a message; telemetry is told to whoever listens. -/
def interpret (intake : Intake δ) (message : Decoded) (hub : EventHub) (time : Nat) :
    Intake δ × EventHub :=
  match message.body with
  | .paramValue report => ({ intake with exchange := (intake.exchange.resolve report).2 }, hub)
  | _ =>
      let (_, feed) := TelemetryFeed.apply ⟨intake.telemetry, hub⟩ message time
      ({ intake with telemetry := feed.telemetry }, feed.hub)

/-- Judge a frame. -/
def judge [MessageDecoder δ] (intake : Intake δ) (frame : Bytes) (hub : EventHub) (time : Nat) :
    Intake δ × EventHub :=
  let (message, decoder) := MessageDecoder.feedFrame intake.decoder frame
  let intake := { intake with decoder, framesIn := intake.framesIn + 1 }
  match message with
  | some message => intake.interpret message hub time
  | none => ({ intake with decodeFailures := intake.decodeFailures + 1 }, hub)

end Intake

/-- Everything that a frame can reach. -/
structure Pipeline (δ ω χ : Type) where
  intake : Intake δ
  /-- The listener of the session. -/
  listener : Option TcpServer
  hub : EventHub
  router : Router χ
  world : ω

namespace Pipeline

variable {δ ω χ : Type} [MessageDecoder δ] (outlets : Outlets ω χ) (now : ω → Nat)

/-- Judge a frame and pass it on. -/
def handle (pipeline : Pipeline δ ω χ) (frame : Bytes) : Pipeline δ ω χ :=
  let (intake, hub) := pipeline.intake.judge frame pipeline.hub (now pipeline.world)
  let (router, world) := pipeline.router.forward outlets frame pipeline.world
  let listener := pipeline.listener.map fun listener =>
    if listener.isRunning then (listener.send frame).2 else listener
  { intake, listener, hub, router, world }

/-- Handle the frames that a chunk completes. -/
def receive (pipeline : Pipeline δ ω χ) (chunk : Bytes) : Pipeline δ ω χ :=
  let (frames, intake) := pipeline.intake.hear chunk
  frames.foldl (handle outlets now) { pipeline with intake }

end Pipeline

end MavBridge
