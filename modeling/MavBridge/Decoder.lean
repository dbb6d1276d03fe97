import MavBridge.Frame.Stream
import MavBridge.Message.Body
import MavBridge.Message.Packet

/-!
The decoder: whole frames or single bytes in, messages out, never an error.

The checksum of a message outside the dialect cannot be checked, so such a frame passes as it is.
A frame of a known kind that carries no valid message is counted and gives nothing.
-/

namespace MavBridge

/-- A decoded frame: its sender, its number, and what it says. -/
structure Decoded where
  systemId : UInt8
  componentId : UInt8
  sequence : UInt8
  body : Body
  deriving DecidableEq, Repr

namespace Decoded

def ofHeader (header : Header) (body : Body) : Decoded :=
  ⟨header.systemId, header.componentId, header.sequence, body⟩

def isHeartbeat (message : Decoded) : Bool := message.body.isHeartbeat

end Decoded

/-- The outcome of one frame. -/
inductive Verdict where
  | message (decoded : Decoded)
  /-- The frame is of a known kind and invalid. -/
  | rejected
  /-- The bytes hold no whole frame. -/
  | incomplete
  deriving DecidableEq, Repr

def Verdict.message? : Verdict → Option Decoded
  | .message decoded => some decoded
  | _ => none

/-- Judge a frame of which the header has been read. -/
def judgeFrame (header : Header) (frame : Bytes) : Verdict :=
  if (MessageKind.ofId? header.messageId).isNone then
    .message (.ofHeader header (.unknown header.messageId))
  else
    match Message.read? frame with
    | some (header, message) => .message (.ofHeader header message.body)
    | none => .rejected

/-- Judge the first frame of `bytes`. -/
def judge (bytes : Bytes) : Verdict :=
  match (extract bytes).1 with
  | none => .incomplete
  | some frame =>
      match Header.read? frame with
      | none => .incomplete
      | some header => judgeFrame header frame

/-- The bytes of an unfinished frame, and the number of frames rejected so far. -/
structure Decoder where
  extractor : Extractor := {}
  failures : Nat := 0
  deriving DecidableEq, Repr

namespace Decoder

def empty : Decoder := {}

/-- Decode one whole frame. -/
def feedFrame (decoder : Decoder) (frame : Bytes) : Option Decoded × Decoder :=
  let verdict := judge frame
  (verdict.message?,
    if verdict = .rejected then { decoder with failures := decoder.failures + 1 } else decoder)

/-- Decode one byte; a message comes with the last byte of its frame. -/
def feed (decoder : Decoder) (byte : UInt8) : Option Decoded × Decoder :=
  let (frame, extractor) := (decoder.extractor.push [byte]).next
  let decoder := { decoder with extractor }
  match frame with
  | none => (none, decoder)
  | some frame => decoder.feedFrame frame

/-- Decode byte by byte: each message with the index of its last byte. -/
def feedAll (decoder : Decoder) (bytes : Bytes) : List (Nat × Decoded) × Decoder :=
  go decoder 0 bytes
where
  go (decoder : Decoder) (index : Nat) : Bytes → List (Nat × Decoded) × Decoder
    | [] => ([], decoder)
    | byte :: rest =>
        let (message, decoder) := decoder.feed byte
        let (messages, decoder) := go decoder (index + 1) rest
        (message.toList.map ((index, ·)) ++ messages, decoder)

/-- Decode a frame byte by byte: the last message that it completed. -/
def feedBytewise (decoder : Decoder) (frame : Bytes) : Option Decoded × Decoder :=
  let (messages, decoder) := decoder.feedAll frame
  (messages.getLast?.map (·.2), decoder)

end Decoder

/-- What a link and a session ask of a decoder: whole frames in, a message or nothing out. What it
makes of a frame may depend on the frames before it. -/
class MessageDecoder (δ : Type) where
  feedFrame : δ → Bytes → Option Decoded × δ

@[default_instance]
instance : MessageDecoder Decoder := ⟨Decoder.feedFrame⟩

end MavBridge
