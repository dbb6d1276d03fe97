import MavBridge.Decoder
import MavBridge.Device.Transport
import MavBridge.FrameBuilder

/-!
Waiting for a vehicle.

Frames are judged as they arrive until one is the heartbeat of a system that is no ground station.
Whatever has been read up to then is kept for replay, without the noise between the frames, so that
a session which is given the replay first and the live bytes after it misses no frame.
-/

namespace MavBridge

/-- The vehicle that a message announces. -/
def Decoded.vehicle? (message : Decoded) : Option Identity :=
  if message.isHeartbeat ∧ message.systemId ≠ Identity.groundStation.systemId then
    some ⟨message.systemId, message.componentId⟩
  else none

/-- A vehicle, and the frames and the unfinished frame that were read before it was found. -/
structure Greeting where
  vehicle : Identity
  replay : Bytes
  deriving DecidableEq, Repr

/-- What has been heard so far: the frames in `replay`, and the bytes after them. -/
structure Handshake (δ : Type) where
  decoder : δ
  buffer : Bytes := []
  replay : Bytes := []
  deriving DecidableEq, Repr

namespace Handshake

variable {σ δ : Type} [MessageDecoder δ]

/-- Bytes that are read at most at a time. -/
def readLimit : Nat := 1024

/-- Judge the frames in the buffer, up to the first one that announces a vehicle. -/
def settle (handshake : Handshake δ) : Option Greeting × Handshake δ :=
  match _taken : extract handshake.buffer with
  | (none, rest) => (none, { handshake with buffer := rest })
  | (some frame, rest) =>
      let judged := MessageDecoder.feedFrame handshake.decoder frame
      match judged.1.bind Decoded.vehicle? with
      | some vehicle =>
          (some ⟨vehicle, handshake.replay ++ frame ++ rest⟩,
            ⟨judged.2, [], handshake.replay ++ frame⟩)
      | none => settle ⟨judged.2, rest, handshake.replay ++ frame⟩
termination_by handshake.buffer.length
decreasing_by exact length_extract_lt _taken

/-- Hear a chunk. -/
def hear (handshake : Handshake δ) (chunk : Bytes) : Option Greeting × Handshake δ :=
  settle { handshake with buffer := handshake.buffer ++ chunk }

/-- Read what is there; nothing is read when nothing is. -/
def poll (device : Transport σ) (s : σ) : Except Fault Bytes × σ :=
  match device.available s with
  | (.error fault, s) => (.error fault, s)
  | (.ok 0, s) => (.ok [], s)
  | (.ok (count + 1), s) => device.read (min (count + 1) readLimit) s

/-- Poll up to so many times. -/
def listen (device : Transport σ) (timeout : Duration) :
    (polls : Nat) → Handshake δ → σ → Except Fault Greeting × Handshake δ × σ
  | 0, handshake, s => (.error (.handshakeTimeout timeout), handshake, s)
  | polls + 1, handshake, s =>
      match poll device s with
      | (.error fault, s) => (.error fault, handshake, s)
      | (.ok chunk, s) =>
          match handshake.hear chunk with
          | (some greeting, handshake) => (.ok greeting, handshake, s)
          | (none, handshake) => listen device timeout polls handshake s

end Handshake

/-- Wait for a vehicle on a device. -/
def Transport.handshake {σ δ : Type} [MessageDecoder δ] (device : Transport σ) (timeout : Duration)
    (decoder : δ) (s : σ) : Except Fault Greeting × δ × σ :=
  let (greeting, handshake, s) :=
    Handshake.listen device timeout (device.pollsWithin timeout s) { decoder } s
  (greeting, handshake.decoder, s)

end MavBridge
