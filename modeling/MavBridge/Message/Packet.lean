import MavBridge.Checksum
import MavBridge.Frame.Basic
import MavBridge.Message.Basic

/-!
Checked packets, read out of bytes and written to them.

Reading looks for the marker of one version and takes the first packet from there on that checks;
one that does not check, or asks for an unknown feature, costs only its marker. A header or a packet
that the bytes break off ends the reading. Writing always makes an unsigned frame of version 2,
without the payload's trailing zeros but with at least one byte of it.
-/

namespace MavBridge

/-- What a frame carries. -/
structure Packet where
  header : Header
  payload : Bytes
  deriving DecidableEq, Repr

namespace Packet

/-- The byte that closes the checksum of a kind of message, known or not. -/
def crcExtra (id : Nat) : UInt8 := (MessageKind.ofId? id).elim 0 (·.crcExtra)

/-- The checksum of a frame's bytes between marker and checksum. -/
def checksum (id : Nat) (body : Bytes) : UInt16 := Checksum.ofFrame body (crcExtra id)

/-- What bytes that start with a marker hold. -/
inductive Candidate where
  /-- The bytes end too early. -/
  | broken
  /-- The frame must not be taken. -/
  | refused
  | packet (packet : Packet)
  deriving DecidableEq, Repr

/-- Flags of a v2 header that are not understood. -/
def hasUnknownFlags (version : Version) (bytes : Bytes) : Bool :=
  version = .v2 && bytes.u8 2 &&& ~~~signedFlag != 0

/-- Examine the frame of `version` at the front of `bytes`. -/
def examine (version : Version) (bytes : Bytes) : Candidate :=
  if bytes.length < version.headerLength then .broken
  else if hasUnknownFlags version bytes then .refused
  else if bytes.length < declaredLength version bytes then .broken
  else
    let header := Header.ofBytes version bytes
    let bodyLength := version.headerLength - 1 + (bytes.u8 1).toNat
    if (checksum header.messageId (bytes.slice 1 bodyLength)).toNat
        = bytes.field (bodyLength + 1) checksumLength then
      .packet ⟨header, bytes.slice version.headerLength (bytes.u8 1).toNat⟩
    else .refused

/-- The first packet of `version` that checks. -/
def first? (version : Version) : Bytes → Option Packet
  | [] => none
  | byte :: rest =>
      if byte = version.marker then
        match examine version (byte :: rest) with
        | .broken => none
        | .refused => first? version rest
        | .packet packet => some packet
      else first? version rest

/-- The version in which bytes are read: what does not start as version 1 is searched for
version 2. -/
def readingVersion (bytes : Bytes) : Version :=
  if bytes.head? = some Version.v1.marker then .v1 else .v2

/-- The first packet of `bytes` that checks. -/
def read? (bytes : Bytes) : Option Packet := first? (readingVersion bytes) bytes

/-- The payload as it is sent. -/
def sentPayload (payload : Bytes) : Bytes :=
  if payload.trimZeros.isEmpty then payload.take 1 else payload.trimZeros

/-- An unsigned frame of version 2. -/
def frame (header : Header) (payload : Bytes) : Bytes :=
  let body : Bytes :=
    [UInt8.ofNat payload.length, 0, 0, header.sequence, header.systemId, header.componentId]
      ++ Bytes.ofNat 3 header.messageId ++ payload
  Version.v2.marker :: body ++ Bytes.ofNat 2 (checksum header.messageId body).toNat

end Packet

/-- The message that `bytes` carry, with the header of its frame. -/
def Message.read? (bytes : Bytes) : Option (Header × Message) := do
  let packet ← Packet.read? bytes
  let message ← Message.ofPayload? packet.header.messageId packet.payload
  return (packet.header, message)

end MavBridge
