import MavBridge.Bytes

/-!
Frames on the wire, in two versions:

    v1: FE len seq sys comp id                              payload crc crc
    v2: FD len incompat compat seq sys comp id id id        payload crc crc [13 signature bytes]

The signature follows only when bit 0 of `incompat` is set. `frameLength?` is the length that a
header declares, and `Header.read?` the routing fields; neither looks at the checksum.
-/

namespace MavBridge

/-- The two wire versions. -/
inductive Version where
  | v1
  | v2
  deriving DecidableEq, Repr

namespace Version

/-- The byte that starts a frame. -/
def marker : Version → UInt8
  | v1 => 0xFE
  | v2 => 0xFD

/-- Bytes before the payload, the marker included. -/
def headerLength : Version → Nat
  | v1 => 6
  | v2 => 10

/-- The version that a byte announces. -/
def ofMarker? (byte : UInt8) : Option Version :=
  if byte = v1.marker then some v1 else if byte = v2.marker then some v2 else none

end Version

def checksumLength : Nat := 2

def signatureLength : Nat := 13

/-- The incompatibility flag of a signed frame. -/
def signedFlag : UInt8 := 1

def isMarker (byte : UInt8) : Bool := (Version.ofMarker? byte).isSome

/-- Bytes after the checksum, announced by the flags of a v2 header. -/
def trailerLength (version : Version) (bytes : Bytes) : Nat :=
  match version with
  | .v1 => 0
  | .v2 => if bytes.u8 2 &&& signedFlag ≠ 0 then signatureLength else 0

/-- The version of the frame that `bytes` starts with. -/
def Version.ofBytes? (bytes : Bytes) : Option Version := bytes.head?.bind ofMarker?

/-- The whole length of a frame of `version` whose header is complete. -/
def declaredLength (version : Version) (bytes : Bytes) : Nat :=
  version.headerLength + (bytes.u8 1).toNat + checksumLength + trailerLength version bytes

/-- The whole length of the frame that `bytes` starts with, once its header is complete. -/
def frameLength? (bytes : Bytes) : Option Nat :=
  match Version.ofBytes? bytes with
  | none => none
  | some version =>
      if version.headerLength ≤ bytes.length then some (declaredLength version bytes) else none

/-- Who sent a frame, its number, and its kind of message. -/
structure Header where
  messageId : Nat
  sequence : UInt8
  systemId : UInt8
  componentId : UInt8
  deriving DecidableEq, Repr

namespace Header

/-- The routing fields of a complete header of `version` at the front of `bytes`. -/
def ofBytes (version : Version) (bytes : Bytes) : Header :=
  match version with
  | .v1 => ⟨bytes.field 5 1, bytes.u8 2, bytes.u8 3, bytes.u8 4⟩
  | .v2 => ⟨bytes.field 7 3, bytes.u8 4, bytes.u8 5, bytes.u8 6⟩

/-- The routing fields of the frame that `bytes` starts with. -/
def read? (bytes : Bytes) : Option Header :=
  match Version.ofBytes? bytes with
  | none => none
  | some version =>
      if version.headerLength ≤ bytes.length then some (ofBytes version bytes) else none

end Header

end MavBridge
