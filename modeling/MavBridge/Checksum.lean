import MavBridge.Bytes

/-!
The frame checksum: CRC-16/MCRF4XX, the reflected polynomial 0x1021 from 0xFFFF on without a final
exclusive or. Each kind of message adds a byte of its own at the end, so a frame read with another
layout does not check.
-/

namespace MavBridge.Checksum

/-- The reflected polynomial. -/
def polynomial : UInt16 := 0x8408

/-- One bit out of the remainder. -/
def shift (remainder : UInt16) : UInt16 :=
  if remainder &&& 1 = 1 then (remainder >>> 1) ^^^ polynomial else remainder >>> 1

/-- One byte into the remainder. -/
def update (remainder : UInt16) (byte : UInt8) : UInt16 :=
  Nat.repeat shift 8 (remainder ^^^ byte.toUInt16)

/-- The remainder of `bytes`. -/
def ofBytes (bytes : Bytes) : UInt16 := bytes.foldl update 0xFFFF

/-- The checksum of a frame's bytes after the marker, closed by the byte of its kind of message. -/
def ofFrame (body : Bytes) (extra : UInt8) : UInt16 := update (ofBytes body) extra

end MavBridge.Checksum
