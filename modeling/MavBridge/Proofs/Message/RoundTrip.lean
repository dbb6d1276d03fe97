import MavBridge.Decoder
import MavBridge.Proofs.Frame.Framing
import MavBridge.Proofs.Message.Normal

/-!
# Frames that are read back

A frame that is written with a header and a payload is one whole frame of version 2, and both are
read as they were written.  With a message in normal form it is decoded into this message.
-/

namespace MavBridge

open Bytes

namespace Packet

variable {header : Header} {payload : Bytes}

/-- The number of the kind of message fits into three bytes, and the payload's length into one. -/
structure Fits (header : Header) (payload : Bytes) : Prop where
  messageId_lt : header.messageId < 256 ^ 3
  length_le : payload.length ≤ 255

/-- What stands between marker and payload. -/
def headerBytes (header : Header) (length : Nat) : Bytes :=
  [UInt8.ofNat length, 0, 0, header.sequence, header.systemId, header.componentId]
    ++ ofNat 3 header.messageId

/-- What a frame's checksum is taken of. -/
def checkedBytes (header : Header) (payload : Bytes) : Bytes :=
  headerBytes header payload.length ++ payload

/-- A frame's last two bytes. -/
def checksumBytes (header : Header) (payload : Bytes) : Bytes :=
  ofNat 2 (checksum header.messageId (checkedBytes header payload)).toNat

theorem frame_eq_append (header : Header) (payload : Bytes) :
    frame header payload =
      Version.v2.marker :: (headerBytes header payload.length ++ payload) ++
        checksumBytes header payload := rfl

@[simp]
theorem length_headerBytes (header : Header) (length : Nat) :
    (headerBytes header length).length = 9 := by
  simp [headerBytes]

@[simp]
theorem length_checksumBytes (header : Header) (payload : Bytes) :
    (checksumBytes header payload).length = 2 :=
  length_ofNat _ _

theorem length_frame (header : Header) (payload : Bytes) :
    (frame header payload).length = 12 + payload.length := by
  simp only [frame_eq_append, List.length_append, List.length_cons, length_headerBytes,
    length_checksumBytes]
  omega

theorem isFrame_frame (fits : Fits header payload) : IsFrame (frame header payload) := by
  have announced : (UInt8.ofNat payload.length).toNat = payload.length := by
    rw [UInt8.toNat_ofNat']
    exact Nat.mod_eq_of_lt (Nat.lt_succ_of_le fits.length_le)
  refine IsFrame.v2 ?_
  rw [announced]
  exact (length_frame header payload).trans (by simp [announcedSignature])

theorem extract_frame (fits : Fits header payload) :
    extract (frame header payload) = (some (frame header payload), []) :=
  (isFrame_frame fits).extract_eq

/-! ## Reading -/

theorem u8_one_frame (fits : Fits header payload) :
    ((frame header payload).u8 1).toNat = payload.length := by
  have announced : (frame header payload).u8 1 = UInt8.ofNat payload.length := by
    simp [frame]
  rw [announced, UInt8.toNat_ofNat']
  exact Nat.mod_eq_of_lt (Nat.lt_succ_of_le fits.length_le)

theorem field_frame_messageId (fits : Fits header payload) :
    (frame header payload).field 7 3 = header.messageId := by
  have placed : (frame header payload).slice 7 3 = ofNat 3 header.messageId :=
    slice_of_parts
      [Version.v2.marker, UInt8.ofNat payload.length, 0, 0, header.sequence, header.systemId,
        header.componentId] _ (payload ++ checksumBytes header payload)
      (by simp [frame_eq_append, headerBytes]) rfl (length_ofNat _ _)
  rw [field, placed, toNat_ofNat fits.messageId_lt]

theorem header_ofBytes_frame (fits : Fits header payload) :
    Header.ofBytes .v2 (frame header payload) = header := by
  have numbered := field_frame_messageId fits
  simp only [Header.ofBytes, numbered]
  simp [frame]

theorem header_read?_frame (fits : Fits header payload) :
    Header.read? (frame header payload) = some header := by
  have announced : Version.ofBytes? (frame header payload) = some .v2 := rfl
  have long : Version.v2.headerLength ≤ (frame header payload).length := by
    rw [length_frame, Version.headerLength]
    omega
  simp only [Header.read?, announced, if_pos long, header_ofBytes_frame fits]

theorem slice_frame_payload (header : Header) (payload : Bytes) :
    (frame header payload).slice 10 payload.length = payload :=
  slice_of_parts (Version.v2.marker :: headerBytes header payload.length) payload
    (checksumBytes header payload) rfl (by simp) rfl

@[simp]
theorem length_checkedBytes (header : Header) (payload : Bytes) :
    (checkedBytes header payload).length = 9 + payload.length := by
  simp [checkedBytes]

theorem slice_frame_checked (header : Header) (payload : Bytes) :
    (frame header payload).slice 1 (9 + payload.length) = checkedBytes header payload :=
  slice_of_parts [Version.v2.marker] _ (checksumBytes header payload) rfl rfl
    (length_checkedBytes header payload)

theorem field_frame_checksum (header : Header) (payload : Bytes) :
    (frame header payload).field (9 + payload.length + 1) 2 =
      (checksum header.messageId (checkedBytes header payload)).toNat := by
  have placed : (frame header payload).slice (9 + payload.length + 1) 2 =
      checksumBytes header payload :=
    slice_of_parts (Version.v2.marker :: checkedBytes header payload) _ []
      (List.append_nil _).symm (by simp) (length_checksumBytes header payload)
  have small := (checksum header.messageId (checkedBytes header payload)).toNat_lt
  rw [field, placed, checksumBytes, toNat_ofNat small]

theorem examine_frame (fits : Fits header payload) :
    examine .v2 (frame header payload) = .packet ⟨header, payload⟩ := by
  have known : hasUnknownFlags .v2 (frame header payload) = false := by
    simp [hasUnknownFlags, frame]
  have declared : declaredLength .v2 (frame header payload) = 12 + payload.length := by
    have unsigned : (frame header payload).u8 2 = 0 := by simp [frame]
    simp only [declaredLength, trailerLength, unsigned, u8_one_frame fits, Version.headerLength,
      checksumLength]
    simp
    omega
  have checks : (checksum header.messageId
      ((frame header payload).slice 1 (9 + payload.length))).toNat =
        (frame header payload).field (9 + payload.length + 1) checksumLength := by
    rw [slice_frame_checked]
    exact (field_frame_checksum header payload).symm
  unfold examine
  rw [if_neg (by rw [length_frame, Version.headerLength]; omega), known,
    if_neg (by simp), if_neg (by rw [declared, length_frame]; omega)]
  simp only [header_ofBytes_frame fits, u8_one_frame fits, Version.headerLength]
  rw [if_pos checks, slice_frame_payload]

theorem read?_frame (fits : Fits header payload) :
    read? (frame header payload) = some ⟨header, payload⟩ := by
  have version : readingVersion (frame header payload) = .v2 := by
    simp [readingVersion, frame, Version.marker]
  have examined := examine_frame fits
  rw [read?, version]
  unfold frame at examined ⊢
  rw [List.cons_append] at examined ⊢
  rw [first?, if_pos rfl, examined]

end Packet

/-! ## Messages -/

/-- A frame of version 2 with a message: alone it is extracted whole, read as the message with its
header, and decoded without being counted. -/
structure Carries (frame : Bytes) (header : Header) (message : Message) : Prop where
  version : frame.head? = some Version.v2.marker
  extracted : extract frame = (some frame, [])
  read : Message.read? frame = some (header, message)
  decoded : ∀ decoder : Decoder,
    decoder.feedFrame frame = (some (.ofHeader header message.body), decoder)

theorem Message.Normal.fits {message : Message} (normal : message.Normal) {header : Header}
    (named : header.messageId = message.kind.id) :
    Packet.Fits header (Packet.sentPayload message.payload) := by
  have wellFormed := wellFormed_of_mem_dialect normal.listed
  refine ⟨named ▸ wellFormed.id_lt, ?_⟩
  calc (Packet.sentPayload message.payload).length
      ≤ message.payload.length := length_sentPayload_le message.payload
    _ = message.kind.length := normal.length_payload
    _ ≤ 255 := wellFormed.length_le

theorem Message.Normal.read?_frame {message : Message} (normal : message.Normal) {header : Header}
    (named : header.messageId = message.kind.id) :
    Message.read? (Packet.frame header (Packet.sentPayload message.payload)) =
      some (header, message) := by
  simp [Message.read?, Packet.read?_frame (normal.fits named), named,
    normal.ofPayload?_sentPayload]

theorem Message.Normal.carries_frame {message : Message} (normal : message.Normal)
    {header : Header} (named : header.messageId = message.kind.id) :
    Carries (Packet.frame header (Packet.sentPayload message.payload)) header message := by
  have fits := normal.fits named
  have read := normal.read?_frame named
  have listed : (MessageKind.ofId? header.messageId).isNone = false := by
    rw [named, MessageKind.ofId?_eq_some_iff.mpr ⟨normal.listed, rfl⟩]
    rfl
  have judged : judge (Packet.frame header (Packet.sentPayload message.payload)) =
      .message (.ofHeader header message.body) := by
    simp [judge, Packet.extract_frame fits, Packet.header_read?_frame fits, judgeFrame, listed,
      read]
  refine ⟨rfl, Packet.extract_frame fits, read, ?_⟩
  intro decoder
  simp [Decoder.feedFrame, judged, Verdict.message?]

end MavBridge
