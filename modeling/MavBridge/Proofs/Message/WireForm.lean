import MavBridge.Proofs.Message.Belonging

/-!
# The forms of a packet on the wire

A packet travels as a frame of version 1, or as a frame of version 2 with or without a signature.
Each of them is one whole frame that checks and announces this packet, so that a decoder answers the
packet, whatever the form.  The answer depends on the payload only up to trailing zeros.
-/

namespace MavBridge

open Bytes

/-- A form of frames. The second flags of version 2 are those that every reader may ignore. -/
inductive WireForm where
  | v1
  | unsigned (flags : UInt8)
  | signed (flags : UInt8) (signature : Bytes) (whole : signature.length = signatureLength)

namespace WireForm

def version : WireForm → Version
  | v1 => .v1
  | unsigned _ => .v2
  | signed _ _ _ => .v2

/-- What stands between the marker and a payload of some length. -/
def headerBytes (form : WireForm) (header : Header) (length : Nat) : Bytes :=
  match form with
  | v1 =>
      [UInt8.ofNat length, header.sequence, header.systemId, header.componentId,
        UInt8.ofNat header.messageId]
  | unsigned flags =>
      [UInt8.ofNat length, 0, flags, header.sequence, header.systemId, header.componentId]
        ++ ofNat 3 header.messageId
  | signed flags _ _ =>
      [UInt8.ofNat length, signedFlag, flags, header.sequence, header.systemId, header.componentId]
        ++ ofNat 3 header.messageId

/-- What stands behind the checksum. -/
def trailer : WireForm → Bytes
  | v1 => []
  | unsigned _ => []
  | signed _ signature _ => signature

/-- What the checksum of a frame is taken of. -/
def checkedBytes (form : WireForm) (header : Header) (payload : Bytes) : Bytes :=
  form.headerBytes header payload.length ++ payload

def checksumBytes (form : WireForm) (header : Header) (payload : Bytes) : Bytes :=
  ofNat 2 (Packet.checksum header.messageId (form.checkedBytes header payload)).toNat

/-- The frame of this form with a header, a payload and the checksum of both. -/
def frame (form : WireForm) (header : Header) (payload : Bytes) : Bytes :=
  form.version.marker :: form.checkedBytes header payload ++ form.checksumBytes header payload
    ++ form.trailer

theorem unsigned_frame (header : Header) (payload : Bytes) :
    (unsigned 0).frame header payload = Packet.frame header payload := by
  simp only [frame, trailer, List.append_nil]
  rfl

variable {form : WireForm} {header : Header} {payload : Bytes}

/-! ## Where the parts of a frame stand -/

@[simp]
theorem length_headerBytes (form : WireForm) (header : Header) (length : Nat) :
    (form.headerBytes header length).length = form.version.headerLength - 1 := by
  cases form <;> simp [headerBytes, version, Version.headerLength]

@[simp]
theorem length_checksumBytes (form : WireForm) (header : Header) (payload : Bytes) :
    (form.checksumBytes header payload).length = 2 :=
  length_ofNat _ _

theorem length_checkedBytes (form : WireForm) (header : Header) (payload : Bytes) :
    (form.checkedBytes header payload).length =
      form.version.headerLength - 1 + payload.length := by
  rw [checkedBytes, List.length_append, length_headerBytes]

theorem length_frame (form : WireForm) (header : Header) (payload : Bytes) :
    (form.frame header payload).length =
      form.version.headerLength + payload.length + 2 + form.trailer.length := by
  have marked := form.version.two_lt_headerLength
  simp only [frame, List.length_append, List.length_cons, length_checkedBytes,
    length_checksumBytes]
  omega

theorem toNat_announced (short : payload.length ≤ 255) :
    (UInt8.ofNat payload.length).toNat = payload.length := by
  rw [UInt8.toNat_ofNat']
  exact Nat.mod_eq_of_lt (Nat.lt_succ_of_le short)

theorem u8_one_frame (short : payload.length ≤ 255) :
    ((form.frame header payload).u8 1).toNat = payload.length := by
  have announced : (form.frame header payload).u8 1 = UInt8.ofNat payload.length := by
    cases form <;> simp [frame, checkedBytes, headerBytes]
  rw [announced, toNat_announced short]

theorem slice_frame_payload (form : WireForm) (header : Header) (payload : Bytes) :
    (form.frame header payload).slice form.version.headerLength payload.length = payload := by
  have marked := form.version.two_lt_headerLength
  refine slice_of_parts (form.version.marker :: form.headerBytes header payload.length) payload
    (form.checksumBytes header payload ++ form.trailer) ?_ ?_ rfl
  · simp [frame, checkedBytes]
  · rw [List.length_cons, length_headerBytes]
    omega

theorem slice_frame_checked (form : WireForm) (header : Header) (payload : Bytes) :
    (form.frame header payload).slice 1 (form.version.headerLength - 1 + payload.length) =
      form.checkedBytes header payload := by
  refine slice_of_parts [form.version.marker] _ (form.checksumBytes header payload ++ form.trailer)
    ?_ rfl (length_checkedBytes form header payload)
  simp [frame]

theorem field_frame_checksum (form : WireForm) (header : Header) (payload : Bytes) :
    (form.frame header payload).field (form.version.headerLength + payload.length) 2 =
      (Packet.checksum header.messageId (form.checkedBytes header payload)).toNat := by
  have marked := form.version.two_lt_headerLength
  have placed : (form.frame header payload).slice
      (form.version.headerLength + payload.length) 2 = form.checksumBytes header payload := by
    refine slice_of_parts (form.version.marker :: form.checkedBytes header payload) _ form.trailer
      rfl ?_ (length_checksumBytes form header payload)
    rw [List.length_cons, length_checkedBytes]
    omega
  have small := (Packet.checksum header.messageId (form.checkedBytes header payload)).toNat_lt
  rw [field, placed, checksumBytes, toNat_ofNat small]

theorem header_ofBytes_frame (small : header.messageId ≤ 255) :
    Header.ofBytes form.version (form.frame header payload) = header := by
  have narrow : header.messageId < 256 ^ 1 := Nat.lt_succ_of_le small
  have wide : header.messageId < 256 ^ 3 := Nat.lt_trans narrow (by decide)
  -- In version 2 the number of the kind stands behind seven bytes, whatever the flags are.
  have numbered (flags others : UInt8) (behind : Bytes) :
      field (Version.v2.marker :: UInt8.ofNat payload.length :: flags :: others ::
        header.sequence :: header.systemId :: header.componentId ::
          (ofNat 3 header.messageId ++ behind)) 7 3 = header.messageId := by
    have placed : slice (Version.v2.marker :: UInt8.ofNat payload.length :: flags :: others ::
        header.sequence :: header.systemId :: header.componentId ::
          (ofNat 3 header.messageId ++ behind)) 7 3 = ofNat 3 header.messageId := rfl
    rw [field, placed, toNat_ofNat wide]
  cases form with
  | v1 =>
      have named : field (frame v1 header payload) 5 1 = header.messageId := by
        have placed : (frame v1 header payload).slice 5 1 = ofNat 1 header.messageId := rfl
        rw [field, placed, toNat_ofNat narrow]
      simp only [Header.ofBytes, version, named]
      simp [frame, checkedBytes, headerBytes]
  | unsigned flags =>
      simp only [Header.ofBytes, version, frame, checkedBytes, headerBytes, List.cons_append,
        List.append_assoc, List.nil_append, numbered]
      simp
  | signed flags signature whole =>
      simp only [Header.ofBytes, version, frame, checkedBytes, headerBytes, List.cons_append,
        List.append_assoc, List.nil_append, numbered]
      simp

/-! ## Whole frames that check -/

theorem isFrame_frame (form : WireForm) (header : Header) (short : payload.length ≤ 255) :
    IsFrame (form.frame header payload) := by
  have total := length_frame form header payload
  have announced := toNat_announced short
  cases form with
  | v1 =>
      refine IsFrame.v1 (total.trans ?_)
      rw [announced]
      simp only [version, Version.headerLength, trailer, List.length_nil]
      omega
  | unsigned flags =>
      refine IsFrame.v2 (total.trans ?_)
      rw [announced]
      simp only [version, Version.headerLength, trailer, List.length_nil, announcedSignature]
      simp
      omega
  | signed flags signature whole =>
      refine IsFrame.v2 (total.trans ?_)
      rw [announced]
      simp only [version, Version.headerLength, trailer, whole, signatureLength,
        announcedSignature, signedFlag]
      simp
      omega

theorem understood_frame : Packet.Understood form.version (form.frame header payload) := by
  cases form <;>
    simp [Packet.Understood, Packet.hasUnknownFlags, version, frame, checkedBytes, headerBytes,
      signedFlag]

theorem checks_frame (small : header.messageId ≤ 255) (short : payload.length ≤ 255) :
    Packet.Checks form.version (form.frame header payload) := by
  simp only [Packet.Checks, u8_one_frame short, header_ofBytes_frame small, slice_frame_checked]
  exact (field_frame_checksum form header payload).symm

theorem announced_frame (small : header.messageId ≤ 255) (short : payload.length ≤ 255) :
    Packet.announced form.version (form.frame header payload) = ⟨header, payload⟩ := by
  rw [Packet.announced, header_ofBytes_frame small, u8_one_frame short, slice_frame_payload]

theorem read?_frame (small : header.messageId ≤ 255) (short : payload.length ≤ 255) :
    Packet.read? (form.frame header payload) = some ⟨header, payload⟩ := by
  have read := Packet.read?_of_isFrame (isFrame_frame form header short)
    (rfl : (form.frame header payload).head? = some form.version.marker)
  rw [if_pos ⟨understood_frame, checks_frame small short⟩, announced_frame small short] at read
  exact read

theorem header_read?_frame (small : header.messageId ≤ 255) :
    Header.read? (form.frame header payload) = some header := by
  have started : Version.ofBytes? (form.frame header payload) = some form.version :=
    Version.ofBytes?_eq_some_iff.mpr rfl
  have long : form.version.headerLength ≤ (form.frame header payload).length := by
    rw [length_frame]
    omega
  simp only [Header.read?, started, if_pos long, header_ofBytes_frame small]

/-- A decoder answers the packet of a frame, whatever the form of the frame. -/
theorem feedFrame_frame (form : WireForm)
    (known : (MessageKind.ofId? header.messageId).isSome = true)
    (small : header.messageId ≤ 255) (short : payload.length ≤ 255) (decoder : Decoder) :
    decoder.feedFrame (form.frame header payload) = decoder.answer ⟨header, payload⟩ := by
  have fed := Decoder.feedFrame_of_isFrame (isFrame_frame form header short)
    (header_read?_frame small) known decoder
  rw [read?_frame small short] at fed
  exact fed

end WireForm

/-! ## Payloads up to trailing zeros -/

theorem Message.ofPayload?_congr (id : Nat) {p q : Bytes} (same : p.trimZeros = q.trimZeros) :
    Message.ofPayload? id p = Message.ofPayload? id q := by
  have normal (kind : MessageKind) : kind.normalize p = kind.normalize q := by
    rw [MessageKind.normalize, MessageKind.normalize, ← resize_trimZeros kind.length p, same,
      resize_trimZeros]
  simp only [Message.ofPayload?, normal]

namespace Decoder

theorem answer_congr (decoder : Decoder) (header : Header) {p q : Bytes}
    (same : p.trimZeros = q.trimZeros) :
    decoder.answer ⟨header, p⟩ = decoder.answer ⟨header, q⟩ := by
  simp only [answer, Message.ofPayload?_congr header.messageId same]

/-- An answer is a message of the packet's header, or a rejection. -/
theorem answer_cases (decoder : Decoder) (packet : Packet) :
    (∃ message, decoder.answer packet = (some message, decoder) ∧
      message.header = packet.header) ∨ decoder.answer packet = decoder.reject := by
  cases parsed : Message.ofPayload? packet.header.messageId packet.payload with
  | none => exact .inr (answer_of_none decoder parsed)
  | some message =>
      exact .inl ⟨_, answer_of_some decoder parsed, Decoded.header_ofHeader parsed⟩

/-- A packet of a known kind is decoded alike in every form on the wire, and with any number of
zeros at the end of its payload: into one message with the packet's header and nothing counted, or
into nothing, and the frame is counted once. -/
theorem feedFrame_wireForm {header : Header} {p q : Bytes}
    (known : (MessageKind.ofId? header.messageId).isSome = true)
    (small : header.messageId ≤ 255) (pShort : p.length ≤ 255) (qShort : q.length ≤ 255)
    (same : p.trimZeros = q.trimZeros) (form other : WireForm) (decoder : Decoder) :
    decoder.feedFrame (form.frame header p) = decoder.feedFrame (other.frame header q) ∧
      ((∃ message, decoder.feedFrame (form.frame header p) = (some message, decoder) ∧
        message.header = header) ∨
      decoder.feedFrame (form.frame header p) = decoder.reject) := by
  have first := WireForm.feedFrame_frame form known small pShort decoder
  have second := WireForm.feedFrame_frame other known small qShort decoder
  constructor
  · rw [first, second]
    exact answer_congr decoder header same
  · rw [first]
    exact answer_cases decoder ⟨header, p⟩

/-- A status text as version 1 sends it, and as version 2 sends it with a signature and two zeros
more. -/
theorem feedFrame_wireForm_statusText :
    let header : Header := ⟨253, 7, 1, 1⟩
    let cut : Bytes := [6, 0x6F, 0x6B]
    let filled : Bytes := [6, 0x6F, 0x6B, 0, 0]
    let form : WireForm := .signed 5 (List.replicate 13 0xFE) rfl
    (MessageKind.ofId? header.messageId).isSome = true ∧ cut.trimZeros = filled.trimZeros ∧
      Decoder.empty.feedFrame (WireForm.v1.frame header cut) =
        Decoder.empty.feedFrame (form.frame header filled) ∧
      ∃ message, Decoder.empty.feedFrame (WireForm.v1.frame header cut) =
        (some message, .empty) ∧ message.header = header := by
  intro header cut filled form
  have known : (MessageKind.ofId? header.messageId).isSome = true := by decide
  have same : cut.trimZeros = filled.trimZeros := by decide
  obtain ⟨alike, answered | rejected⟩ :=
    feedFrame_wireForm known (by decide) (by decide) (by decide) same .v1 form .empty
  · exact ⟨known, same, alike, answered⟩
  · have counted := congrArg (fun fed => fed.2.failures) rejected
    have uncounted : (Decoder.empty.feedFrame (WireForm.v1.frame header cut)).2.failures = 0 := by
      decide +kernel
    rw [uncounted] at counted
    cases counted

end Decoder

end MavBridge
