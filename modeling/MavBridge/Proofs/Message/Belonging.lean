import MavBridge.Decoder
import MavBridge.Proofs.Frame.Framing
import MavBridge.Proofs.Message.Normal

/-!
# Frames and the messages that are taken from them

A frame of a known kind is read as a stream: when it does not check, or asks for an unknown feature,
reading goes on behind its marker, and a packet inside its payload may be taken in its place.
`Nested` says which packet that is, and `Belongs` that a decoder's answer is the frame's own.  The
two exclude each other, except where the packet inside has the very header of a frame that checks.
-/

namespace MavBridge

/-! ## The first packet of a byte string -/

namespace Version

theorem ofMarker?_eq_some_iff {byte : UInt8} {version : Version} :
    ofMarker? byte = some version ↔ byte = version.marker := by
  unfold ofMarker?
  by_cases first : byte = v1.marker
  · cases version <;> simp [first, marker]
  · by_cases second : byte = v2.marker <;> cases version <;> simp_all [marker]

theorem ofBytes?_eq_some_iff {bytes : Bytes} {version : Version} :
    ofBytes? bytes = some version ↔ bytes.head? = some version.marker := by
  cases bytes with
  | nil => simp [ofBytes?]
  | cons byte rest => simp [ofBytes?, ofMarker?_eq_some_iff]

end Version

namespace Packet

/-- A packet that checks starts somewhere in `bytes`, and whatever starts before it is refused. -/
def Occurs (version : Version) (bytes : Bytes) (packet : Packet) : Prop :=
  ∃ skipped rest, bytes = skipped ++ rest ∧ rest.head? = some version.marker ∧
    examine version rest = .packet packet ∧
    ∀ earlier refused, skipped = earlier ++ refused → refused.head? = some version.marker →
      examine version (refused ++ rest) = .refused

variable {version : Version} {bytes : Bytes} {packet : Packet}

theorem Occurs.here (marked : bytes.head? = some version.marker)
    (checked : examine version bytes = .packet packet) : Occurs version bytes packet := by
  refine ⟨[], bytes, rfl, marked, checked, ?_⟩
  intro earlier refused parted started
  rcases List.append_eq_nil_iff.mp parted.symm with ⟨-, rfl⟩
  simp at started

theorem Occurs.behind {byte : UInt8} (occurs : Occurs version bytes packet)
    (passed : byte = version.marker → examine version (byte :: bytes) = .refused) :
    Occurs version (byte :: bytes) packet := by
  rcases occurs with ⟨skipped, rest, rfl, marked, checked, before⟩
  refine ⟨byte :: skipped, rest, rfl, marked, checked, ?_⟩
  intro earlier refused parted started
  rcases List.cons_eq_append_iff.mp parted with ⟨rfl, rfl⟩ | ⟨earlier, rfl, rfl⟩
  · exact passed (by simpa using started)
  · exact before earlier refused rfl started

theorem occurs_of_first? (found : first? version bytes = some packet) :
    Occurs version bytes packet := by
  fun_induction first? version bytes with
  | case1 => simp at found
  | case2 rest broken => simp at found
  | case3 rest refused inductionHypothesis =>
      exact (inductionHypothesis found).behind fun _ => refused
  | case4 rest taken checked =>
      cases found
      exact .here rfl checked
  | case5 byte rest unmarked inductionHypothesis =>
      exact (inductionHypothesis found).behind fun marked => absurd marked unmarked

theorem first?_of_occurs (occurs : Occurs version bytes packet) :
    first? version bytes = some packet := by
  induction bytes with
  | nil =>
      rcases occurs with ⟨skipped, rest, parted, marked, -, -⟩
      rcases List.append_eq_nil_iff.mp parted.symm with ⟨-, rfl⟩
      simp at marked
  | cons byte bytes inductionHypothesis =>
      rcases occurs with ⟨skipped, rest, parted, marked, checked, before⟩
      rcases List.cons_eq_append_iff.mp parted with ⟨rfl, rfl⟩ | ⟨skipped, rfl, rfl⟩
      · have start : byte = version.marker := by simpa using marked
        rw [first?, if_pos start, checked]
      · have later : first? version (skipped ++ rest) = some packet := by
          refine inductionHypothesis ⟨skipped, rest, rfl, marked, checked, ?_⟩
          intro earlier refused split started
          exact before (byte :: earlier) refused (by rw [split, List.cons_append]) started
        by_cases start : byte = version.marker
        · have refused : examine version (byte :: (skipped ++ rest)) = .refused :=
            before [] (byte :: skipped) rfl (by rw [start, List.head?_cons])
          rw [first?, if_pos start, refused, later]
        · rw [first?, if_neg start, later]

theorem first?_eq_some_iff : first? version bytes = some packet ↔ Occurs version bytes packet :=
  ⟨occurs_of_first?, first?_of_occurs⟩

end Packet

/-! ## Whole frames -/

namespace Packet

/-- The features that a frame of `version` asks for are known. -/
def Understood (version : Version) (frame : Bytes) : Prop := hasUnknownFlags version frame = false

/-- The checksum of a frame, over its header and its payload and closed by the byte of its kind of
message, is the one that the frame carries behind its payload. -/
def Checks (version : Version) (frame : Bytes) : Prop :=
  let length := (frame.u8 1).toNat
  (checksum (Header.ofBytes version frame).messageId
      (frame.slice 1 (version.headerLength - 1 + length))).toNat =
    frame.field (version.headerLength + length) checksumLength

/-- The packet that a frame announces, whether or not it checks. -/
def announced (version : Version) (frame : Bytes) : Packet :=
  ⟨Header.ofBytes version frame, frame.slice version.headerLength (frame.u8 1).toNat⟩

instance (version : Version) (frame : Bytes) : Decidable (Understood version frame) :=
  inferInstanceAs (Decidable (_ = _))

instance (version : Version) (frame : Bytes) : Decidable (Checks version frame) :=
  inferInstanceAs (Decidable (_ = _))

variable {version : Version} {frame : Bytes} {header : Header}

theorem examine_of_isFrame (isFrame : IsFrame frame)
    (started : Version.ofBytes? frame = some version) :
    examine version frame =
      if Understood version frame ∧ Checks version frame then .packet (announced version frame)
      else .refused := by
  have declared := isFrame.frameLength?_eq
  simp only [frameLength?, started] at declared
  split at declared
  next long =>
    have whole : declaredLength version frame = frame.length := by simpa using declared
    have start : version.headerLength - 1 + (frame.u8 1).toNat + 1 =
        version.headerLength + (frame.u8 1).toNat := by
      have := version.two_lt_headerLength
      omega
    have flags : hasUnknownFlags version frame = true ↔ ¬ Understood version frame := by
      simp [Understood]
    unfold examine
    rw [if_neg (Nat.not_lt.mpr long), if_neg (Nat.not_lt.mpr (Nat.le_of_eq whole))]
    simp only [start, flags]
    by_cases understood : Understood version frame
    · simp [understood, Checks, announced]
    · simp [understood]
  next short => simp at declared

/-- A frame is read as the packet that it announces if it checks, and else behind its marker. -/
theorem read?_of_isFrame (isFrame : IsFrame frame) (started : frame.head? = some version.marker) :
    read? frame =
      if Understood version frame ∧ Checks version frame then some (announced version frame)
      else first? version frame.tail := by
  have examined := examine_of_isFrame isFrame (Version.ofBytes?_eq_some_iff.mpr started)
  have reading : readingVersion frame = version := by
    unfold readingVersion
    rw [started]
    cases version <;> simp [Version.marker]
  cases frame with
  | nil => simp at started
  | cons byte rest =>
      have start : byte = version.marker := by simpa using started
      rw [read?, reading, first?, if_pos start, examined, List.tail_cons]
      by_cases own : Understood version (byte :: rest) ∧ Checks version (byte :: rest)
      · simp only [own, and_self, if_true]
      · simp only [own, if_false]

/-- A packet that is found in a frame behind its marker. -/
def Nested (version : Version) (frame : Bytes) (packet : Packet) : Prop :=
  Occurs version frame.tail packet

end Packet

/-! ## Answers -/

/-- The number of the kind of message that a body is of. -/
def Body.messageId : Body → Nat
  | .heartbeat _ => 0
  | .sysStatus _ => 1
  | .paramValue _ => 22
  | .gpsRaw _ => 24
  | .attitude _ => 30
  | .globalPosition _ => 33
  | .vfrHud _ => 74
  | .statusText _ => 253
  | .unknown messageId => messageId

theorem Message.messageId_body (message : Message) : message.body.messageId = message.kind.id := by
  unfold Message.body
  split_ifs with heartbeat sysStatus paramValue gpsRaw attitude globalPosition vfrHud statusText
  · rw [heartbeat]; rfl
  · rw [sysStatus]; rfl
  · rw [paramValue]; rfl
  · rw [gpsRaw]; rfl
  · rw [attitude]; rfl
  · rw [globalPosition]; rfl
  · rw [vfrHud]; rfl
  · rw [statusText]; rfl
  · rfl

/-- The header that a decoded message says its frame has. -/
def Decoded.header (message : Decoded) : Header where
  messageId := message.body.messageId
  sequence := message.sequence
  systemId := message.systemId
  componentId := message.componentId

theorem Decoded.header_ofHeader {header : Header} {payload : Bytes} {message : Message}
    (read : Message.ofPayload? header.messageId payload = some message) :
    (Decoded.ofHeader header message.body).header = header := by
  have named : message.body.messageId = header.messageId := by
    rw [message.messageId_body]
    simp only [Message.ofPayload?, Option.bind_eq_bind, Option.bind_eq_some_iff] at read
    rcases read with ⟨kind, found, read⟩
    split at read
    · cases read
      exact (MessageKind.ofId?_eq_some_iff.mp found).2
    · simp at read
  simp only [Decoded.header, Decoded.ofHeader, named]

namespace Decoder

/-- Nothing, and one more frame counted as rejected. -/
def reject (decoder : Decoder) : Option Decoded × Decoder :=
  (none, { decoder with failures := decoder.failures + 1 })

/-- The message of a packet that checks, unless its payload holds a value that is not listed. -/
def answer (decoder : Decoder) (packet : Packet) : Option Decoded × Decoder :=
  match Message.ofPayload? packet.header.messageId packet.payload with
  | some message => (some (.ofHeader packet.header message.body), decoder)
  | none => decoder.reject

/-- The answer to a frame is the frame's own: a message only with the frame's header, and only if
the frame checks; if it does not, nothing, and the frame is counted. -/
structure Belongs (decoder : Decoder) (version : Version) (frame : Bytes) (header : Header) :
    Prop where
  answered : ∀ message, (decoder.feedFrame frame).1 = some message →
    Packet.Checks version frame ∧ message.header = header
  rejected : ¬ Packet.Checks version frame → decoder.feedFrame frame = decoder.reject

theorem feedFrame_of_isFrame {frame : Bytes} {header : Header} (isFrame : IsFrame frame)
    (read : Header.read? frame = some header)
    (known : (MessageKind.ofId? header.messageId).isSome = true) (decoder : Decoder) :
    decoder.feedFrame frame =
      match Packet.read? frame with
      | some packet => decoder.answer packet
      | none => decoder.reject := by
  have alone := isFrame.extract_eq
  have listed : (MessageKind.ofId? header.messageId).isNone = false := by
    rw [← Option.not_isSome, known, Bool.not_true]
  have judged : judge frame = judgeFrame header frame := by
    simp only [judge, alone, read]
  rw [feedFrame, judged, judgeFrame, listed, if_neg Bool.false_ne_true]
  cases found : Packet.read? frame with
  | none => simp [Message.read?, found, Verdict.message?, reject]
  | some packet =>
      cases parsed : Message.ofPayload? packet.header.messageId packet.payload with
      | none => simp [Message.read?, found, parsed, Verdict.message?, answer, reject]
      | some message => simp [Message.read?, found, parsed, Verdict.message?, answer]

theorem answer_of_some {packet : Packet} {message : Message} (decoder : Decoder)
    (parsed : Message.ofPayload? packet.header.messageId packet.payload = some message) :
    decoder.answer packet = (some (.ofHeader packet.header message.body), decoder) := by
  simp only [answer, parsed]

theorem answer_of_none {packet : Packet} (decoder : Decoder)
    (parsed : Message.ofPayload? packet.header.messageId packet.payload = none) :
    decoder.answer packet = decoder.reject := by
  simp only [answer, parsed]

section Answers

variable {decoder : Decoder} {version : Version} {frame : Bytes} {header : Header}

theorem belongs_of_reject (rejected : decoder.feedFrame frame = decoder.reject) :
    decoder.Belongs version frame header := by
  refine ⟨?_, fun _ => rejected⟩
  intro message answered
  simp [rejected, reject] at answered

/-- The answer to the frame's own packet belongs to a frame that checks. -/
theorem belongs_of_own (checks : Packet.Checks version frame)
    (own : decoder.feedFrame frame = decoder.answer (.announced version frame)) :
    decoder.Belongs version frame (Header.ofBytes version frame) := by
  cases parsed : Message.ofPayload? (Header.ofBytes version frame).messageId
      (Packet.announced version frame).payload with
  | none => exact belongs_of_reject (own.trans (answer_of_none decoder parsed))
  | some message =>
      refine ⟨?_, fun unchecked => absurd checks unchecked⟩
      intro answered given
      rw [own, answer_of_some decoder parsed] at given
      cases given
      exact ⟨checks, Decoded.header_ofHeader parsed⟩

/-- A message from inside a frame belongs to it only by chance: when the frame checks and has the
same header. -/
theorem belongs_of_nested_iff {packet : Packet} {message : Message}
    (nested : decoder.feedFrame frame = decoder.answer packet)
    (parsed : Message.ofPayload? packet.header.messageId packet.payload = some message) :
    decoder.Belongs version frame header ↔
      Packet.Checks version frame ∧ packet.header = header := by
  rw [answer_of_some decoder parsed] at nested
  constructor
  · intro belongs
    rw [← Decoded.header_ofHeader parsed]
    exact belongs.answered _ (by rw [nested])
  · rintro ⟨checks, rfl⟩
    refine ⟨?_, fun unchecked => absurd checks unchecked⟩
    intro answered given
    rw [nested] at given
    cases given
    exact ⟨checks, Decoded.header_ofHeader parsed⟩

end Answers

/-- What a decoder answers to a complete frame of a known kind.  If the frame checks and asks for no
unknown feature, its own packet is judged; if not, the first packet inside it that checks; and
without such a packet the frame is rejected and counted.  Hence the answer belongs to the frame
exactly if its own packet was judged, or every message that a packet inside it carries has the
header of a frame that checks, which holds if there is none. -/
theorem feedFrame_belongs_iff {buffer frame rest : Bytes} {version : Version} {header : Header}
    (taken : extract buffer = (some frame, rest)) (started : frame.head? = some version.marker)
    (read : Header.read? frame = some header)
    (known : (MessageKind.ofId? header.messageId).isSome = true) (decoder : Decoder) :
    (Packet.Understood version frame ∧ Packet.Checks version frame →
      decoder.feedFrame frame = decoder.answer (.announced version frame) ∧
        (Packet.announced version frame).header = header) ∧
    (¬ (Packet.Understood version frame ∧ Packet.Checks version frame) →
      (∀ packet, Packet.Nested version frame packet →
        decoder.feedFrame frame = decoder.answer packet) ∧
      ((∀ packet, ¬ Packet.Nested version frame packet) →
        decoder.feedFrame frame = decoder.reject)) ∧
    (decoder.Belongs version frame header ↔
      (Packet.Understood version frame ∧ Packet.Checks version frame) ∨
      ∀ packet message, Packet.Nested version frame packet →
        Message.ofPayload? packet.header.messageId packet.payload = some message →
        Packet.Checks version frame ∧ packet.header = header) := by
  rcases isFrame_of_extract taken with ⟨isFrame, -⟩
  have fed := feedFrame_of_isFrame isFrame read known decoder
  rw [Packet.read?_of_isFrame isFrame started] at fed
  have headed : Header.ofBytes version frame = header := by
    simp only [Header.read?, Version.ofBytes?_eq_some_iff.mpr started] at read
    split at read
    · exact Option.some.inj read
    · simp at read
  by_cases own : Packet.Understood version frame ∧ Packet.Checks version frame
  · rw [if_pos own] at fed
    refine ⟨fun _ => ⟨fed, headed⟩, fun notOwn => absurd own notOwn, ?_⟩
    exact iff_of_true (headed ▸ belongs_of_own own.2 fed) (.inl own)
  · rw [if_neg own] at fed
    refine ⟨fun isOwn => absurd isOwn own, fun _ => ⟨?_, ?_⟩, ?_⟩
    · intro packet nested
      rw [fed, Packet.first?_of_occurs nested]
    · intro missing
      cases found : Packet.first? version frame.tail with
      | none => rw [fed, found]
      | some packet => exact absurd (Packet.occurs_of_first? found) (missing packet)
    · rw [or_iff_right own]
      cases found : Packet.first? version frame.tail with
      | none =>
          rw [found] at fed
          refine iff_of_true (belongs_of_reject fed) ?_
          intro packet message nested
          rw [Packet.Nested, ← Packet.first?_eq_some_iff, found] at nested
          simp at nested
      | some packet =>
          rw [found] at fed
          have only : ∀ other, Packet.Nested version frame other ↔ packet = other := by
            intro other
            rw [Packet.Nested, ← Packet.first?_eq_some_iff, found, Option.some.injEq]
          simp only [only, forall_eq', forall_comm (α := Message)]
          cases parsed : Message.ofPayload? packet.header.messageId packet.payload with
          | none =>
              exact iff_of_true (belongs_of_reject (fed.trans (answer_of_none decoder parsed)))
                (by simp)
          | some message =>
              rw [belongs_of_nested_iff fed parsed]
              simp

/-- The heartbeat of the system 1, as a frame of its own. -/
def innerHeartbeat : Bytes :=
  [0xFD, 9, 0, 0, 0, 1, 1, 0, 0, 0, 0, 0, 0, 0, 2, 3, 0x80, 4, 3, 0x24, 0xFA]

/-- The system 9 has sent a heartbeat of the system 1 on as data, and one bit of the frame, the
lowest of its sequence number, was lost on the way. -/
def garbledData : Bytes :=
  [0xFD, 23, 0, 0, 6, 9, 8, 131, 0, 0] ++ [0, 0] ++ innerHeartbeat ++ [0x10, 0xFD]

/-- The frame does not check, and yet it is answered with the heartbeat inside it, uncounted. -/
theorem answer_not_belongs :
    ¬ ∀ (buffer frame rest : Bytes) (version : Version) (header : Header),
      extract buffer = (some frame, rest) → frame.head? = some version.marker →
      Header.read? frame = some header → (MessageKind.ofId? header.messageId).isSome = true →
      ∀ decoder : Decoder, decoder.Belongs version frame header := by
  intro belongs
  have unchecked : ¬ Packet.Checks .v2 garbledData := by decide +kernel
  have answered : Decoder.empty.feedFrame garbledData =
      (some ⟨1, 1, 0, .heartbeat ⟨0, 2, 3, 0x80, 4, 3⟩⟩, .empty) := by decide +kernel
  have garbled := belongs garbledData garbledData [] .v2 ⟨131, 6, 9, 8⟩ (by decide) rfl rfl
    (by decide) .empty
  have rejected := garbled.rejected unchecked
  simp [answered, reject] at rejected

theorem feedFrame_belongs_iff_garbledData :
    extract garbledData = (some garbledData, []) ∧
      Header.read? garbledData = some ⟨131, 6, 9, 8⟩ ∧ ¬ Packet.Checks .v2 garbledData ∧
      Packet.Nested .v2 garbledData ⟨⟨0, 0, 1, 1⟩, [0, 0, 0, 0, 2, 3, 0x80, 4, 3]⟩ ∧
      Decoder.empty.feedFrame garbledData =
        Decoder.empty.answer ⟨⟨0, 0, 1, 1⟩, [0, 0, 0, 0, 2, 3, 0x80, 4, 3]⟩ ∧
      ¬ Decoder.empty.Belongs .v2 garbledData ⟨131, 6, 9, 8⟩ := by
  have taken : extract garbledData = (some garbledData, []) := by decide
  have unchecked : ¬ Packet.Checks .v2 garbledData := by decide +kernel
  have nested : Packet.Nested .v2 garbledData ⟨⟨0, 0, 1, 1⟩, [0, 0, 0, 0, 2, 3, 0x80, 4, 3]⟩ :=
    Packet.occurs_of_first? (by decide +kernel)
  have parsed : (Message.ofPayload? 0 [0, 0, 0, 0, 2, 3, 0x80, 4, 3]).isSome = true := by decide
  rcases Option.isSome_iff_exists.mp parsed with ⟨message, parsed⟩
  have started : garbledData.head? = some Version.v2.marker := rfl
  have read : Header.read? garbledData = some ⟨131, 6, 9, 8⟩ := rfl
  rcases feedFrame_belongs_iff taken started read (by decide) .empty with ⟨-, inside, belongs⟩
  refine ⟨taken, read, unchecked, nested, (inside fun own => unchecked own.2).1 _ nested, ?_⟩
  rw [belongs]
  rintro (own | chance)
  · exact unchecked own.2
  · exact unchecked (chance _ message nested parsed).1

end Decoder

end MavBridge
