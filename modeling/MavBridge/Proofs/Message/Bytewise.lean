import MavBridge.Proofs.Decoding
import MavBridge.Proofs.Message.Belonging

/-!
# Bytes one at a time

A decoder that is fed byte by byte is given each frame of the stream with the last byte of it, so
that it answers as if it were given the frames of the whole stream.  What carries this is that no
frame is complete between two bytes: a byte completes at most one frame, and nothing is left behind
it.  No frame is dropped uncounted: it gives a message, or it is counted as rejected.
-/

namespace MavBridge

open MessageDecoder (answers after)

/-! ## Where frames end -/

/-- The index of the last byte of each frame, in a stream whose reading starts at some index. -/
def Framing.lastBytes : Framing → Nat → List Nat
  | .noise _ _, _ => []
  | .unfinished _ _ _ _, _ => []
  | .frame gap taken _ _ later, start =>
      (start + gap.length + taken.length - 1) ::
        later.lastBytes (start + gap.length + taken.length)

theorem Framing.length_lastBytes (framing : Framing) (start : Nat) :
    (framing.lastBytes start).length = framing.frames.length := by
  induction framing generalizing start with
  | noise gap isGap => rfl
  | unfinished gap rest isGap isUnfinished => rfl
  | frame gap taken isGap isFrame later inductionHypothesis =>
      rw [lastBytes, frames, List.length_cons, List.length_cons, inductionHypothesis]

theorem Framing.isFrame_of_mem_frames {framing : Framing} {frame : Bytes}
    (membership : frame ∈ framing.frames) : IsFrame frame := by
  induction framing with
  | noise gap isGap => cases membership
  | unfinished gap rest isGap isUnfinished => cases membership
  | frame gap taken isGap isFrame later inductionHypothesis =>
      rcases List.mem_cons.mp membership with rfl | among
      · exact isFrame
      · exact inductionHypothesis among

/-- Without a frame nothing is taken off a stream but noise. -/
theorem Framing.extract_bytes_of_frames_nil {framing : Framing} (unframed : framing.frames = []) :
    extract framing.bytes = (none, framing.leftover) := by
  have drained := framing.drain_bytes
  rw [unframed] at drained
  cases taken : extract framing.bytes with
  | mk frame? rest =>
      cases frame? with
      | none =>
          rw [drain_of_none taken] at drained
          exact congrArg _ (congrArg Prod.snd drained)
      | some frame =>
          rw [drain_of_frame taken] at drained
          cases congrArg Prod.fst drained

theorem IsFrame.exists_concat {frame : Bytes} (isFrame : IsFrame frame) :
    ∃ front last, frame = front ++ [last] := by
  have nonempty : frame ≠ [] := by cases isFrame <;> simp
  exact ⟨frame.dropLast, frame.getLast nonempty, (List.dropLast_append_getLast nonempty).symm⟩

/-- A frame without its last byte is not complete, whatever gap is in front of it. -/
theorem exists_extract_front {gap front : Bytes} {last : UInt8} (isGap : IsGap gap)
    (isFrame : IsFrame (front ++ [last])) :
    ∃ rest, extract (gap ++ front) = (none, rest) := by
  cases taken : extract (gap ++ front) with
  | mk frame? rest =>
      cases frame? with
      | none => exact ⟨rest, rfl⟩
      | some early =>
          -- Taken early, it would leave the last byte behind.
          have whole := extract_frame isGap isFrame []
          have left := extract_append_of_frame taken [last]
          rw [List.append_nil, ← List.append_assoc, left] at whole
          simp at whole

/-! ## Messages with their indices -/

/-- The messages among some answers, each with its index. -/
def messagesAt (indices : List Nat) (answered : List (Option Decoded)) : List (Nat × Decoded) :=
  (indices.zip answered).filterMap fun placed => placed.2.map fun message => (placed.1, message)

theorem messagesAt_cons (index : Nat) (indices : List Nat) (answer : Option Decoded)
    (answered : List (Option Decoded)) :
    messagesAt (index :: indices) (answer :: answered) =
      answer.toList.map ((index, ·)) ++ messagesAt indices answered := by
  cases answer <;> rfl

theorem length_messagesAt {indices : List Nat} {answered : List (Option Decoded)}
    (paired : indices.length = answered.length) :
    (messagesAt indices answered).length = answered.countP (·.isSome) := by
  induction indices generalizing answered with
  | nil =>
      rw [List.eq_nil_of_length_eq_zero paired.symm]
      rfl
  | cons index indices inductionHypothesis =>
      cases answered with
      | nil => cases paired
      | cons answer answered =>
          rw [messagesAt_cons, List.length_append, inductionHypothesis (Nat.succ.inj paired)]
          cases answer with
          | none => simp
          | some message => simp [Nat.add_comm]

namespace Decoder

variable {decoder : Decoder}

/-! ## Frames are accounted for -/

theorem extractor_feedFrame (decoder : Decoder) (frame : Bytes) :
    (decoder.feedFrame frame).2.extractor = decoder.extractor := by
  unfold feedFrame
  dsimp only
  split <;> rfl

theorem judge_ne_incomplete {frame : Bytes} (isFrame : IsFrame frame) :
    judge frame ≠ .incomplete := by
  have headed : (Header.read? frame).isSome = true := by
    have declared := isFrame.frameLength?_eq
    unfold frameLength? at declared
    unfold Header.read?
    cases announced : Version.ofBytes? frame with
    | none => simp [announced] at declared
    | some version =>
        simp only [announced] at declared
        split at declared
        next complete => simp [complete]
        next incomplete => cases declared
  rcases Option.isSome_iff_exists.mp headed with ⟨header, read⟩
  rw [judge, isFrame.extract_eq]
  simp only [read, judgeFrame]
  split
  · simp
  · split <;> simp

/-- A frame gives a message, or one more is counted. -/
theorem accounted_feedFrame {frame : Bytes} (isFrame : IsFrame frame) (decoder : Decoder) :
    (decoder.feedFrame frame).1.toList.length + (decoder.feedFrame frame).2.failures =
      decoder.failures + 1 := by
  have complete := judge_ne_incomplete isFrame
  unfold feedFrame
  cases judged : judge frame with
  | message message => simp [Verdict.message?, Nat.add_comm]
  | rejected => simp [Verdict.message?]
  | incomplete => exact absurd judged complete

theorem accounted_after {frames : List Bytes} (areFrames : ∀ frame ∈ frames, IsFrame frame)
    (decoder : Decoder) :
    (answers decoder frames).countP (·.isSome) + (after decoder frames).failures =
      decoder.failures + frames.length := by
  induction frames generalizing decoder with
  | nil => simp [answers, after]
  | cons frame frames inductionHypothesis =>
      rw [List.forall_mem_cons] at areFrames
      have first := accounted_feedFrame areFrames.1 decoder
      have rest := inductionHypothesis areFrames.2 (decoder.feedFrame frame).2
      have counted : (answers decoder (frame :: frames)).countP (·.isSome) =
          (decoder.feedFrame frame).1.toList.length +
            (answers (decoder.feedFrame frame).2 frames).countP (·.isSome) := by
        rw [answers, List.countP_cons]
        cases given : (decoder.feedFrame frame).1 with
        | none => simp [MessageDecoder.feedFrame]
        | some message => simp [MessageDecoder.feedFrame, Nat.add_comm]
      have followed : after decoder (frame :: frames) =
        after (decoder.feedFrame frame).2 frames := rfl
      rw [counted, followed, List.length_cons]
      omega

/-! ## Byte by byte -/

theorem go_append (decoder : Decoder) (index : Nat) (first second : Bytes) :
    feedAll.go decoder index (first ++ second) =
      ((feedAll.go decoder index first).1 ++
          (feedAll.go (feedAll.go decoder index first).2 (index + first.length) second).1,
        (feedAll.go (feedAll.go decoder index first).2 (index + first.length) second).2) := by
  induction first generalizing decoder index with
  | nil => rfl
  | cons byte first inductionHypothesis =>
      have shifted : index + 1 + first.length = index + (byte :: first).length := by
        rw [List.length_cons]
        omega
      simp only [List.cons_append, feedAll.go, inductionHypothesis, shifted, List.append_assoc]

theorem feed_of_none {byte : UInt8} {rest : Bytes}
    (taken : extract (decoder.extractor.buffer ++ [byte]) = (none, rest)) :
    decoder.feed byte = (none, { decoder with extractor := ⟨rest⟩ }) := by
  simp only [feed, Extractor.next, Extractor.push, taken]

theorem feed_of_frame {byte : UInt8} {frame rest : Bytes}
    (taken : extract (decoder.extractor.buffer ++ [byte]) = (some frame, rest)) :
    decoder.feed byte = { decoder with extractor := ⟨rest⟩ }.feedFrame frame := by
  simp only [feed, Extractor.next, Extractor.push, taken]

/-- Bytes that complete no frame give nothing, and are kept as if they had come at once. -/
theorem go_of_incomplete {bytes rest : Bytes} (index : Nat)
    (settled : extract decoder.extractor.buffer = (none, decoder.extractor.buffer))
    (incomplete : extract (decoder.extractor.buffer ++ bytes) = (none, rest)) :
    feedAll.go decoder index bytes = ([], { decoder with extractor := ⟨rest⟩ }) := by
  induction bytes generalizing decoder index with
  | nil =>
      rw [List.append_nil, settled] at incomplete
      cases incomplete
      rfl
  | cons byte bytes inductionHypothesis =>
      have whole : decoder.extractor.buffer ++ byte :: bytes =
        decoder.extractor.buffer ++ [byte] ++ bytes := List.append_cons _ _ _
      rw [whole] at incomplete
      cases taken : extract (decoder.extractor.buffer ++ [byte]) with
      | mk frame? kept =>
          cases frame? with
          | some frame =>
              rw [extract_append_of_frame taken bytes] at incomplete
              cases incomplete
          | none =>
              have settledAgain : extract kept = (none, kept) := by
                have again := extract_rest_append taken []
                rwa [List.append_nil, List.append_nil, taken] at again
              have later : feedAll.go { decoder with extractor := ⟨kept⟩ } (index + 1) bytes =
                  ([], { decoder with extractor := ⟨rest⟩ }) :=
                inductionHypothesis (index + 1) settledAgain
                  ((extract_rest_append taken bytes).trans incomplete)
              simp only [feedAll.go, feed_of_none taken, later]
              rfl

/-- A frame is judged with its last byte, and nothing is left of it. -/
theorem go_frame {gap frame : Bytes} (isGap : IsGap gap) (isFrame : IsFrame frame)
    (clear : decoder.extractor.buffer = []) (index : Nat) :
    feedAll.go decoder index (gap ++ frame) =
      ((decoder.feedFrame frame).1.toList.map ((index + gap.length + frame.length - 1, ·)),
        (decoder.feedFrame frame).2) := by
  obtain ⟨front, last, rfl⟩ := isFrame.exists_concat
  obtain ⟨rest, incomplete⟩ := exists_extract_front isGap isFrame
  have quiet : feedAll.go decoder index (gap ++ front) =
      ([], { decoder with extractor := ⟨rest⟩ }) := by
    refine go_of_incomplete index ?_ ?_
    · rw [clear]
      exact extract_nil
    · rw [clear]
      exact incomplete
  have completed : extract (rest ++ [last]) = (some (front ++ [last]), []) := by
    rw [extract_rest_append incomplete [last], List.append_assoc]
    simpa using extract_frame isGap isFrame []
  have whole : { decoder with extractor := ⟨[]⟩ } = decoder := by
    cases decoder
    rw [← clear]
  have fed : { decoder with extractor := ⟨rest⟩ }.feed last =
      decoder.feedFrame (front ++ [last]) := by
    refine (feed_of_frame completed).trans ?_
    rw [whole]
  have place : index + (gap ++ front).length =
      index + gap.length + (front ++ [last]).length - 1 := by
    simp only [List.length_append, List.length_singleton]
    omega
  rw [← List.append_assoc, go_append, quiet]
  simp only [feedAll.go, fed, place, List.nil_append, List.append_nil]

/-- Without a frame nothing is answered. -/
theorem go_of_frames_nil {framing : Framing} (unframed : framing.frames = [])
    (clear : decoder.extractor.buffer = []) (index : Nat) :
    feedAll.go decoder index framing.bytes =
      ([], { decoder with extractor := ⟨framing.leftover⟩ }) := by
  refine go_of_incomplete index ?_ ?_
  · rw [clear]
    exact extract_nil
  · rw [clear]
    exact Framing.extract_bytes_of_frames_nil unframed

/-- Fed byte by byte, a decoder with nothing buffered answers to the frames of a reading, to each
with its last byte. -/
theorem go_bytes (framing : Framing) (clear : decoder.extractor.buffer = []) (index : Nat) :
    feedAll.go decoder index framing.bytes =
      (messagesAt (framing.lastBytes index) (answers decoder framing.frames),
        { after decoder framing.frames with extractor := ⟨framing.leftover⟩ }) := by
  induction framing generalizing decoder index with
  | noise gap isGap => exact go_of_frames_nil rfl clear index
  | unfinished gap rest isGap isUnfinished => exact go_of_frames_nil rfl clear index
  | frame gap taken isGap isFrame later inductionHypothesis =>
      have stillClear : (decoder.feedFrame taken).2.extractor.buffer = [] := by
        rw [extractor_feedFrame, clear]
      have reached : index + (gap ++ taken).length = index + gap.length + taken.length := by
        rw [List.length_append, Nat.add_assoc]
      rw [Framing.bytes, go_append, go_frame isGap isFrame clear, inductionHypothesis stillClear,
        reached, Framing.lastBytes, Framing.frames, answers, messagesAt_cons]
      rfl

/-- Fed byte by byte, a decoder with nothing buffered gives the messages of the frames of the whole
stream, each with the last byte of its frame, counts the frames that it rejects, and keeps what
draining the stream leaves; every frame gives a message or is counted, and none is found incomplete
when it is judged.  A single frame is answered, and counted, in the same way at once and byte by
byte. -/
theorem bytewise_eq_framewise {decoder : Decoder} (clear : decoder.extractor.buffered = 0) :
    (∀ stream : Bytes,
      let frames := (drain stream).1
      let fed := decoder.feedAll stream
      (∃ framing : Framing, framing.bytes = stream ∧ framing.frames = frames ∧
        fed.1 = messagesAt (framing.lastBytes 0) (answers decoder frames)) ∧
      fed.2 = { after decoder frames with extractor := ⟨(drain stream).2⟩ } ∧
      fed.1.length + fed.2.failures = decoder.failures + frames.length ∧
      ∀ frame ∈ frames, judge frame ≠ .incomplete) ∧
    ∀ frame, IsFrame frame → decoder.feedBytewise frame = decoder.feedFrame frame := by
  have empty : decoder.extractor.buffer = [] := List.length_eq_zero_iff.mp clear
  constructor
  · intro stream frames fed
    obtain ⟨framing, rfl⟩ := Framing.exists_bytes_eq stream
    have drained := framing.drain_bytes
    have framed : frames = framing.frames := congrArg Prod.fst drained
    have walked : fed = _ := go_bytes framing empty 0
    have areFrames : ∀ frame ∈ framing.frames, IsFrame frame :=
      fun frame membership => Framing.isFrame_of_mem_frames membership
    rw [drained, framed, walked]
    refine ⟨⟨framing, rfl, rfl, rfl⟩, rfl, ?_, ?_⟩
    · rw [length_messagesAt (by rw [framing.length_lastBytes, MessageDecoder.length_answers])]
      exact accounted_after areFrames decoder
    · intro frame membership
      exact judge_ne_incomplete (areFrames frame membership)
  · intro frame isFrame
    have fed : decoder.feedAll frame = _ := go_frame isGap_nil isFrame empty 0
    rw [feedBytewise, fed]
    cases given : (decoder.feedFrame frame).1 with
    | none => simp [Prod.ext_iff, given]
    | some message => simp [Prod.ext_iff, given]

/-- A heartbeat with a garbled sequence number, a good one, and the start of another, with noise in
front of each. -/
def noisyStream : Bytes :=
  [0x55, 0xFD, 9, 0, 0, 1, 1, 1, 0, 0, 0, 0, 0, 0, 0, 2, 3, 0x80, 4, 3, 0x24, 0xFA, 7]
    ++ innerHeartbeat ++ [8, 0xFD, 9]

theorem bytewise_eq_framewise_noisyStream :
    Decoder.empty.extractor.buffered = 0 ∧
      (empty.feedAll noisyStream).1 = [(43, ⟨1, 1, 0, .heartbeat ⟨0, 2, 3, 0x80, 4, 3⟩⟩)] ∧
      (empty.feedAll noisyStream).2 = ⟨⟨[0xFD, 9]⟩, 1⟩ ∧
      (drain noisyStream).1.length = 2 ∧
      empty.feedBytewise innerHeartbeat = empty.feedFrame innerHeartbeat := by
  have clear : Decoder.empty.extractor.buffered = 0 := rfl
  have messages : (empty.feedAll noisyStream).1 =
      [(43, ⟨1, 1, 0, .heartbeat ⟨0, 2, 3, 0x80, 4, 3⟩⟩)] := by decide +kernel
  have kept : (empty.feedAll noisyStream).2 = ⟨⟨[0xFD, 9]⟩, 1⟩ := by decide +kernel
  obtain ⟨streams, single⟩ := bytewise_eq_framewise clear
  obtain ⟨-, -, accounted, -⟩ := streams noisyStream
  refine ⟨clear, messages, kept, ?_, single _ (.v2 rfl)⟩
  rw [messages, kept] at accounted
  simpa [empty] using accounted.symm

end Decoder

end MavBridge
