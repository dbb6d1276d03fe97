import MavBridge.Device.Scripted
import MavBridge.Link.Handshake
import MavBridge.Proofs.Decoding
import MavBridge.Proofs.Frame.Chunking
import MavBridge.Proofs.Frame.Framing

/-!
# The replay of a handshake

A handshake reads a part of the stream of a device, and hands over a replay in its place.  The
frames in front of the vehicle's heartbeat are in the replay without the noise between them, the
rest of the buffer is at its end, and another extractor frames it together with the bytes that
arrive later.  `Tracks` is what the handshake keeps to on the way: replay and buffer together stand
for all that has been read.
-/

namespace MavBridge

open MessageDecoder (after firstVehicle? firstVehicle?_append firstVehicle?_singleton)

namespace Handshake

variable {σ δ : Type}

/-- The polls of a device: from which state to which, and what they read. -/
inductive Polled (device : Transport σ) : σ → List Bytes → σ → Prop where
  | done {s : σ} : Polled device s [] s
  | read {s next last : σ} {chunk : Bytes} {chunks : List Bytes} :
      poll device s = (.ok chunk, next) → Polled device next chunks last →
      Polled device s (chunk :: chunks) last

variable [MessageDecoder δ]

/-- Where a handshake stands that has read some bytes and judged some frames, given to `decoder` one
after the other. -/
structure Tracks (decoder : δ) (read : Bytes) (frames : List Bytes) (handshake : Handshake δ) :
    Prop where
  /-- The replay is the frames, and no more. -/
  replayed : ∀ later,
    drain (handshake.replay ++ later) = (frames ++ (drain later).1, (drain later).2)
  /-- The frames have been taken off the bytes, and the buffer stands for what is left. -/
  pending : ∀ later,
    drain (read ++ later) =
      (frames ++ (drain (handshake.buffer ++ later)).1, (drain (handshake.buffer ++ later)).2)
  judged : handshake.decoder = after decoder frames
  silent : firstVehicle? decoder frames = none

/-- A greeting is right about the bytes that have been read. -/
structure Greets (decoder : δ) (read : Bytes) (greeting : Greeting) : Prop where
  vehicle : firstVehicle? decoder (drain read).1 = some greeting.vehicle
  replay : ∀ later, drain (greeting.replay ++ later) = drain (read ++ later)

theorem tracks_start (decoder : δ) : Tracks decoder [] (drain []).1 { decoder } := by
  rw [drain_nil]
  refine ⟨?_, ?_, rfl, rfl⟩
  · intro later
    simp
  · intro later
    simp

variable {decoder : δ} {read : Bytes} {frames : List Bytes} {handshake : Handshake δ}

/-! ## One frame -/

/-- Settling ends without a complete frame. -/
theorem settle_of_none {rest : Bytes} (taken : extract handshake.buffer = (none, rest)) :
    handshake.settle = (none, { handshake with buffer := rest }) := by
  rw [settle]
  split
  next last last_eq => simp_all
  next frame last last_eq => simp_all

/-- Settling judges a complete frame, and goes on unless it announces a vehicle. -/
theorem settle_of_frame {frame rest : Bytes}
    (taken : extract handshake.buffer = (some frame, rest)) :
    handshake.settle =
      match (MessageDecoder.feedFrame handshake.decoder frame).1.bind Decoded.vehicle? with
      | some vehicle =>
          (some ⟨vehicle, handshake.replay ++ frame ++ rest⟩,
            ⟨(MessageDecoder.feedFrame handshake.decoder frame).2, [], handshake.replay ++ frame⟩)
      | none =>
          settle ⟨(MessageDecoder.feedFrame handshake.decoder frame).2, rest,
            handshake.replay ++ frame⟩ := by
  rw [settle]
  split
  next last last_eq => simp_all
  next other last last_eq =>
    rw [taken] at last_eq
    cases last_eq
    rfl

/-- A frame that announces no vehicle goes into the replay. -/
theorem Tracks.keep (tracks : Tracks decoder read frames handshake) {frame rest : Bytes}
    (taken : extract handshake.buffer = (some frame, rest))
    (unknown : (MessageDecoder.feedFrame handshake.decoder frame).1.bind Decoded.vehicle? = none) :
    Tracks decoder read (frames ++ [frame])
      ⟨(MessageDecoder.feedFrame handshake.decoder frame).2, rest, handshake.replay ++ frame⟩ := by
  rcases isFrame_of_extract taken with ⟨isFrame, -⟩
  refine ⟨?_, ?_, ?_, ?_⟩
  · intro later
    rw [List.append_assoc, tracks.replayed, isFrame.drain_append]
    simp
  · intro later
    rw [tracks.pending, drain_of_frame (extract_append_of_frame taken later)]
    simp
  · rw [MessageDecoder.after_append, ← tracks.judged]
    rfl
  · rw [firstVehicle?_append, tracks.silent, ← tracks.judged, firstVehicle?_singleton, unknown]
    rfl

/-- A frame that announces a vehicle ends the handshake. -/
theorem Tracks.greet (tracks : Tracks decoder read frames handshake) {frame rest : Bytes}
    {vehicle : Identity} (taken : extract handshake.buffer = (some frame, rest))
    (found : (MessageDecoder.feedFrame handshake.decoder frame).1.bind Decoded.vehicle? =
      some vehicle) :
    Greets decoder read ⟨vehicle, handshake.replay ++ frame ++ rest⟩ := by
  rcases isFrame_of_extract taken with ⟨isFrame, -⟩
  constructor
  · have framed := tracks.pending []
    simp only [List.append_nil, drain_of_frame taken] at framed
    rw [framed, firstVehicle?_append, tracks.silent, Option.none_or, ← tracks.judged,
      ← List.singleton_append, firstVehicle?_append, firstVehicle?_singleton, found]
    rfl
  · intro later
    -- The noise in front of the frame is gone, which the second extractor does not notice.
    have again : drain (frame ++ rest ++ later) = drain (handshake.buffer ++ later) := by
      rw [List.append_assoc, isFrame.drain_append,
        drain_of_frame (extract_append_of_frame taken later)]
    rw [tracks.pending, List.append_assoc handshake.replay, List.append_assoc handshake.replay,
      tracks.replayed, again]

/-- Without a complete frame, all frames in the bytes have been judged. -/
theorem Tracks.wait (tracks : Tracks decoder read frames handshake) {rest : Bytes}
    (taken : extract handshake.buffer = (none, rest)) :
    Tracks decoder read (drain read).1 { handshake with buffer := rest } := by
  have framed : (drain read).1 = frames := by
    have whole := tracks.pending []
    simp only [List.append_nil, drain_of_none taken] at whole
    rw [whole]
  rw [framed]
  refine ⟨tracks.replayed, ?_, tracks.judged, tracks.silent⟩
  intro later
  rw [tracks.pending, drain_congr (extract_rest_append taken later)]

/-! ## One chunk -/

theorem Tracks.arrive (tracks : Tracks decoder read frames handshake) (chunk : Bytes) :
    Tracks decoder (read ++ chunk) frames
      { handshake with buffer := handshake.buffer ++ chunk } := by
  refine ⟨tracks.replayed, ?_, tracks.judged, tracks.silent⟩
  intro later
  rw [List.append_assoc, tracks.pending, List.append_assoc]

/-- What settling a buffer finds is right. -/
theorem Tracks.settle_some (tracks : Tracks decoder read frames handshake) {greeting : Greeting}
    {settled : Handshake δ} (found : handshake.settle = (some greeting, settled)) :
    Greets decoder read greeting := by
  fun_induction Handshake.settle handshake generalizing frames with
  | case1 handshake rest taken => simp at found
  | case2 handshake frame rest taken judged vehicle =>
      rename_i announced
      simp only [Prod.mk.injEq, Option.some.injEq] at found
      rw [← found.1]
      exact tracks.greet taken announced
  | case3 handshake frame rest taken judged unknown =>
      rename_i inductionHypothesis
      exact inductionHypothesis (tracks.keep taken unknown) found

/-- Settling a buffer in vain judges all frames in the bytes. -/
theorem Tracks.settle_none (tracks : Tracks decoder read frames handshake)
    {settled : Handshake δ} (missed : handshake.settle = (none, settled)) :
    Tracks decoder read (drain read).1 settled := by
  fun_induction Handshake.settle handshake generalizing frames with
  | case1 handshake rest taken =>
      simp only [Prod.mk.injEq, true_and] at missed
      rw [← missed]
      exact tracks.wait taken
  | case2 handshake frame rest taken judged vehicle => simp at missed
  | case3 handshake frame rest taken judged unknown =>
      rename_i inductionHypothesis
      exact inductionHypothesis (tracks.keep taken unknown) missed

/-! ## Many polls -/

/-- When listening ends with a greeting, no vehicle was announced before the last poll, and the
greeting is right about all that was read. -/
theorem Tracks.listen {device : Transport σ} {timeout : Duration} {polls : Nat} {s last : σ}
    {greeting : Greeting} {settled : Handshake δ}
    (tracks : Tracks decoder read (drain read).1 handshake)
    (heard : Handshake.listen device timeout polls handshake s = (.ok greeting, settled, last)) :
    ∃ earlier latest, Polled device s (earlier ++ [latest]) last ∧
      firstVehicle? decoder (drain (read ++ earlier.flatten)).1 = none ∧
      Greets decoder (read ++ (earlier ++ [latest]).flatten) greeting := by
  induction polls generalizing read handshake s with
  | zero => simp [Handshake.listen] at heard
  | succ polls inductionHypothesis =>
      rw [Handshake.listen] at heard
      split at heard
      next fault next polled => simp at heard
      next chunk next polled =>
        split at heard
        next found settledNow judged =>
          simp only [Prod.mk.injEq, Except.ok.injEq] at heard
          rcases heard with ⟨rfl, rfl, rfl⟩
          refine ⟨[], chunk, .read polled .done, ?_, ?_⟩
          · simpa using tracks.silent
          · simpa using (tracks.arrive chunk).settle_some judged
        next settledNow judged =>
          have onward := (tracks.arrive chunk).settle_none judged
          rcases inductionHypothesis onward heard with ⟨earlier, latest, rest, silent, greets⟩
          refine ⟨chunk :: earlier, latest, .read polled rest, ?_, ?_⟩
          · simpa using silent
          · simpa using greets

end Handshake

/-- When a handshake succeeds, its vehicle is the first that the frames read so far announce, and
its replay stands for all that was read: whatever arrives later, replay and live bytes have the
frames and the leftover of the whole stream, and the first vehicle of that stream is the reported
one, however it was cut into chunks. -/
theorem Transport.handshake_replays {σ δ : Type} [MessageDecoder δ] {device : Transport σ}
    {timeout : Duration} {decoder settled : δ} {s last : σ} {greeting : Greeting}
    (succeeded : device.handshake timeout decoder s = (.ok greeting, settled, last)) :
    ∃ earlier latest, Handshake.Polled device s (earlier ++ [latest]) last ∧
      firstVehicle? decoder (drain earlier.flatten).1 = none ∧
      firstVehicle? decoder (drain (earlier ++ [latest]).flatten).1 = some greeting.vehicle ∧
      (∀ later : Bytes,
        drain (greeting.replay ++ later) = drain ((earlier ++ [latest]).flatten ++ later) ∧
        firstVehicle? decoder (drain ((earlier ++ [latest]).flatten ++ later)).1 =
          some greeting.vehicle) ∧
      ∀ live : List Bytes,
        Extractor.empty.hearAll (greeting.replay :: live) =
          (Extractor.empty.push ((earlier ++ [latest]).flatten ++ live.flatten)).drain := by
  simp only [Transport.handshake, Prod.mk.injEq] at succeeded
  rcases succeeded with ⟨greeted, -, ended⟩
  have heard : Handshake.listen device timeout (device.pollsWithin timeout s) { decoder } s =
      (.ok greeting, (Handshake.listen device timeout (device.pollsWithin timeout s)
        { decoder } s).2.1, last) := by
    rw [← greeted, ← ended]
  rcases (Handshake.tracks_start decoder).listen heard with
    ⟨earlier, latest, polled, silent, greets⟩
  rw [List.nil_append] at silent greets
  refine ⟨earlier, latest, polled, silent, greets.vehicle, ?_, ?_⟩
  · intro later
    refine ⟨greets.replay later, ?_⟩
    rw [drain_append, firstVehicle?_append, greets.vehicle]
    rfl
  · intro live
    rw [Extractor.hearAll_empty, List.flatten_cons]
    simp only [Extractor.drain, Extractor.push, Extractor.empty, List.nil_append,
      greets.replay live.flatten]

namespace ScriptedDevice

/-- The heartbeat of a ground station. -/
def stationHeartbeat : Bytes :=
  [0xFD, 9, 0, 0, 0, 0xFF, 0xBE, 0, 0, 0, 0, 0, 0, 0, 2, 3, 0, 4, 3, 0x7D, 0x1F]

/-- The heartbeat of a vehicle. -/
def vehicleHeartbeat : Bytes :=
  [0xFD, 9, 0, 0, 0, 1, 1, 0, 0, 0, 0, 0, 0, 0, 2, 3, 0x80, 4, 3, 0x24, 0xFA]

/-- The noise, the frame, and the start of a frame that arrive first. -/
def firstHalf : Bytes := 0x11 :: stationHeartbeat ++ vehicleHeartbeat.take 5

/-- The rest of the frame, and the start of another. -/
def secondHalf : Bytes := vehicleHeartbeat.drop 5 ++ [0xFE, 7]

/-- A device that is idle first, and then sends two heartbeats in two halves. -/
def withHeartbeats : ScriptedDevice where
  polls := [.idle, .arrives firstHalf, .arrives secondHalf]

theorem handshake_withHeartbeats :
    transport.handshake (.ofSeconds 1) Decoder.empty withHeartbeats =
      (.ok ⟨⟨1, 1⟩, stationHeartbeat ++ vehicleHeartbeat ++ [0xFE, 7]⟩, .empty,
        { polls := [], reads := [27, 18] }) := by
  have enough : transport.pollsWithin (.ofSeconds 1) withHeartbeats = 46 + 3 := by decide
  have pollFirst : Handshake.poll transport withHeartbeats =
      (.ok [], { polls := [.arrives firstHalf, .arrives secondHalf] }) := rfl
  have pollSecond :
      Handshake.poll transport { polls := [.arrives firstHalf, .arrives secondHalf] } =
        (.ok firstHalf, { polls := [.arrives secondHalf], reads := [27] }) := rfl
  have pollThird : Handshake.poll transport { polls := [.arrives secondHalf], reads := [27] } =
      (.ok secondHalf, { polls := [], reads := [27, 18] }) := rfl
  have hearFirst : Handshake.hear { decoder := Decoder.empty } [] =
      (none, { decoder := Decoder.empty }) :=
    Handshake.settle_of_none rfl
  have hearSecond : Handshake.hear { decoder := Decoder.empty } firstHalf =
      (none, ⟨.empty, vehicleHeartbeat.take 5, stationHeartbeat⟩) := by
    have taken : extract firstHalf = (some stationHeartbeat, vehicleHeartbeat.take 5) := by decide
    have judged : MessageDecoder.feedFrame Decoder.empty stationHeartbeat =
        (some ⟨255, 190, 0, .heartbeat ⟨0, 2, 3, 0, 4, 3⟩⟩, .empty) := by decide +kernel
    rw [Handshake.hear, Handshake.settle_of_frame taken, judged]
    exact Handshake.settle_of_none (by decide)
  have hearThird : Handshake.hear ⟨Decoder.empty, vehicleHeartbeat.take 5, stationHeartbeat⟩
      secondHalf = (some ⟨⟨1, 1⟩, stationHeartbeat ++ vehicleHeartbeat ++ [0xFE, 7]⟩,
        ⟨.empty, [], stationHeartbeat ++ vehicleHeartbeat⟩) := by
    have taken : extract (vehicleHeartbeat.take 5 ++ secondHalf) =
        (some vehicleHeartbeat, [0xFE, 7]) := by decide
    have judged : MessageDecoder.feedFrame Decoder.empty vehicleHeartbeat =
        (some ⟨1, 1, 0, .heartbeat ⟨0, 2, 3, 0x80, 4, 3⟩⟩, .empty) := by decide +kernel
    rw [Handshake.hear, Handshake.settle_of_frame taken, judged]
    rfl
  simp only [Transport.handshake, enough, Handshake.listen, pollFirst, hearFirst, pollSecond,
    hearSecond, pollThird, hearThird]

theorem handshake_replays_withHeartbeats :
    transport.handshake (.ofSeconds 1) Decoder.empty withHeartbeats =
      (.ok ⟨⟨1, 1⟩, stationHeartbeat ++ vehicleHeartbeat ++ [0xFE, 7]⟩, .empty,
        { polls := [], reads := [27, 18] }) ∧
    ∃ earlier latest,
      Handshake.Polled transport withHeartbeats (earlier ++ [latest])
        { polls := [], reads := [27, 18] } ∧
      firstVehicle? Decoder.empty (drain earlier.flatten).1 = none ∧
      firstVehicle? Decoder.empty (drain (earlier ++ [latest]).flatten).1 = some ⟨1, 1⟩ ∧
      (∀ later : Bytes,
        drain (stationHeartbeat ++ vehicleHeartbeat ++ [0xFE, 7] ++ later) =
          drain ((earlier ++ [latest]).flatten ++ later) ∧
        firstVehicle? Decoder.empty (drain ((earlier ++ [latest]).flatten ++ later)).1 =
          some ⟨1, 1⟩) ∧
      ∀ live : List Bytes,
        Extractor.empty.hearAll ((stationHeartbeat ++ vehicleHeartbeat ++ [0xFE, 7]) :: live) =
          (Extractor.empty.push ((earlier ++ [latest]).flatten ++ live.flatten)).drain :=
  ⟨handshake_withHeartbeats, Transport.handshake_replays handshake_withHeartbeats⟩

end ScriptedDevice

end MavBridge
