import MavBridge.Bridge.Intake
import MavBridge.Proofs.Decoding
import MavBridge.Proofs.Frame.Chunking

/-!
# The effects of a stream

One loop frames the bytes of a vehicle, decodes the frames, resolves parameters, keeps the
telemetry, and passes every frame on.  Each of these effects is a fold of its own over the frames of
the whole stream: it does not matter how the stream was cut into chunks, and what becomes of one
effect does not disturb another.
-/

namespace MavBridge

open MessageDecoder (answers after)

/-- The report of a parameter that a message is. -/
def Decoded.report? (message : Decoded) : Option ParamReport :=
  match message.body with
  | .paramValue report => some report
  | _ => none

namespace TcpServer

/-- Sending neither starts nor stops an output. -/
@[simp]
theorem isRunning_send (server : TcpServer) (frame : Bytes) :
    (server.send frame).2.isRunning = server.isRunning := by
  unfold send
  split
  next stopped => rfl
  next running =>
    unfold fanOut
    dsimp only
    split
    next unpruned => rfl
    next pruned =>
      split
      next unkept => rfl
      next kept => rfl

/-- Send frames, one after the other, while the output runs. -/
def sendAll (server : TcpServer) (frames : List Bytes) : TcpServer :=
  if server.isRunning then frames.foldl (fun server frame => (server.send frame).2) server
  else server

@[simp]
theorem sendAll_nil (server : TcpServer) : server.sendAll [] = server := by
  simp [sendAll]

theorem sendAll_cons (server : TcpServer) (frame : Bytes) (frames : List Bytes) :
    server.sendAll (frame :: frames) =
      (if server.isRunning then (server.send frame).2 else server).sendAll frames := by
  by_cases running : server.isRunning = true
  · simp [sendAll, running]
  · simp [sendAll, running]

theorem sendAll_append (server : TcpServer) (first second : List Bytes) :
    server.sendAll (first ++ second) = (server.sendAll first).sendAll second := by
  induction first generalizing server with
  | nil => simp
  | cons frame frames inductionHypothesis =>
      rw [List.cons_append, sendAll_cons, inductionHypothesis, ← sendAll_cons]

end TcpServer

namespace Exchange

/-- Resolve reports, one after the other. -/
def resolveAll (exchange : Exchange) (reports : List ParamReport) : Exchange :=
  reports.foldl (fun exchange report => (exchange.resolve report).2) exchange

end Exchange

namespace TelemetryFeed

/-- Fold messages in, each with the time at which it is heard. -/
def applyAll (feed : TelemetryFeed) (messages : List (Decoded × Nat)) : TelemetryFeed :=
  messages.foldl (fun feed heard => (feed.apply heard.1 heard.2).2) feed

end TelemetryFeed

namespace Router

variable {ω χ : Type}

/-- Pass frames on, one after the other. -/
def forwardAll (outlets : Outlets ω χ) (reached : Router χ × ω) (frames : List Bytes) :
    Router χ × ω :=
  frames.foldl (fun reached frame => reached.1.forward outlets frame reached.2) reached

/-- The clock as it stands when each of some frames is judged, which is before it is passed on. -/
def readings (outlets : Outlets ω χ) (now : ω → Nat) (reached : Router χ × ω) :
    List Bytes → List Nat
  | [] => []
  | frame :: frames =>
      now reached.2 ::
        readings outlets now (reached.1.forward outlets frame reached.2) frames

@[simp]
theorem length_readings (outlets : Outlets ω χ) (now : ω → Nat) (reached : Router χ × ω)
    (frames : List Bytes) : (readings outlets now reached frames).length = frames.length := by
  induction frames generalizing reached with
  | nil => rfl
  | cons frame frames inductionHypothesis => simp [readings, inductionHypothesis]

theorem readings_append (outlets : Outlets ω χ) (now : ω → Nat) (reached : Router χ × ω)
    (first second : List Bytes) :
    readings outlets now reached (first ++ second) =
      readings outlets now reached first ++
        readings outlets now (forwardAll outlets reached first) second := by
  induction first generalizing reached with
  | nil => rfl
  | cons frame frames inductionHypothesis =>
      simp [readings, forwardAll, inductionHypothesis]

end Router

/-- The reports of parameters among what a decoder answered. -/
def reportsIn (answered : List (Option Decoded)) : List ParamReport :=
  answered.filterMap fun message? => message?.bind Decoded.report?

/-- The other messages among what a decoder answered, each with the time of its answer. -/
def updatesIn (answered : List (Option Decoded)) (times : List Nat) : List (Decoded × Nat) :=
  (answered.zip times).filterMap fun heard =>
    (heard.1.filter fun message => message.report?.isNone).map fun message => (message, heard.2)

theorem updatesIn_append {first : List (Option Decoded)} {times : List Nat}
    (paired : first.length = times.length) (second : List (Option Decoded)) (later : List Nat) :
    updatesIn (first ++ second) (times ++ later) =
      updatesIn first times ++ updatesIn second later := by
  rw [updatesIn, List.zip_append paired, List.filterMap_append]
  rfl

/-! ## One frame -/

section Judging

variable {δ : Type} [MessageDecoder δ]

/-- What judging a frame does, effect by effect. -/
theorem Intake.judge_eq (intake : Intake δ) (frame : Bytes) (hub : EventHub) (time : Nat) :
    let answered := answers intake.decoder [frame]
    let feed := TelemetryFeed.applyAll ⟨intake.telemetry, hub⟩ (updatesIn answered [time])
    intake.judge frame hub time =
      ({ intake with
        decoder := after intake.decoder [frame]
        telemetry := feed.telemetry
        exchange := intake.exchange.resolveAll (reportsIn answered)
        framesIn := intake.framesIn + 1
        decodeFailures := intake.decodeFailures + answered.countP (·.isNone) }, feed.hub) := by
  cases given : MessageDecoder.feedFrame intake.decoder frame with
  | mk message? decoder =>
      cases message? with
      | none =>
          simp [Intake.judge, answers, after, given, updatesIn, reportsIn, TelemetryFeed.applyAll,
            Exchange.resolveAll]
      | some message =>
          simp only [Intake.judge, answers, after, given, updatesIn, reportsIn,
            TelemetryFeed.applyAll, Exchange.resolveAll, Intake.interpret]
          cases said : message.body <;> simp [Decoded.report?, said]

end Judging

namespace Pipeline

variable {δ ω χ : Type} [MessageDecoder δ] (outlets : Outlets ω χ) (now : ω → Nat)

/-! ## Many frames -/

/-- What frames do to a pipeline, effect by effect. -/
def pass (pipeline : Pipeline δ ω χ) (frames : List Bytes) : Pipeline δ ω χ :=
  let intake := pipeline.intake
  let answered := answers intake.decoder frames
  let reached := Router.forwardAll outlets (pipeline.router, pipeline.world) frames
  let times := Router.readings outlets now (pipeline.router, pipeline.world) frames
  let feed := TelemetryFeed.applyAll ⟨intake.telemetry, pipeline.hub⟩ (updatesIn answered times)
  { intake := { intake with
      decoder := after intake.decoder frames
      telemetry := feed.telemetry
      exchange := intake.exchange.resolveAll (reportsIn answered)
      framesIn := intake.framesIn + frames.length
      decodeFailures := intake.decodeFailures + answered.countP (·.isNone) }
    listener := pipeline.listener.map (·.sendAll frames)
    hub := feed.hub
    router := reached.1
    world := reached.2 }

theorem pass_nil (pipeline : Pipeline δ ω χ) : pipeline.pass outlets now [] = pipeline := by
  cases pipeline with
  | mk intake listener hub router world =>
      cases listener <;>
        simp [pass, answers, after, updatesIn, reportsIn, TelemetryFeed.applyAll,
          Exchange.resolveAll, Router.forwardAll]

theorem handle_eq_pass (pipeline : Pipeline δ ω χ) (frame : Bytes) :
    pipeline.handle outlets now frame = pipeline.pass outlets now [frame] := by
  simp only [handle, Intake.judge_eq, pass, Router.readings, Router.forwardAll]
  cases pipeline.listener <;> simp [TcpServer.sendAll_cons, updatesIn]

/-- The effects of frames, and of frames after them, are the effects of them all. -/
theorem pass_append (pipeline : Pipeline δ ω χ) (first second : List Bytes) :
    pipeline.pass outlets now (first ++ second) =
      (pipeline.pass outlets now first).pass outlets now second := by
  have paired : (answers pipeline.intake.decoder first).length =
      (Router.readings outlets now (pipeline.router, pipeline.world) first).length := by simp
  simp only [pass, MessageDecoder.answers_append, MessageDecoder.after_append,
    Router.readings_append, updatesIn_append paired, Router.forwardAll, Exchange.resolveAll,
    TelemetryFeed.applyAll, reportsIn, List.filterMap_append, List.foldl_append,
    List.length_append, List.countP_append, Nat.add_assoc, Option.map_map, Function.comp_def,
    TcpServer.sendAll_append]

theorem foldl_handle (pipeline : Pipeline δ ω χ) (frames : List Bytes) :
    frames.foldl (handle outlets now) pipeline = pipeline.pass outlets now frames := by
  induction frames generalizing pipeline with
  | nil => rw [pass_nil, List.foldl_nil]
  | cons frame frames inductionHypothesis =>
      rw [List.foldl_cons, inductionHypothesis, handle_eq_pass, ← pass_append,
        List.singleton_append]

/-! ## Many chunks -/

/-- A pipeline whose extractor and count of bytes are said anew. -/
def heard (pipeline : Pipeline δ ω χ) (extractor : Extractor) (bytesIn : Nat) : Pipeline δ ω χ :=
  { pipeline with intake := { pipeline.intake with extractor, bytesIn } }

theorem receive_eq (pipeline : Pipeline δ ω χ) (chunk : Bytes) :
    pipeline.receive outlets now chunk =
      (pipeline.pass outlets now (pipeline.intake.extractor.push chunk).drain.1).heard
        (pipeline.intake.extractor.push chunk).drain.2
        (pipeline.intake.bytesIn + chunk.length) := by
  have handled : pipeline.receive outlets now chunk =
      (pipeline.intake.extractor.push chunk).drain.1.foldl (handle outlets now)
        (pipeline.heard (pipeline.intake.extractor.push chunk).drain.2
          (pipeline.intake.bytesIn + chunk.length)) := rfl
  rw [handled, foldl_handle]
  rfl

/-- Chunks do what their frames do, and leave an extractor and a count of bytes. -/
theorem foldl_receive (pipeline : Pipeline δ ω χ) (chunks : List Bytes) :
    chunks.foldl (receive outlets now) pipeline =
      (pipeline.pass outlets now (pipeline.intake.extractor.hearAll chunks).1).heard
        (pipeline.intake.extractor.hearAll chunks).2
        (pipeline.intake.bytesIn + chunks.flatten.length) := by
  induction chunks generalizing pipeline with
  | nil =>
      rw [Extractor.hearAll, pass_nil]
      rfl
  | cons chunk chunks inductionHypothesis =>
      have counted : pipeline.intake.bytesIn + (chunk :: chunks).flatten.length =
          pipeline.intake.bytesIn + chunk.length + chunks.flatten.length := by
        rw [List.flatten_cons, List.length_append, Nat.add_assoc]
      rw [List.foldl_cons, inductionHypothesis, receive_eq, Extractor.hearAll, pass_append, counted]
      rfl

/-- What a session has made of a stream of bytes, whatever its decoder makes of the frames and
whatever its outputs make of what they are sent.  The router has been given exactly the frames of
the whole stream, in order, and so has the listener, if it runs; the counts are those of the stream;
the telemetry has been told every message that is not the report of a parameter, and the exchange
every report.  Chunks do not occur in it. -/
theorem receive_stream (decoder : δ) (exchange : Exchange) (listener : Option TcpServer)
    (hub : EventHub) (router : Router χ) (world : ω) (chunks : List Bytes) :
    let stream := chunks.flatten
    let frames := (MavBridge.drain stream).1
    let answered := answers decoder frames
    let times := Router.readings outlets now (router, world) frames
    let final := chunks.foldl (receive outlets now)
      ⟨{ decoder, exchange }, listener, hub, router, world⟩
    (final.router, final.world) = Router.forwardAll outlets (router, world) frames ∧
      final.listener = listener.map (·.sendAll frames) ∧
      final.intake.bytesIn = stream.length ∧
      final.intake.framesIn = frames.length ∧
      final.intake.decodeFailures = answered.countP (·.isNone) ∧
      TelemetryFeed.mk final.intake.telemetry final.hub =
        TelemetryFeed.applyAll ⟨{}, hub⟩ (updatesIn answered times) ∧
      final.intake.exchange = exchange.resolveAll (reportsIn answered) ∧
      final.intake.decoder = after decoder frames ∧
      final.intake.extractor.buffer = (MavBridge.drain stream).2 := by
  intro stream frames answered times final
  have framed : (Extractor.empty.hearAll chunks) = (frames, ⟨(MavBridge.drain stream).2⟩) :=
    Extractor.hearAll_empty chunks
  have effects : final =
      (pass outlets now ⟨{ decoder, exchange }, listener, hub, router, world⟩ frames).heard
        ⟨(MavBridge.drain stream).2⟩ (0 + stream.length) := by
    have folded := foldl_receive outlets now ⟨{ decoder, exchange }, listener, hub, router, world⟩
      chunks
    rw [show ({ decoder, exchange } : Intake δ).extractor = Extractor.empty from rfl, framed]
      at folded
    exact folded
  rw [effects]
  refine ⟨rfl, rfl, ?_, ?_, ?_, rfl, rfl, rfl, rfl⟩
  · exact Nat.zero_add stream.length
  · exact Nat.zero_add frames.length
  · exact Nat.zero_add (answered.countP (·.isNone))

end Pipeline

end MavBridge
