import MavBridge.Output.TcpClient

/-!
# What the remote end of a client's connection receives

Each write takes some front of its frame, all of it exactly if the write succeeds.  A connection
outlives a write that fails, so that the next frame follows a frame that was cut: the remote end
receives a front of the frames as long as nothing is taken after the first failure, and otherwise
only if what is taken later happens to continue the frame that was cut.
-/

namespace MavBridge

/-- A frame, as far as a connection has taken it. -/
structure Portion where
  taken : Bytes
  rest : Bytes
  deriving DecidableEq

namespace Portion

def frame (portion : Portion) : Bytes := portion.taken ++ portion.rest

def isWhole (portion : Portion) : Bool := portion.rest.isEmpty

/-- The frames that were sent, one after the other. -/
def sent (portions : List Portion) : Bytes := (portions.map frame).flatten

/-- The bytes that were taken, one after the other. -/
def received (portions : List Portion) : Bytes := (portions.map taken).flatten

/-- After a frame that was cut nothing is taken any more. -/
def Untorn (portions : List Portion) : Prop :=
  portions.Pairwise fun earlier later => earlier.isWhole = false → later.taken = []

instance (portions : List Portion) : Decidable (Untorn portions) :=
  inferInstanceAs (Decidable (List.Pairwise _ _))

variable {portion : Portion} {portions : List Portion}

theorem isWhole_iff : portion.isWhole = true ↔ portion.rest = [] := List.isEmpty_iff

theorem taken_of_isWhole (whole : portion.isWhole = true) : portion.taken = portion.frame := by
  rw [frame, isWhole_iff.mp whole, List.append_nil]

theorem sent_cons (portion : Portion) (portions : List Portion) :
    sent (portion :: portions) = portion.frame ++ sent portions := rfl

theorem received_cons (portion : Portion) (portions : List Portion) :
    received (portion :: portions) = portion.taken ++ received portions := rfl

theorem received_eq_sent (whole : ∀ portion ∈ portions, portion.isWhole = true) :
    received portions = sent portions := by
  induction portions with
  | nil => rfl
  | cons portion portions inductionHypothesis =>
      rw [List.forall_mem_cons] at whole
      rw [received_cons, sent_cons, taken_of_isWhole whole.1, inductionHypothesis whole.2]

theorem received_eq_nil (untaken : ∀ portion ∈ portions, portion.taken = []) :
    received portions = [] := by
  rw [received, List.flatten_eq_nil_iff]
  intro taken membership
  obtain ⟨portion, portionMembership, rfl⟩ := List.mem_map.mp membership
  exact untaken portion portionMembership

theorem Untorn.received_prefix (untorn : Untorn portions) :
    received portions <+: sent portions := by
  induction portions with
  | nil => exact List.nil_prefix
  | cons portion portions inductionHypothesis =>
      obtain ⟨after, later⟩ := List.pairwise_cons.mp untorn
      rw [received_cons, sent_cons]
      cases whole : portion.isWhole with
      | true =>
          rw [taken_of_isWhole whole]
          exact List.prefix_append_right_inj portion.frame |>.mpr (inductionHypothesis later)
      | false =>
          rw [received_eq_nil fun other membership => after other membership whole,
            List.append_nil, frame, List.append_assoc]
          exact List.prefix_append _ _

/-- Behind the first frame that was cut, only what continues this frame is in order. -/
theorem received_prefix_iff {whole later : List Portion} {cut : Portion}
    (before : ∀ portion ∈ whole, portion.isWhole = true) :
    received (whole ++ cut :: later) <+: sent (whole ++ cut :: later) ↔
      received later <+: cut.rest ++ sent later := by
  have front := received_eq_sent before
  unfold received sent at front ⊢
  simp only [List.map_append, List.map_cons, List.flatten_append, List.flatten_cons, front, frame,
    List.append_assoc, List.prefix_append_right_inj]

end Portion

namespace Stream

/-- A write takes a front of its data, all of it exactly if it succeeds. -/
theorem exists_writeAll (stream : Stream) (data : Bytes) :
    ∃ portion : Portion, portion.frame = data ∧
      (stream.writeAll data).2.received = stream.received ++ portion.taken ∧
      (stream.writeAll data).1.isOk = portion.isWhole := by
  fun_induction writeAll stream data with
  | case1 stream data nothing =>
      refine ⟨⟨[], []⟩, (List.isEmpty_iff.mp nothing).symm, ?_, rfl⟩
      rw [List.append_nil]
  | case2 stream data something unlimited =>
      exact ⟨⟨data, []⟩, List.append_nil data, rfl, rfl⟩
  | case3 stream data something answers interrupted inductionHypothesis =>
      exact inductionHypothesis
  | case4 stream data something kind answers uninterrupted failed =>
      refine ⟨⟨[], data⟩, rfl, (List.append_nil _).symm, ?_⟩
      simpa [Portion.isWhole, Except.isOk, Except.toBool] using something
  | case5 stream data something answers untaken =>
      refine ⟨⟨[], data⟩, rfl, (List.append_nil _).symm, ?_⟩
      simpa [Portion.isWhole, Except.isOk, Except.toBool] using something
  | case6 stream data something count answers some inductionHypothesis =>
      obtain ⟨portion, parted, received, succeeded⟩ := inductionHypothesis
      refine ⟨⟨data.take (count + 1) ++ portion.taken, portion.rest⟩, ?_, ?_, succeeded⟩
      · rw [Portion.frame, List.append_assoc, ← Portion.frame, parted, List.take_append_drop]
      · rw [received, List.append_assoc]

end Stream

namespace TcpClient

/-- Send frames one after the other. -/
def sendAll : List Bytes → TcpClient → List (Except Fault Nat) × TcpClient
  | [], client => ([], client)
  | frame :: frames, client =>
      let (outcome, client) := client.send frame
      let (outcomes, client) := sendAll frames client
      (outcome :: outcomes, client)

theorem exists_send {client : TcpClient} {stream : Stream} (connected : client.stream = some stream)
    (frame : Bytes) :
    ∃ portion : Portion, ∃ after, portion.frame = frame ∧
      (client.send frame).2 = { client with stream := some after } ∧
      after.received = stream.received ++ portion.taken ∧
      (client.send frame).1.isOk = portion.isWhole := by
  obtain ⟨portion, parted, received, succeeded⟩ := stream.exists_writeAll frame
  refine ⟨portion, (stream.writeAll frame).2, parted, ?_, received, ?_⟩
  · rw [send, connected]
  · rw [← succeeded]
    simp only [send, connected]
    cases (stream.writeAll frame).1 <;> rfl

theorem exists_sendAll {client : TcpClient} {stream : Stream}
    (connected : client.stream = some stream) (frames : List Bytes) :
    ∃ portions : List Portion, ∃ after, portions.map Portion.frame = frames ∧
      (client.sendAll frames).2 = { client with stream := some after } ∧
      after.received = stream.received ++ Portion.received portions ∧
      (client.sendAll frames).1.map Except.isOk = portions.map Portion.isWhole := by
  induction frames generalizing client stream with
  | nil =>
      refine ⟨[], stream, rfl, ?_, (List.append_nil _).symm, rfl⟩
      rw [← connected]
      rfl
  | cons frame frames inductionHypothesis =>
      obtain ⟨portion, between, parted, kept, received, succeeded⟩ := exists_send connected frame
      have stillConnected : (client.send frame).2.stream = some between := by rw [kept]
      obtain ⟨portions, after, others, keptAfter, receivedAfter, outcomes⟩ :=
        inductionHypothesis stillConnected
      refine ⟨portion :: portions, after, ?_, ?_, ?_, ?_⟩
      · rw [List.map_cons, parted, others]
      · rw [sendAll, keptAfter, kept]
      · rw [receivedAfter, received, Portion.received_cons, List.append_assoc]
      · rw [sendAll, List.map_cons, List.map_cons, succeeded, outcomes]

/-- What a connection receives of the frames that are sent over it, however its writes go: a front
of each frame in turn, all of it exactly if its sending succeeds, while the client keeps the
connection and stays as it is.  This is a front of the frames if nothing is taken after the first
failure; in general it is one exactly if what is taken after the first failure continues the frame
that was cut. -/
theorem sendAll_portions {client : TcpClient} {stream : Stream}
    (connected : client.stream = some stream) (frames : List Bytes) :
    ∃ portions : List Portion, ∃ after, portions.map Portion.frame = frames ∧
      (client.sendAll frames).2 = { client with stream := some after } ∧
      after.received = stream.received ++ Portion.received portions ∧
      (client.sendAll frames).1.map Except.isOk = portions.map Portion.isWhole ∧
      (Portion.Untorn portions → after.received <+: stream.received ++ frames.flatten) ∧
      ∀ whole cut later, portions = whole ++ cut :: later →
        (∀ portion ∈ whole, portion.isWhole = true) →
        (after.received <+: stream.received ++ frames.flatten ↔
          Portion.received later <+: cut.rest ++ Portion.sent later) := by
  obtain ⟨portions, after, parted, kept, received, outcomes⟩ := exists_sendAll connected frames
  have inOrder : after.received <+: stream.received ++ frames.flatten ↔
      Portion.received portions <+: Portion.sent portions := by
    rw [received, ← parted, List.prefix_append_right_inj]
    rfl
  refine ⟨portions, after, parted, kept, received, outcomes, ?_, ?_⟩
  · intro untorn
    exact inOrder.mpr untorn.received_prefix
  · intro whole cut later split before
    rw [inOrder, split, Portion.received_prefix_iff before]

/-- A client whose peer takes one byte, stalls for once, and then takes all that it is sent. -/
def stalled : TcpClient :=
  { TcpClient.create "east" "10.0.0.1:5760" with
    isRunning := true
    stream := some { localAddress := ⟨.v4 [10, 0, 0, 2], 49152⟩
                     answers := [.ok 1, .error .wouldBlock] } }

/-- The peer stalls in the first of two frames, and receives the second one behind what it has taken
of the first. -/
theorem sendAll_torn :
    ¬ ∀ (client : TcpClient) (stream : Stream) (frames : List Bytes),
      client.stream = some stream → ∀ after, (client.sendAll frames).2.stream = some after →
        after.received <+: stream.received ++ frames.flatten := by
  intro untorn
  have torn := untorn stalled _ [[1, 2], [3]] rfl _ rfl
  revert torn
  decide +kernel

theorem sendAll_portions_stalled :
    (stalled.sendAll [[1, 2], [3]]).1.map Except.isOk = [false, true] ∧
      ∃ portions : List Portion, ∃ after, portions.map Portion.frame = [[1, 2], [3]] ∧
        (stalled.sendAll [[1, 2], [3]]).2 = { stalled with stream := some after } ∧
        after.received = [1, 3] ∧ after.received = Portion.received portions ∧
        ¬ Portion.Untorn portions := by
  obtain ⟨portions, after, parted, kept, received, -, untorn, -⟩ :=
    sendAll_portions (rfl : stalled.stream = some _) [[1, 2], [3]]
  have shown : (stalled.sendAll [[1, 2], [3]]).2.stream.map (·.received) = some [1, 3] := by
    decide +kernel
  have cut : after.received = [1, 3] := by simpa [kept] using shown
  refine ⟨by decide +kernel, portions, after, parted, kept, cut, received, ?_⟩
  intro whole
  have front := untorn whole
  rw [cut] at front
  revert front
  decide

end TcpClient

end MavBridge
