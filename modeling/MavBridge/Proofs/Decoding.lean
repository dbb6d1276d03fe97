import MavBridge.Decoder
import MavBridge.Link.Handshake

/-!
# What a decoder makes of many frames

A decoder may change with every frame that it is given.  `answers` threads it through a list of
frames; `firstVehicle?` is the sender of the first heartbeat among them that is not a ground
station's.
-/

namespace MavBridge.MessageDecoder

variable {δ : Type} [MessageDecoder δ]

/-- What a decoder makes of frames, one after the other. -/
def answers (decoder : δ) : List Bytes → List (Option Decoded)
  | [] => []
  | frame :: frames =>
      (feedFrame decoder frame).1 :: answers (feedFrame decoder frame).2 frames

/-- The decoder that has been given frames. -/
def after (decoder : δ) : List Bytes → δ
  | [] => decoder
  | frame :: frames => after (feedFrame decoder frame).2 frames

@[simp]
theorem length_answers (decoder : δ) (frames : List Bytes) :
    (answers decoder frames).length = frames.length := by
  induction frames generalizing decoder with
  | nil => rfl
  | cons frame frames inductionHypothesis => simp [answers, inductionHypothesis]

theorem after_append (decoder : δ) (first second : List Bytes) :
    after decoder (first ++ second) = after (after decoder first) second := by
  induction first generalizing decoder with
  | nil => rfl
  | cons frame frames inductionHypothesis => exact inductionHypothesis _

theorem answers_append (decoder : δ) (first second : List Bytes) :
    answers decoder (first ++ second) =
      answers decoder first ++ answers (after decoder first) second := by
  induction first generalizing decoder with
  | nil => rfl
  | cons frame frames inductionHypothesis =>
      rw [List.cons_append, answers, answers, after, inductionHypothesis, List.cons_append]

/-- A heartbeat of a system that is no ground station. -/
def isVehicleHeartbeat (message : Decoded) : Bool := message.isHeartbeat && message.systemId != 255

/-- Who sent the first of some frames that is decoded into the heartbeat of a vehicle. -/
def firstVehicle? (decoder : δ) (frames : List Bytes) : Option Identity :=
  (((answers decoder frames).filterMap id).find? isVehicleHeartbeat).map fun message =>
    ⟨message.systemId, message.componentId⟩

theorem vehicle?_eq_some_iff {message : Decoded} {vehicle : Identity} :
    message.vehicle? = some vehicle ↔
      isVehicleHeartbeat message = true ∧ ⟨message.systemId, message.componentId⟩ = vehicle := by
  have station : Identity.groundStation.systemId = 255 := rfl
  unfold Decoded.vehicle? isVehicleHeartbeat
  rw [station]
  split
  next announced => simp [announced]
  next silent => simp_all

/-- The vehicle is found in the first frames, or else in those after them. -/
theorem firstVehicle?_append (decoder : δ) (first second : List Bytes) :
    firstVehicle? decoder (first ++ second) =
      (firstVehicle? decoder first).or (firstVehicle? (after decoder first) second) := by
  simp only [firstVehicle?, answers_append, List.filterMap_append, List.find?_append,
    Option.map_or]

theorem firstVehicle?_singleton (decoder : δ) (frame : Bytes) :
    firstVehicle? decoder [frame] = (feedFrame decoder frame).1.bind Decoded.vehicle? := by
  cases answered : (feedFrame decoder frame).1 with
  | none => simp [firstVehicle?, answers, answered]
  | some message =>
      simp only [firstVehicle?, answers, answered, Option.bind_some, List.filterMap_cons, id_eq,
        List.filterMap_nil, List.find?_singleton]
      by_cases announced : isVehicleHeartbeat message = true
      · rw [if_pos announced, vehicle?_eq_some_iff.mpr ⟨announced, rfl⟩]
        rfl
      · have silent : message.vehicle? = none := by
          rw [Option.eq_none_iff_forall_ne_some]
          intro vehicle found
          exact announced (vehicle?_eq_some_iff.mp found).1
        rw [if_neg announced, silent]
        rfl

end MavBridge.MessageDecoder
