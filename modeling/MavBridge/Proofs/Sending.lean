import MavBridge.FrameBuilder
import MavBridge.Proofs.Message.RoundTrip
import MavBridge.Proofs.Text.NameField

/-!
# What a builder of frames sends

A builder is asked for frames in any order: with messages that were read before, or about parameters
of any name.  Each frame that it gives carries its message under the sender's identity and the next
number, and a refusal takes no number.
-/

namespace MavBridge

open Bytes

/-! ## Requests about parameters -/

namespace Message

/-- The message asks a vehicle for the parameter that a field of 16 bytes names. -/
structure AsksFor (message : Message) (target : Identity) (nameField : Bytes) : Prop where
  kind : message.kind = .paramRequestRead
  index : message.payload.i16 0 = -1
  targetSystem : message.payload.u8 2 = target.systemId
  targetComponent : message.payload.u8 3 = target.componentId
  name : message.payload.slice 4 NameField.width = nameField

/-- The message sets the parameter that a field of 16 bytes names to a value of a type. -/
structure SetsTo (message : Message) (target : Identity) (nameField : Bytes) (value : Binary32)
    (type : ParamType) : Prop where
  kind : message.kind = .paramSet
  value : message.payload.f32 0 = value
  targetSystem : message.payload.u8 4 = target.systemId
  targetComponent : message.payload.u8 5 = target.componentId
  name : message.payload.slice 6 NameField.width = nameField
  type : message.payload.u8 22 = type.code

variable (target : Identity) {nameField : Bytes} (width : nameField.length = NameField.width)
include width

theorem asksFor_paramRequestRead :
    (paramRequestRead target nameField).AsksFor target nameField where
  kind := rfl
  index := by
    have placed : (paramRequestRead target nameField).payload.slice 0 2 = ofNat 2 0xFFFF := rfl
    rw [i16, u16, field, placed, toNat_ofNat (by decide)]
    decide
  targetSystem := u8_cons_zero _ _
  targetComponent := u8_cons_zero _ _
  name := slice_of_parts (ofNat 2 0xFFFF ++ [target.systemId, target.componentId]) nameField []
    (List.append_nil _).symm rfl width

theorem normal_paramRequestRead : (paramRequestRead target nameField).Normal where
  listed := (MessageKind.ofId?_eq_some_iff.mp
    (rfl : MessageKind.ofId? 20 = some .paramRequestRead)).1
  normalized := by
    have total : (paramRequestRead target nameField).payload.length = 20 := by
      simp [paramRequestRead, width, NameField.width]
    have whole := resize_length (paramRequestRead target nameField).payload
    rw [total] at whole
    exact whole
  admitted := rfl

theorem typeCode_paramSet (value : Binary64) (type : ParamType) :
    (paramSet target nameField value type).payload.slice 22 1 = [type.code] := by
  have front : (ofNat 4 value.narrow.bits.toNat ++ [target.systemId, target.componentId] ++
      nameField).length = 22 := by
    simp [width, NameField.width]
  exact slice_of_parts _ [type.code] [] (List.append_nil _).symm front rfl

theorem setsTo_paramSet (value : Binary64) (type : ParamType) :
    (paramSet target nameField value type).SetsTo target nameField value.narrow type where
  kind := rfl
  value := by
    have placed : (paramSet target nameField value type).payload.slice 0 4 =
        ofNat 4 value.narrow.bits.toNat :=
      slice_of_parts [] _ ([target.systemId, target.componentId] ++ nameField ++ [type.code])
        (by simp [paramSet]) rfl (length_ofNat _ _)
    rw [f32, u32, field, placed, toNat_ofNat value.narrow.bits.toNat_lt, UInt32.ofNat_toNat]
  targetSystem := u8_cons_zero _ _
  targetComponent := u8_cons_zero _ _
  name := slice_of_parts
    (ofNat 4 value.narrow.bits.toNat ++ [target.systemId, target.componentId]) nameField
    [type.code] rfl rfl width
  type := by
    rw [u8, field, typeCode_paramSet target width]
    exact u8_cons_zero type.code []

theorem normal_paramSet (value : Binary64) (type : ParamType) :
    (paramSet target nameField value type).Normal where
  listed := (MessageKind.ofId?_eq_some_iff.mp (rfl : MessageKind.ofId? 23 = some .paramSet)).1
  normalized := by
    have total : (paramSet target nameField value type).payload.length = 23 := by
      simp [paramSet, width, NameField.width]
    have whole := resize_length (paramSet target nameField value type).payload
    rw [total] at whole
    exact whole
  admitted := by
    have code : (paramSet target nameField value type).payload.field 22 1 = type.code.toNat := by
      rw [field, typeCode_paramSet target width]
      simp [Bytes.toNat]
    have known : Enumeration.mavParamType.lists type.code.toNat = true := by
      cases type <;> rfl
    simp [MessageKind.admits, MessageKind.paramSet, show
      (paramSet target nameField value type).kind = .paramSet from rfl, code, known]

end Message

/-! ## Builders -/

namespace FrameBuilder

/-- What a builder is asked for. -/
inductive Operation where
  /-- A message that can be read out of some bytes. -/
  | build (message : Message)
      (readable : ∃ bytes header, Message.read? bytes = some (header, message))
  | read (target : Identity) (name : String)
  | set (target : Identity) (name : String) (value : Binary64) (type : ParamType)

namespace Operation

/-- The parameter that is named. -/
def name? : Operation → Option String
  | build _ _ => none
  | read _ name => some name
  | set _ name _ _ => some name

/-- A name, if there is one, is not empty and has at most 16 bytes. -/
def isValid (operation : Operation) : Bool :=
  operation.name?.all fun name => name ≠ "" && name.utf8ByteSize ≤ 16

def perform (operation : Operation) (builder : FrameBuilder) : Except Fault Bytes × FrameBuilder :=
  match operation with
  | build message _ => (.ok (builder.build message).1, (builder.build message).2)
  | read target name => builder.paramRequestRead target name
  | set target name value type => builder.paramSet target name value type

/-- The message is the one that was asked for; a name is filled up with NUL bytes. -/
def Asks : Operation → Message → Prop
  | build message _, sent => sent = message
  | read target name, sent =>
      sent.AsksFor target ((Utf8.encode name.toList).resize NameField.width)
  | set target name value type, sent =>
      sent.SetsTo target ((Utf8.encode name.toList).resize NameField.width) value.narrow type

end Operation

/-- Several operations: what each gives, and the builder after them. -/
def run (builder : FrameBuilder) : List Operation → List (Except Fault Bytes) × FrameBuilder
  | [] => ([], builder)
  | operation :: rest =>
      ((operation.perform builder).1 :: (run (operation.perform builder).2 rest).1,
        (run (operation.perform builder).2 rest).2)

/-- The frames among some outcomes. -/
def frames (outcomes : List (Except Fault Bytes)) : List Bytes :=
  outcomes.filterMap Except.toOption

/-! ## One operation -/

theorem isSome_encode?_iff {name : String} : (NameField.encode? name).isSome = true ↔
    (name ≠ "" && name.utf8ByteSize ≤ 16) = true := by
  rw [Option.isSome_iff_ne_none, ne_eq, NameField.encode?_eq_none_iff, not_or, Nat.not_lt,
    Bool.and_eq_true, decide_eq_true_eq, decide_eq_true_eq]
  rfl

theorem encode?_eq_some {name : String} {field : Bytes}
    (encoded : NameField.encode? name = some field) :
    field = (Utf8.encode name.toList).resize NameField.width := by
  unfold NameField.encode? at encoded
  dsimp only at encoded
  split at encoded
  · cases encoded
  · exact (Option.some.inj encoded).symm

theorem encode?_of_invalid {name : String}
    (invalid : (name ≠ "" && name.utf8ByteSize ≤ 16) = false) : NameField.encode? name = none := by
  rw [← Option.not_isSome_iff_eq_none, isSome_encode?_iff, invalid]
  exact Bool.false_ne_true

theorem buildNamed_of_encode? {name : String} {field : Bytes} (builder : FrameBuilder)
    (encoded : NameField.encode? name = some field) (message : Bytes → Message) :
    builder.buildNamed name message =
      (.ok (builder.build (message field)).1, (builder.build (message field)).2) := by
  simp [buildNamed, encoded]

theorem buildNamed_of_refused {name : String} (builder : FrameBuilder)
    (refused : NameField.encode? name = none) (message : Bytes → Message) :
    builder.buildNamed name message = (.error (.invalidParamName name), builder) := by
  simp [buildNamed, refused]

theorem Operation.perform_of_valid {operation : Operation} (valid : operation.isValid = true)
    (builder : FrameBuilder) :
    ∃ message, message.Normal ∧ operation.Asks message ∧
      operation.perform builder = (.ok (builder.build message).1, (builder.build message).2) := by
  cases operation with
  | build message readable =>
      rcases readable with ⟨bytes, header, read⟩
      exact ⟨message, Message.normal_of_read? read, rfl, rfl⟩
  | read target name =>
      rcases Option.isSome_iff_exists.mp (isSome_encode?_iff.mpr valid) with ⟨field, encoded⟩
      obtain rfl := encode?_eq_some encoded
      have width := length_resize NameField.width (Utf8.encode name.toList)
      exact ⟨_, Message.normal_paramRequestRead target width,
        Message.asksFor_paramRequestRead target width, buildNamed_of_encode? builder encoded _⟩
  | set target name value type =>
      rcases Option.isSome_iff_exists.mp (isSome_encode?_iff.mpr valid) with ⟨field, encoded⟩
      obtain rfl := encode?_eq_some encoded
      have width := length_resize NameField.width (Utf8.encode name.toList)
      exact ⟨_, Message.normal_paramSet target width value type,
        Message.setsTo_paramSet target width value type, buildNamed_of_encode? builder encoded _⟩

theorem Operation.perform_of_invalid {operation : Operation} (invalid : operation.isValid = false)
    (builder : FrameBuilder) :
    ∃ name, operation.name? = some name ∧
      operation.perform builder = (.error (.invalidParamName name), builder) := by
  cases operation with
  | build message readable => cases invalid
  | read target name =>
      exact ⟨name, rfl, buildNamed_of_refused builder (encode?_of_invalid invalid) _⟩
  | set target name value type =>
      exact ⟨name, rfl, buildNamed_of_refused builder (encode?_of_invalid invalid) _⟩

/-! ## Runs -/

theorem run_append (builder : FrameBuilder) (first second : List Operation) :
    builder.run (first ++ second) =
      ((builder.run first).1 ++ ((builder.run first).2.run second).1,
        ((builder.run first).2.run second).2) := by
  induction first generalizing builder with
  | nil => rfl
  | cons operation rest inductionHypothesis =>
      rw [List.cons_append, run, inductionHypothesis]
      rfl

/-- The header of the `number`th frame of a source. -/
def headerAt (source : Identity) (number : Nat) (message : Message) : Header :=
  ⟨message.kind.id, UInt8.ofNat number, source.systemId, source.componentId⟩

theorem carries_build {builder : FrameBuilder} {number : Nat}
    (numbered : builder.sequence = UInt8.ofNat number) {message : Message}
    (normal : message.Normal) :
    Carries (builder.build message).1 (headerAt builder.source number message) message := by
  rw [headerAt, ← numbered]
  exact normal.carries_frame rfl

/-- The valid operations give one frame each, in their order and with successive numbers. -/
theorem carries_run {builder : FrameBuilder} {first : Nat}
    (numbered : builder.sequence = UInt8.ofNat first) (operations : List Operation) :
    (frames (builder.run operations).1).length = (operations.filter (·.isValid)).length ∧
      ∀ k operation, (operations.filter (·.isValid))[k]? = some operation →
        ∃ frame message, (frames (builder.run operations).1)[k]? = some frame ∧
          operation.Asks message ∧
          Carries frame (headerAt builder.source (first + k) message) message := by
  -- Only an operation that gives a frame moves the first number on.
  induction operations generalizing builder first with
  | nil => exact ⟨rfl, by simp⟩
  | cons operation rest inductionHypothesis =>
      cases valid : operation.isValid with
      | false =>
          rcases operation.perform_of_invalid valid builder with ⟨name, -, performed⟩
          rw [run, performed, List.filter_cons_of_neg (by simp [valid])]
          exact inductionHypothesis numbered
      | true =>
          rcases operation.perform_of_valid valid builder with ⟨message, normal, asked, performed⟩
          have numberedAfter : (builder.build message).2.sequence = UInt8.ofNat (first + 1) := by
            rw [UInt8.ofNat_add, ← numbered]
            rfl
          rcases inductionHypothesis numberedAfter with ⟨sameLength, later⟩
          rw [run, performed, List.filter_cons_of_pos valid]
          refine ⟨congrArg Nat.succ sameLength, ?_⟩
          intro k wanted found
          cases k with
          | zero =>
              cases found
              exact ⟨_, message, rfl, asked, carries_build numbered normal⟩
          | succ k =>
              rw [← Nat.add_assoc, Nat.add_right_comm]
              exact later k wanted found

/-- Whatever a builder is asked for from its start: the frames that it gives are those of the valid
operations, and the one with the number `k`, counted from zero, carries the message that was asked
for, under the builder's source and with `k` modulo 256 as its sequence number; what is refused
gives an error with its name, and what comes after it is as if it had not been asked for. -/
theorem frames_read_back (source : Identity) (operations : List Operation) :
    let start : FrameBuilder := { source }
    (frames (start.run operations).1).length = (operations.filter (·.isValid)).length ∧
      (∀ k operation, (operations.filter (·.isValid))[k]? = some operation →
        ∃ frame message, (frames (start.run operations).1)[k]? = some frame ∧
          operation.Asks message ∧ Carries frame (headerAt source k message) message) ∧
      ∀ before operation after, operations = before ++ operation :: after →
        operation.isValid = false →
        ∃ name, operation.name? = some name ∧
          start.run operations =
            ((start.run before).1 ++
                .error (.invalidParamName name) :: ((start.run before).2.run after).1,
              ((start.run before).2.run after).2) := by
  intro start
  have numbered : start.sequence = UInt8.ofNat 0 := rfl
  rcases carries_run numbered operations with ⟨sameLength, carried⟩
  refine ⟨sameLength, ?_, ?_⟩
  · intro k operation found
    have carries := carried k operation found
    rw [Nat.zero_add] at carries
    exact carries
  · intro before operation after parted invalid
    rcases operation.perform_of_invalid invalid (start.run before).2 with ⟨name, named, performed⟩
    refine ⟨name, named, ?_⟩
    rw [parted, run_append, run, performed]

end FrameBuilder

end MavBridge
