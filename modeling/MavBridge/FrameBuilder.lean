import MavBridge.Fault
import MavBridge.Message.Packet
import MavBridge.NameField
import MavBridge.Param.Kind

/-!
Outgoing frames: each is signed with the sender's identity and the next number of its sequence.
-/

namespace MavBridge

/-- One end of a link. -/
structure Identity where
  systemId : UInt8
  componentId : UInt8
  deriving DecidableEq, Repr, Inhabited

namespace Identity

/-- The identity under which a ground station sends. -/
def groundStation : Identity := ⟨255, 190⟩

end Identity

namespace Message

/-- Ask for a parameter by its name; the index says that the name counts. -/
def paramRequestRead (target : Identity) (nameField : Bytes) : Message :=
  ⟨.paramRequestRead,
    Bytes.ofNat 2 0xFFFF ++ [target.systemId, target.componentId] ++ nameField⟩

/-- Set a parameter; the value travels as a float whatever its type. -/
def paramSet (target : Identity) (nameField : Bytes) (value : Binary64) (type : ParamType) :
    Message :=
  ⟨.paramSet,
    Bytes.ofNat 4 value.narrow.bits.toNat ++ [target.systemId, target.componentId] ++ nameField
      ++ [type.code]⟩

end Message

/-- The sender of frames, and the number of the next one. -/
structure FrameBuilder where
  source : Identity := .groundStation
  sequence : UInt8 := 0
  deriving DecidableEq, Repr

namespace FrameBuilder

/-- The next frame, with a message. -/
def build (builder : FrameBuilder) (message : Message) : Bytes × FrameBuilder :=
  (Packet.frame
      ⟨message.kind.id, builder.sequence, builder.source.systemId, builder.source.componentId⟩
      (Packet.sentPayload message.payload),
    { builder with sequence := builder.sequence + 1 })

/-- The next frame, with a message about the parameter `name`; a name that does not fit takes no
number. -/
def buildNamed (builder : FrameBuilder) (name : String) (message : Bytes → Message) :
    Except Fault Bytes × FrameBuilder :=
  match NameField.encode? name with
  | none => (.error (.invalidParamName name), builder)
  | some field =>
      let (frame, builder) := builder.build (message field)
      (.ok frame, builder)

/-- The frame that asks for a parameter. -/
def paramRequestRead (builder : FrameBuilder) (target : Identity) (name : String) :
    Except Fault Bytes × FrameBuilder :=
  builder.buildNamed name (.paramRequestRead target)

/-- The frame that sets a parameter. -/
def paramSet (builder : FrameBuilder) (target : Identity) (name : String) (value : Binary64)
    (type : ParamType) : Except Fault Bytes × FrameBuilder :=
  builder.buildNamed name fun field => .paramSet target field value type

end FrameBuilder

end MavBridge
