import MavBridge.FrameBuilder
import MavBridge.Message.Body

/-!
Parameters as the vehicle reports them, the requests about them, and what comes of a request.
-/

namespace MavBridge

/-- A parameter; its type is unknown when the vehicle's code has no meaning. -/
structure ParamValue where
  name : String
  value : Binary64
  type : Option ParamType
  index : UInt16
  count : UInt16
  deriving DecidableEq, Repr

def ParamValue.ofReport (report : ParamReport) : ParamValue :=
  ⟨report.name, report.value.widen, ParamType.ofCode? report.type, report.index, report.count⟩

/-- A request about one parameter. -/
inductive ParamRequest where
  | read (name : String)
  | write (name : String) (value : Binary64) (type : ParamType)
  deriving DecidableEq, Repr

namespace ParamRequest

def name : ParamRequest → String
  | read name => name
  | write name _ _ => name

/-- The frame of a request to a vehicle. -/
def frame (request : ParamRequest) (builder : FrameBuilder) (target : Identity) :
    Except Fault Bytes × FrameBuilder :=
  match request with
  | read name => builder.paramRequestRead target name
  | write name value type => builder.paramSet target name value type

end ParamRequest

/-- The parameter that a message asks for, and the value to set. -/
def Message.paramRequest? (message : Message) : Option (String × Option Binary32) :=
  if message.kind = .paramRequestRead then
    some (message.payload.text 4 NameField.width, none)
  else if message.kind = .paramSet then
    some (message.payload.text 6 NameField.width, some (message.payload.f32 0))
  else none

/-- What came of setting a parameter. -/
structure WriteResult where
  success : Bool
  verified : Bool
  requested : Binary64
  actual : Binary64
  deriving DecidableEq, Repr

/-- What came of setting a parameter that the vehicle echoed. -/
def WriteResult.ofEcho (requested : Binary64) (type : ParamType) (echo : ParamValue) :
    WriteResult :=
  ⟨true, type.verify requested echo.value, requested, echo.value⟩

end MavBridge
