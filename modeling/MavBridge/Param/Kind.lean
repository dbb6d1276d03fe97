import MavBridge.Json.Record

/-!
The types of parameters, and when an echoed value confirms a requested one.

The value travels as a float whatever the type. An integer type compares the integer parts, a real
type allows a small difference.
-/

namespace MavBridge

/-- The type of a parameter. -/
inductive ParamType where
  | uint8
  | int8
  | uint16
  | int16
  | uint32
  | int32
  | uint64
  | int64
  | real32
  | real64
  deriving DecidableEq, Repr, Inhabited

namespace ParamType

def all : List ParamType :=
  [uint8, int8, uint16, int16, uint32, int32, uint64, int64, real32, real64]

/-- The code on the wire. -/
def code : ParamType → UInt8
  | uint8 => 1
  | int8 => 2
  | uint16 => 3
  | int16 => 4
  | uint32 => 5
  | int32 => 6
  | uint64 => 7
  | int64 => 8
  | real32 => 9
  | real64 => 10

def ofCode? (code : UInt8) : Option ParamType := all.find? fun type => type.code == code

def name : ParamType → String
  | uint8 => "UINT8"
  | int8 => "INT8"
  | uint16 => "UINT16"
  | int16 => "INT16"
  | uint32 => "UINT32"
  | int32 => "INT32"
  | uint64 => "UINT64"
  | int64 => "INT64"
  | real32 => "REAL32"
  | real64 => "REAL64"

def ofName? (text : String) : Option ParamType := all.find? fun type => type.name == text

def ofJson? (json : Json) : Option ParamType := json.choice?.bind ofName?

def isInteger : ParamType → Bool
  | real32 => false
  | real64 => false
  | _ => true

/-- What an echoed real may differ by: one thousandth. -/
def tolerance : Binary64 := ⟨0x3F50624DD2F1A9FC⟩

/-- An echoed value confirms the requested one. -/
def verify (type : ParamType) (requested actual : Binary64) : Bool :=
  if type.isInteger then requested.toInt64 = actual.toInt64
  else decide ((actual.toFloat - requested.toFloat).abs < tolerance.toFloat)

end ParamType

end MavBridge
