import MavBridge.Text.Blank
import MavBridge.Text.Utf8

/-!
Texts in fixed-width fields of a message: filled up with NUL bytes, read up to the first NUL and
without trailing white space. A parameter's name travels in such a field of 16 bytes.
-/

namespace MavBridge.NameField

/-- The width of a parameter's name. -/
def width : Nat := 16

/-- The field of a parameter's name, unless it is empty or too long. -/
def encode? (name : String) : Option Bytes :=
  let bytes := Utf8.encode name.toList
  if bytes.isEmpty ∨ width < bytes.length then none else some (bytes.resize width)

/-- The bytes before the first NUL. -/
def content (field : Bytes) : Bytes := field.takeWhile (· != 0)

/-- The text of a field of any width. -/
def decode (field : Bytes) : String :=
  String.ofList (Text.trimEnd (Utf8.decodeLossy (content field)))

end MavBridge.NameField
