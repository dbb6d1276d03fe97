import MavBridge.Json.Token

/-!
The values that JSON texts write.

The words are read one by one with the open arrays and objects on a stack, so nesting has no limit
here; `parse?` sets one, and refuses what denotes nothing.
-/

namespace MavBridge.Json

/-- An array or an object of which a part has been read, the last part first. -/
inductive Context where
  | array (items : List Json)
  | object (fields : List (Option String × Json)) (key : Option String)
  deriving Repr, Inhabited

/-- What may come next. -/
inductive Expected where
  | value
  | itemOrEnd
  | keyOrEnd
  | key (fields : List (Option String × Json))
  | colon (fields : List (Option String × Json)) (key : Option String)
  /-- A value has just ended. -/
  | ending (value : Json)
  deriving Repr, Inhabited

/-- The open containers, innermost first, and what may come next in the first. -/
structure Progress where
  stack : List Context := []
  expected : Expected := .value
  deriving Repr, Inhabited

/-- An object of the given fields, the last first; a key that denotes nothing spoils it. -/
def closeObject (fields : List (Option String × Json)) : Json :=
  match fields.reverse.mapM fun (key, value) => key.map (·, value) with
  | some fields => .obj fields
  | none => .malformed

/-- The start of a value. -/
def begin? (stack : List Context) : Token → Option Progress
  | .scalar value => some ⟨stack, .ending value⟩
  | .text value => some ⟨stack, .ending (value.elim .malformed .str)⟩
  | .leftBracket => some ⟨.array [] :: stack, .itemOrEnd⟩
  | .leftBrace => some ⟨.object [] none :: stack, .keyOrEnd⟩
  | _ => none

/-- Read one word. -/
def Progress.step? (progress : Progress) (token : Token) : Option Progress :=
  match progress.expected, progress.stack, token with
  | .value, stack, token => begin? stack token
  | .itemOrEnd, _ :: stack, .rightBracket => some ⟨stack, .ending (.arr [])⟩
  | .itemOrEnd, stack, token => begin? stack token
  | .keyOrEnd, _ :: stack, .rightBrace => some ⟨stack, .ending (.obj [])⟩
  | .keyOrEnd, _ :: stack, .text key => some ⟨stack, .colon [] key⟩
  | .key fields, stack, .text key => some ⟨stack, .colon fields key⟩
  | .colon fields key, stack, .colon => some ⟨.object fields key :: stack, .value⟩
  | .ending value, .array items :: stack, .comma => some ⟨.array (value :: items) :: stack, .value⟩
  | .ending value, .array items :: stack, .rightBracket =>
      some ⟨stack, .ending (.arr (value :: items).reverse)⟩
  | .ending value, .object fields key :: stack, .comma =>
      some ⟨stack, .key ((key, value) :: fields)⟩
  | .ending value, .object fields key :: stack, .rightBrace =>
      some ⟨stack, .ending (closeObject ((key, value) :: fields))⟩
  | _, _, _ => none

/-- The value of a complete reading. -/
def Progress.value? : Progress → Option Json
  | ⟨[], .ending value⟩ => some value
  | _ => none

/-- The one value that the words of a text write, however deep it is. -/
def parseTree? (text : List Char) : Option Json := do
  let tokens ← tokens? text
  let progress ← tokens.foldlM Progress.step? {}
  progress.value?

/-- Containers may be nested this deep. -/
def depthLimit : Nat := 127

/-- The value of a text in which everything denotes something. -/
def parse? (text : List Char) : Option Json :=
  (parseTree? text).filter fun value => value.isDefinite && decide (value.depth ≤ depthLimit)

end MavBridge.Json
