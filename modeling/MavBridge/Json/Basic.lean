import MavBridge.Number.Binary

/-!
JSON values.

`malformed` stands for a scalar that follows the grammar and denotes nothing: a number beyond the
range of a double, or a text with half of a surrogate pair. A reader that skips a value passes over
it; one that wants the value refuses it. An object keeps its fields as they were written, also a
repeated one.
-/

namespace MavBridge

inductive Json where
  | null
  | bool (value : Bool)
  | int (value : Int)
  | real (value : Binary64)
  | str (value : String)
  | arr (items : List Json)
  | obj (fields : List (String × Json))
  | malformed
  deriving Repr, Inhabited

namespace Json

mutual

/-- How deep arrays and objects are nested. -/
def depth : Json → Nat
  | arr items => depthItems items + 1
  | obj fields => depthFields fields + 1
  | _ => 0

def depthItems : List Json → Nat
  | [] => 0
  | item :: items => max item.depth (depthItems items)

def depthFields : List (String × Json) → Nat
  | [] => 0
  | (_, value) :: fields => max value.depth (depthFields fields)

end

mutual

/-- Every scalar in it denotes something. -/
def isDefinite : Json → Bool
  | arr items => isDefiniteItems items
  | obj fields => isDefiniteFields fields
  | malformed => false
  | _ => true

def isDefiniteItems : List Json → Bool
  | [] => true
  | item :: items => item.isDefinite && isDefiniteItems items

def isDefiniteFields : List (String × Json) → Bool
  | [] => true
  | (_, value) :: fields => value.isDefinite && isDefiniteFields fields

end

/-- The value of the field `key`; of several, the last. -/
def field? (fields : List (String × Json)) (key : String) : Option Json :=
  (fields.reverse.find? fun entry => entry.1 == key).map (·.2)

mutual

/-- Of the fields with one key, only the last stays. -/
def lastWins : Json → Json
  | arr items => arr (lastWinsItems items)
  | obj fields => obj (lastWinsFields fields)
  | value => value

def lastWinsItems : List Json → List Json
  | [] => []
  | item :: items => item.lastWins :: lastWinsItems items

def lastWinsFields : List (String × Json) → List (String × Json)
  | [] => []
  | (key, value) :: fields =>
      if fields.any fun entry => entry.1 == key then lastWinsFields fields
      else (key, value.lastWins) :: lastWinsFields fields

end

end Json

end MavBridge
