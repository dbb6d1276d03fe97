import MavBridge.Json.Basic

/-!
Values as records, names and plain fields.

A record is an object, in which unknown fields are passed over and a known one may stand only once,
or an array of its fields in order, of which the last ones may be missing.
-/

namespace MavBridge.Json

def text? : Json → Option String
  | str value => some value
  | _ => none

def flag? : Json → Option Bool
  | bool value => some value
  | _ => none

/-- A whole number from zero up to below `bound`. -/
def natural? (bound : Nat) : Json → Option Nat
  | int value => if 0 ≤ value ∧ value < bound then some value.toNat else none
  | _ => none

/-- One of several names: a text, or an object with just this name and no content. -/
def choice? : Json → Option String
  | str name => some name
  | obj [(name, null)] => some name
  | _ => none

/-- The known fields of a record, in order, as far as they are there. -/
def slots? (names : List String) : Json → Option (List (Option Json))
  | obj fields => names.mapM fun name =>
      match fields.filter fun entry => entry.1 == name with
      | [] => some none
      | [entry] => some (some entry.2)
      | _ => none
  | arr items =>
      if items.length ≤ names.length then
        some (items.map some ++ List.replicate (names.length - items.length) none)
      else none
  | _ => none

variable {α : Type}

/-- A field that may be missing. -/
def orDefault (missing : α) (read : Json → Option α) : Option Json → Option α
  | none => some missing
  | some value => read value

/-- A field that may be missing or null. -/
def orNone (read : Json → Option α) : Option Json → Option (Option α)
  | none => some none
  | some null => some none
  | some value => (read value).map some

end MavBridge.Json
