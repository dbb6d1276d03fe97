import MavBridge.Toml.Basic

/-!
TOML values as records and plain fields.

A record is a table, in which unknown keys are passed over, or an array of its values in order, of
which the last ones may be missing and further ones are passed over. A date or time stands for a
table with one key that no record has.
-/

namespace MavBridge.Toml

def text? : Toml → Option String
  | str value => some value
  | _ => none

def flag? : Toml → Option Bool
  | bool value => some value
  | _ => none

/-- A whole number from zero up to below `bound`. -/
def natural? (bound : Nat) : Toml → Option Nat
  | int value => if 0 ≤ value ∧ value < bound then some value.toNat else none
  | _ => none

def u32? (value : Toml) : Option UInt32 := (value.natural? 0x100000000).map UInt32.ofNat

def u64? (value : Toml) : Option UInt64 := (value.natural? 0x10000000000000000).map UInt64.ofNat

/-- The known fields of a record, in order, as far as they are there. -/
def slots? (keys : List String) : Toml → Option (List (Option Toml))
  | table _ entries => some (keys.map (lookup? entries))
  | arr items =>
      some ((items.take keys.length).map some ++ List.replicate (keys.length - items.length) none)
  | moment => some (keys.map fun _ => none)
  | _ => none

variable {α : Type}

/-- A field that may be missing. -/
def orDefault (missing : α) (read : Toml → Option α) : Option Toml → Option α
  | none => some missing
  | some value => read value

end MavBridge.Toml
