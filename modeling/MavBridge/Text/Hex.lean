import MavBridge.Bytes

/-!
Hexadecimal digits, and byte strings written with two of them for each byte.
-/

namespace MavBridge.Hex

/-- The lower-case digit of the last four bits. -/
def digit (value : Nat) : Char := Nat.digitChar (value % 16)

/-- What a digit of either case stands for. -/
def value? (char : Char) : Option Nat :=
  if '0' ≤ char ∧ char ≤ '9' then some (char.toNat - '0'.toNat)
  else if 'a' ≤ char ∧ char ≤ 'f' then some (char.toNat - 'a'.toNat + 10)
  else if 'A' ≤ char ∧ char ≤ 'F' then some (char.toNat - 'A'.toNat + 10)
  else none

/-- The last `width` digits of a number. -/
def digits : (width value : Nat) → List Char
  | 0, _ => []
  | width + 1, value => digits width (value / 16) ++ [digit value]

/-- The number that digits write. -/
def number? (chars : List Char) : Option Nat :=
  chars.foldlM (fun value char => (value? char).map (16 * value + ·)) 0

/-- Two digits for each byte. -/
def encode (bytes : Bytes) : String :=
  String.ofList (bytes.flatMap fun byte => digits 2 byte.toNat)

/-- The bytes that pairs of digits write. -/
def pairs? : List Char → Option Bytes
  | [] => some []
  | [_] => none
  | high :: low :: rest =>
      match number? [high, low], pairs? rest with
      | some byte, some bytes => some (UInt8.ofNat byte :: bytes)
      | _, _ => none

def decode? (text : String) : Option Bytes := pairs? text.toList

end MavBridge.Hex
