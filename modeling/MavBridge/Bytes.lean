/-!
Byte strings and little-endian fields.

A field that reaches past the end of the bytes reads the missing ones as zero, which is how a
payload with its trailing zeros cut off is read.
-/

namespace MavBridge

abbrev Bytes := List UInt8

namespace Bytes

/-- The value of `bytes`, least significant first. -/
def toNat : Bytes → Nat
  | [] => 0
  | byte :: rest => byte.toNat + 256 * toNat rest

/-- The low `width` bytes of `value`, least significant first. -/
def ofNat : (width value : Nat) → Bytes
  | 0, _ => []
  | width + 1, value => UInt8.ofNat value :: ofNat width (value / 256)

@[simp] theorem length_ofNat (width value : Nat) : (ofNat width value).length = width := by
  induction width generalizing value with
  | zero => rfl
  | succ width inductionHypothesis => simp [ofNat, inductionHypothesis]

/-- The first `length` bytes, filled up with zeros. -/
def resize (length : Nat) (bytes : Bytes) : Bytes :=
  bytes.take length ++ List.replicate (length - bytes.length) 0

@[simp] theorem length_resize (length : Nat) (bytes : Bytes) :
    (resize length bytes).length = length := by
  simp only [resize, List.length_append, List.length_take, List.length_replicate]
  omega

/-- The `width` bytes at `offset`. -/
def slice (bytes : Bytes) (offset width : Nat) : Bytes := (bytes.drop offset).take width

/-- The unsigned field of `width` bytes at `offset`. -/
def field (bytes : Bytes) (offset width : Nat) : Nat := (bytes.slice offset width).toNat

def u8 (bytes : Bytes) (offset : Nat) : UInt8 := UInt8.ofNat (bytes.field offset 1)

@[simp] theorem u8_cons_zero (byte : UInt8) (rest : Bytes) : u8 (byte :: rest) 0 = byte := by
  simp [u8, field, slice, toNat]

@[simp] theorem u8_cons_succ (byte : UInt8) (rest : Bytes) (offset : Nat) :
    u8 (byte :: rest) (offset + 1) = u8 rest offset := rfl

/-- Later bytes do not change a byte that is there. -/
theorem u8_append {bytes : Bytes} {offset : Nat} (inside : offset < bytes.length) (later : Bytes) :
    (bytes ++ later).u8 offset = bytes.u8 offset := by
  have covered : 1 ≤ (bytes.drop offset).length := by
    rw [List.length_drop]
    omega
  rw [u8, field, slice, List.drop_append_of_le_length (Nat.le_of_lt inside),
    List.take_append_of_le_length covered]
  rfl

def u16 (bytes : Bytes) (offset : Nat) : UInt16 := UInt16.ofNat (bytes.field offset 2)

def u32 (bytes : Bytes) (offset : Nat) : UInt32 := UInt32.ofNat (bytes.field offset 4)

def i8 (bytes : Bytes) (offset : Nat) : Int8 := (bytes.u8 offset).toInt8

def i16 (bytes : Bytes) (offset : Nat) : Int16 := (bytes.u16 offset).toInt16

def i32 (bytes : Bytes) (offset : Nat) : Int32 := (bytes.u32 offset).toInt32

/-- `bytes` without its trailing zeros. -/
def trimZeros (bytes : Bytes) : Bytes := (bytes.reverse.dropWhile (· == 0)).reverse

end Bytes

end MavBridge
