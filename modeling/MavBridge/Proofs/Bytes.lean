import MavBridge.Bytes
import Mathlib.Algebra.Group.Nat.Defs
import Mathlib.Data.List.TakeWhile

/-!
# Slices, fields and cut-off zeros

A number of bytes is written and read back, parts of a byte string are found where they were put,
and bytes without their trailing zeros are filled up again.
-/

namespace MavBridge.Bytes

/-! ## Numbers -/

theorem toNat_lt (bytes : Bytes) : toNat bytes < 256 ^ bytes.length := by
  induction bytes with
  | nil => exact Nat.one_pos
  | cons byte rest inductionHypothesis =>
      have small := byte.toNat_lt
      rw [toNat, List.length_cons, Nat.pow_succ]
      omega

theorem toNat_ofNat {width value : Nat} (small : value < 256 ^ width) :
    toNat (ofNat width value) = value := by
  induction width generalizing value with
  | zero =>
      rw [Nat.pow_zero] at small
      rw [ofNat, toNat]
      omega
  | succ width inductionHypothesis =>
      have quotient : value / 256 < 256 ^ width := by
        rw [Nat.pow_succ] at small
        exact Nat.div_lt_of_lt_mul (Nat.mul_comm _ _ ▸ small)
      rw [ofNat, toNat, inductionHypothesis quotient, UInt8.toNat_ofNat']
      omega

theorem ofNat_toNat (bytes : Bytes) : ofNat bytes.length (toNat bytes) = bytes := by
  induction bytes with
  | nil => rfl
  | cons byte rest inductionHypothesis =>
      have small := byte.toNat_lt
      have quotient : (byte.toNat + 256 * toNat rest) / 256 = toNat rest := by omega
      have low : UInt8.ofNat (byte.toNat + 256 * toNat rest) = byte := by
        apply UInt8.toNat_inj.mp
        rw [UInt8.toNat_ofNat']
        omega
      rw [List.length_cons, toNat, ofNat, quotient, inductionHypothesis, low]

/-! ## Slices -/

theorem slice_append_left {front back : Bytes} {offset width : Nat}
    (inside : offset + width ≤ front.length) :
    (front ++ back).slice offset width = front.slice offset width := by
  unfold slice
  rw [List.drop_append_of_le_length (by omega),
    List.take_append_of_le_length (by rw [List.length_drop]; omega)]

theorem slice_append_right (front back : Bytes) (offset width : Nat) :
    (front ++ back).slice (front.length + offset) width = back.slice offset width := by
  unfold slice
  rw [List.drop_append, List.drop_eq_nil_of_le (by omega), Nat.add_sub_cancel_left,
    List.nil_append]

theorem slice_take {bytes : Bytes} {length offset width : Nat} (inside : offset + width ≤ length) :
    slice (bytes.take length) offset width = bytes.slice offset width := by
  unfold slice
  rw [List.drop_take, List.take_take, Nat.min_eq_left (by omega)]

theorem slice_drop (bytes : Bytes) (first offset width : Nat) :
    slice (bytes.drop first) offset width = bytes.slice (first + offset) width := by
  unfold slice
  rw [List.drop_drop]

theorem slice_all (bytes : Bytes) : bytes.slice 0 bytes.length = bytes := by
  rw [slice, List.drop_zero, List.take_length]

/-- What is put between two parts is found there. -/
theorem slice_of_parts {bytes : Bytes} {offset width : Nat} (front middle back : Bytes)
    (parted : bytes = front ++ middle ++ back) (starts : front.length = offset)
    (covers : middle.length = width) : bytes.slice offset width = middle := by
  subst parted starts covers
  rw [List.append_assoc, ← Nat.add_zero front.length, slice_append_right,
    slice_append_left (by omega), slice_all]

theorem length_slice {bytes : Bytes} {offset width : Nat} (inside : offset + width ≤ bytes.length) :
    (bytes.slice offset width).length = width := by
  rw [slice, List.length_take, List.length_drop]
  omega

/-- A byte string around one of its slices. -/
theorem take_append_slice_append_drop (bytes : Bytes) (offset width : Nat) :
    bytes.take offset ++ bytes.slice offset width ++ bytes.drop (offset + width) = bytes := by
  rw [slice, ← List.drop_drop, List.append_assoc, List.take_append_drop, List.take_append_drop]

theorem field_lt {bytes : Bytes} {offset width : Nat} (inside : offset + width ≤ bytes.length) :
    bytes.field offset width < 256 ^ width := by
  have small := toNat_lt (bytes.slice offset width)
  rw [length_slice inside] at small
  exact small

/-! ## Zeros -/

/-- Bytes that end in zeros are what their front is filled up to. -/
theorem resize_of_zeros {bytes front : Bytes} {count : Nat}
    (zeros : bytes = front ++ List.replicate count 0) : front.resize bytes.length = bytes := by
  have missing : bytes.length - front.length = count := by
    rw [zeros, List.length_append, List.length_replicate]
    omega
  rw [resize, List.take_of_length_le (by rw [zeros, List.length_append]; omega), missing, zeros]

theorem resize_length (bytes : Bytes) : bytes.resize bytes.length = bytes := by
  have nothing : bytes = bytes ++ List.replicate 0 0 := (List.append_nil bytes).symm
  exact resize_of_zeros nothing

theorem exists_trimZeros_append (bytes : Bytes) :
    ∃ count, bytes = bytes.trimZeros ++ List.replicate count 0 := by
  have parted := congrArg List.reverse
    (List.takeWhile_append_dropWhile (p := fun byte : UInt8 => byte == 0) (l := bytes.reverse))
  rw [List.reverse_append, List.reverse_reverse] at parted
  refine ⟨(bytes.reverse.takeWhile fun byte => byte == 0).reverse.length, ?_⟩
  have zeros : (bytes.reverse.takeWhile fun byte => byte == 0).reverse =
      List.replicate (bytes.reverse.takeWhile fun byte => byte == 0).reverse.length 0 := by
    refine List.eq_replicate_of_mem ?_
    intro byte membership
    simpa using List.mem_takeWhile_imp (List.mem_reverse.mp membership)
  rw [← zeros]
  exact parted.symm

/-- Zeros at the end are no different from what is filled up. -/
theorem resize_append_zeros (length : Nat) (bytes : Bytes) (count : Nat) :
    resize length (bytes ++ List.replicate count 0) = resize length bytes := by
  simp only [resize, List.take_append, List.length_append, List.length_replicate,
    List.take_replicate, List.append_assoc, List.replicate_append_replicate]
  congr 2
  omega

theorem resize_trimZeros (length : Nat) (bytes : Bytes) :
    resize length bytes.trimZeros = resize length bytes := by
  obtain ⟨count, parted⟩ := exists_trimZeros_append bytes
  have filled := resize_append_zeros length bytes.trimZeros count
  rw [← parted] at filled
  exact filled.symm

end MavBridge.Bytes
