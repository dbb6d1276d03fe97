import MavBridge.Text.Utf8
import Mathlib.Data.List.Basic
import Mathlib.Tactic.SplitIfs

/-!
# Reading back what was written in UTF-8

Each character is written as a lead byte and some continuation bytes that carry six bits each.
-/

namespace MavBridge.Utf8

section Bytes

variable {value : Nat} (small : value < 256)
include small

theorem ofNat_lt_iff (bound : UInt8) : UInt8.ofNat value < bound ↔ value < bound.toNat := by
  rw [UInt8.lt_iff_toNat_lt, UInt8.toNat_ofNat_of_lt' small]

theorem ofNat_eq_iff (byte : UInt8) : UInt8.ofNat value = byte ↔ value = byte.toNat := by
  rw [← UInt8.toNat_inj, UInt8.toNat_ofNat_of_lt' small]

theorem between_ofNat_iff (lower upper : UInt8) :
    (lower ≤ UInt8.ofNat value ∧ UInt8.ofNat value ≤ upper) ↔
      lower.toNat ≤ value ∧ value ≤ upper.toNat := by
  rw [UInt8.le_iff_toNat_le, UInt8.le_iff_toNat_le, UInt8.toNat_ofNat_of_lt' small]

end Bytes

/-- The byte of the last six bits. -/
def continuation (bits : Nat) : UInt8 := UInt8.ofNat (bits % 64 + 128)

theorem continuation_lt (bits : Nat) : bits % 64 + 128 < 256 := by omega

theorem isContinuation_continuation (bits : Nat) : isContinuation (continuation bits) = true := by
  rw [isContinuation, Bool.and_eq_true, decide_eq_true_eq, decide_eq_true_eq, continuation,
    between_ofNat_iff (continuation_lt bits)]
  simp only [UInt8.reduceToNat]
  omega

theorem append_continuation (high bits : Nat) :
    append high (continuation bits) = high * 64 + bits % 64 := by
  rw [append, continuation, UInt8.toNat_ofNat_of_lt' (continuation_lt bits)]
  omega

/-- A second byte is refused if the character would have fitted in fewer bytes, if it is a
surrogate, or if it is too large. -/
theorem admitsSecond_continuation {lead bits : Nat} (small : lead < 256)
    (three : lead = 0xE0 → 32 ≤ bits % 64) (surrogate : lead = 0xED → bits % 64 < 32)
    (four : lead = 0xF0 → 16 ≤ bits % 64) (large : lead = 0xF4 → bits % 64 < 16) :
    admitsSecond (UInt8.ofNat lead) (continuation bits) = true := by
  unfold admitsSecond
  simp only [ofNat_eq_iff small]
  split_ifs
  case neg => exact isContinuation_continuation bits
  all_goals
    rename lead = _ => isLead
    rw [Bool.and_eq_true, decide_eq_true_eq, decide_eq_true_eq, continuation,
      between_ofNat_iff (continuation_lt bits)]
    simp only [UInt8.reduceToNat] at isLead ⊢
    omega

section Head

variable {value : Nat} (rest : Bytes)

theorem head_one (short : value < 0x80) :
    head (UInt8.ofNat value) rest = (some (Char.ofNat value), 0) := by
  have isAscii : UInt8.ofNat value < 0x80 := (ofNat_lt_iff (by omega) _).mpr short
  rw [head.eq_def, if_pos isAscii, UInt8.toNat_ofNat_of_lt' (show value < 256 by omega)]

theorem head_two (long : 0x80 ≤ value) (short : value < 0x800) :
    head (UInt8.ofNat (value / 64 % 32 + 192)) (continuation value :: rest) =
      (some (Char.ofNat value), 1) := by
  have small : value / 64 % 32 + 192 < 256 := by omega
  have bits : (value / 64 % 32 + 192) % 32 * 64 + value % 64 = value := by omega
  simp only [head, ofNat_lt_iff small, between_ofNat_iff small, UInt8.reduceToNat,
    isContinuation_continuation, append_continuation, UInt8.toNat_ofNat_of_lt' small, bits,
    if_true]
  rw [if_neg (by omega), if_pos (by omega)]

theorem head_three (long : 0x800 ≤ value) (short : value < 0x10000)
    (valid : value < 0xD800 ∨ 0xDFFF < value) :
    head (UInt8.ofNat (value / 4096 % 16 + 224))
        (continuation (value / 64) :: continuation value :: rest) =
      (some (Char.ofNat value), 2) := by
  have small : value / 4096 % 16 + 224 < 256 := by omega
  have admitted : admitsSecond (UInt8.ofNat (value / 4096 % 16 + 224)) (continuation (value / 64)) =
      true := by apply admitsSecond_continuation <;> omega
  have bits : ((value / 4096 % 16 + 224) % 16 * 64 + value / 64 % 64) * 64 + value % 64 =
      value := by omega
  simp only [head, ofNat_lt_iff small, between_ofNat_iff small, UInt8.reduceToNat, admitted,
    isContinuation_continuation, append_continuation, UInt8.toNat_ofNat_of_lt' small, bits,
    if_true]
  rw [if_neg (by omega), if_neg (by omega), if_pos (by omega)]

theorem head_four (long : 0x10000 ≤ value) (short : value < 0x110000) :
    head (UInt8.ofNat (value / 262144 % 8 + 240))
        (continuation (value / 4096) :: continuation (value / 64) :: continuation value :: rest) =
      (some (Char.ofNat value), 3) := by
  have small : value / 262144 % 8 + 240 < 256 := by omega
  have admitted : admitsSecond (UInt8.ofNat (value / 262144 % 8 + 240))
      (continuation (value / 4096)) = true := by apply admitsSecond_continuation <;> omega
  have bits : (((value / 262144 % 8 + 240) % 8 * 64 + value / 4096 % 64) * 64 + value / 64 % 64) *
      64 + value % 64 = value := by omega
  simp only [head, ofNat_lt_iff small, between_ofNat_iff small, UInt8.reduceToNat, admitted,
    isContinuation_continuation, append_continuation, UInt8.toNat_ofNat_of_lt' small, bits,
    if_true]
  rw [if_neg (by omega), if_neg (by omega), if_neg (by omega), if_pos (by omega)]

end Head

theorem scan_cons {lead : UInt8} {tail rest : Bytes} {char : Char}
    (read : head lead (tail ++ rest) = (some char, tail.length)) :
    scan (lead :: tail ++ rest) = some char :: scan rest := by
  rw [List.cons_append, scan, read, List.drop_left]

theorem encodeChar_eq (char : Char) :
    String.utf8EncodeChar char =
      if char.toNat ≤ 0x7F then [UInt8.ofNat char.toNat]
      else if char.toNat ≤ 0x7FF then
        [UInt8.ofNat (char.toNat / 64 % 32 + 192), continuation char.toNat]
      else if char.toNat ≤ 0xFFFF then
        [UInt8.ofNat (char.toNat / 4096 % 16 + 224), continuation (char.toNat / 64),
          continuation char.toNat]
      else
        [UInt8.ofNat (char.toNat / 262144 % 8 + 240), continuation (char.toNat / 4096),
          continuation (char.toNat / 64), continuation char.toNat] := rfl

theorem scan_encodeChar (char : Char) (rest : Bytes) :
    scan (String.utf8EncodeChar char ++ rest) = some char :: scan rest := by
  have valid : char.toNat < 0xD800 ∨ 0xDFFF < char.toNat ∧ char.toNat < 0x110000 := char.valid
  rw [encodeChar_eq]
  split_ifs with one two three
  · apply scan_cons
    exact (head_one rest (by omega)).trans (by rw [Char.ofNat_toNat]; rfl)
  · apply scan_cons
    exact (head_two rest (by omega) (by omega)).trans (by rw [Char.ofNat_toNat]; rfl)
  · apply scan_cons
    exact (head_three rest (by omega) (by omega) (by omega)).trans
      (by rw [Char.ofNat_toNat]; rfl)
  · apply scan_cons
    exact (head_four rest (by omega) (by omega)).trans (by rw [Char.ofNat_toNat]; rfl)

theorem scan_encode (text : List Char) : scan (encode text) = text.map some := by
  induction text with
  | nil => rw [encode, List.flatMap_nil, scan, List.map_nil]
  | cons char rest inductionHypothesis =>
      rw [encode, List.flatMap_cons, scan_encodeChar]
      exact congrArg _ inductionHypothesis

theorem decode?_encode (text : List Char) : decode? (encode text) = some text := by
  rw [decode?, scan_encode, List.mapM_map]
  exact List.mapM_pure.trans (congrArg some (List.map_id text))

theorem encode_injective : Function.Injective encode := by
  intro text other same
  rw [← Option.some_inj, ← decode?_encode text, same, decode?_encode]

theorem length_encode (text : List Char) :
    (encode text).length = (String.ofList text).utf8ByteSize := by
  simp [String.utf8ByteSize, encode, List.utf8Encode]

end MavBridge.Utf8
