import MavBridge.NameField
import MavBridge.Proofs.Text.Utf8
import Mathlib.Data.List.DropRight
import Mathlib.Data.List.TakeWhile

/-!
# What is read back from a name field

A name that was written into a field is read up to its first NUL, and without the white space at its
end.  `ReadsBack` says which names come back as they were.  Whatever the bytes of a field are, its
text is such a name, so that no field at all is read as any other name.
-/

namespace MavBridge

namespace Text

/-- The character that ends a text in a field. -/
def nul : Char := Char.ofNat 0

theorem trimEnd_eq_self_iff {text : List Char} :
    trimEnd text = text ↔ ∀ last ∈ text.getLast?, isBlank last = false := by
  have dropped : trimEnd text = text.rdropWhile isBlank := rfl
  rw [dropped, List.rdropWhile_eq_self_iff]
  constructor
  · intro solid last found
    obtain ⟨nonempty, rfl⟩ := List.mem_getLast?_eq_getLast found
    simpa using solid nonempty
  · intro solid nonempty
    simpa using solid _ (List.getLast?_eq_some_getLast nonempty)

theorem trimEnd_trimEnd (text : List Char) : trimEnd (trimEnd text) = trimEnd text :=
  List.rdropWhile_idempotent isBlank text

theorem trimEnd_prefix (text : List Char) : trimEnd text <+: text :=
  List.rdropWhile_prefix isBlank text

/-- `text` is what is left of `whole` without the white space at its end. -/
structure Trims (whole text : List Char) : Prop where
  blanks : ∃ blanks, whole = text ++ blanks ∧ ∀ char ∈ blanks, isBlank char = true
  solid : ∀ last ∈ text.getLast?, isBlank last = false

theorem trims_trimEnd (whole : List Char) : Trims whole (trimEnd whole) := by
  refine ⟨⟨(whole.reverse.takeWhile isBlank).reverse, ?_, ?_⟩, ?_⟩
  · rw [trimEnd, ← List.reverse_append, List.takeWhile_append_dropWhile, List.reverse_reverse]
  · intro char membership
    exact List.mem_takeWhile_imp (List.mem_reverse.mp membership)
  · exact trimEnd_eq_self_iff.mp (trimEnd_trimEnd whole)

end Text

namespace Utf8

open Text (nul)

/-! ## NUL bytes and NUL characters -/

theorem toNat_ofNat_of_valid {value : Nat}
    (valid : value < 0xD800 ∨ 0xDFFF < value ∧ value < 0x110000) :
    (Char.ofNat value).toNat = value := by
  have isValid : value.isValidChar := valid
  rw [Char.ofNat, dif_pos isValid]
  rfl

/-- The range matters: what is out of it is made a NUL. -/
theorem ofNat_ne_nul {value : Nat} (positive : 0 < value)
    (valid : value < 0xD800 ∨ 0xDFFF < value ∧ value < 0x110000) : Char.ofNat value ≠ nul := by
  intro isNul
  have same := toNat_ofNat_of_valid valid
  rw [isNul] at same
  exact absurd same.symm (Nat.ne_of_gt positive)

/-- Only NUL is written with a byte that is zero. -/
theorem zero_mem_encodeChar_iff (char : Char) : 0 ∈ String.utf8EncodeChar char ↔ char = nul := by
  have valid : char.toNat < 0xD800 ∨ 0xDFFF < char.toNat ∧ char.toNat < 0x110000 := char.valid
  have isNul : char = nul ↔ char.toNat = 0 := Char.toNat_inj.symm
  have isZero : ∀ {value : Nat}, value < 256 → (0 = UInt8.ofNat value ↔ value = 0) := by
    intro value small
    rw [eq_comm, ofNat_eq_iff small]
    rfl
  have second : char.toNat / 64 % 32 + 192 < 256 := by omega
  have third : char.toNat / 4096 % 16 + 224 < 256 := by omega
  have fourth : char.toNat / 262144 % 8 + 240 < 256 := by omega
  rw [isNul, encodeChar_eq]
  split_ifs with one two three
  · rw [List.mem_singleton, isZero (by omega)]
  all_goals
    simp only [List.mem_cons, List.not_mem_nil, or_false, continuation, isZero second,
      isZero third, isZero fourth, isZero (continuation_lt _)]
    omega

/-- The bytes up to the first zero are those of the characters up to the first NUL. -/
theorem takeWhile_encode (text : List Char) :
    (encode text).takeWhile (· != 0) = encode (text.takeWhile (· != nul)) := by
  induction text with
  | nil => rfl
  | cons char rest inductionHypothesis =>
      have parted : encode (char :: rest) = String.utf8EncodeChar char ++ encode rest := rfl
      by_cases isNul : char = nul
      · subst isNul
        rfl
      · have nonzero : ∀ byte ∈ String.utf8EncodeChar char, (byte != 0) = true := by
          intro byte membership
          rw [bne_iff_ne]
          rintro rfl
          exact isNul ((zero_mem_encodeChar_iff char).mp membership)
        have kept : (char :: rest).takeWhile (· != nul) =
            char :: rest.takeWhile (· != nul) :=
          List.takeWhile_cons_of_pos (bne_iff_ne.mpr isNul)
        rw [parted, List.takeWhile_append_of_pos nonzero, inductionHypothesis, kept]
        rfl

theorem decodeLossy_encode (text : List Char) : decodeLossy (encode text) = text := by
  rw [decodeLossy, scan_encode, List.map_map]
  exact List.map_id text

/-- What the second byte of a sequence adds: enough to need so many bytes, no surrogate, and no more
than there are characters. -/
theorem bits_of_admitsSecond {lead second : UInt8} (admitted : admitsSecond lead second = true) :
    (lead.toNat = 0xE0 → 32 ≤ second.toNat % 64) ∧
      (lead.toNat = 0xED → second.toNat % 64 < 32) ∧
      (lead.toNat = 0xF0 → 16 ≤ second.toNat % 64) ∧
      (lead.toNat = 0xF4 → second.toNat % 64 < 16) := by
  simp only [admitsSecond, isContinuation, ← UInt8.toNat_inj, UInt8.reduceToNat] at admitted
  split_ifs at admitted
  all_goals
    simp only [Bool.and_eq_true, decide_eq_true_eq, UInt8.le_iff_toNat_le,
      UInt8.reduceToNat] at admitted
    omega

/-- Only the byte zero is read as NUL. -/
theorem head_ne_nul {lead : UInt8} (nonzero : lead ≠ 0) (rest : Bytes) :
    (head lead rest).1 ≠ some nul := by
  have positive : 0 < lead.toNat := by
    rw [Nat.pos_iff_ne_zero]
    exact fun zero => nonzero (UInt8.toNat_inj.mp zero)
  rw [head.eq_def]
  simp only [UInt8.lt_iff_toNat_lt, UInt8.le_iff_toNat_le, UInt8.reduceToNat, append]
  split_ifs with one two three four
  · exact fun isNul => ofNat_ne_nul positive (by omega) (Option.some.inj isNul)
  · split
    next b tail =>
      split_ifs
      · exact fun isNul => ofNat_ne_nul (by omega) (by omega) (Option.some.inj isNul)
      · simp
    next => simp
  · split
    next b c tail =>
      split_ifs with admitted
      · obtain ⟨long, surrogate, -, -⟩ := bits_of_admitsSecond admitted
        exact fun isNul => ofNat_ne_nul (by omega) (by omega) (Option.some.inj isNul)
      · simp
      · simp
    next => simp
    next => simp
  · split
    next b c d tail =>
      split_ifs with admitted
      · obtain ⟨-, -, long, large⟩ := bits_of_admitsSecond admitted
        exact fun isNul => ofNat_ne_nul (by omega) (by omega) (Option.some.inj isNul)
      · simp
      · simp
      · simp
    next => simp
    next => simp
    next => simp
  · simp

theorem nul_not_mem_decodeLossy {bytes : Bytes} (nonzero : 0 ∉ bytes) :
    nul ∉ decodeLossy bytes := by
  unfold decodeLossy
  fun_induction scan bytes with
  | case1 => exact List.not_mem_nil
  | case2 lead rest inductionHypothesis =>
      have first := head_ne_nul (fun zero => nonzero (zero ▸ List.mem_cons_self)) rest
      have later : 0 ∉ rest.drop (head lead rest).2 :=
        fun membership => nonzero (List.mem_cons_of_mem _ (List.mem_of_mem_drop membership))
      rw [List.map_cons, List.mem_cons, not_or]
      refine ⟨?_, inductionHypothesis later⟩
      cases read : (head lead rest).1 with
      | none => decide
      | some char =>
          rw [read] at first
          exact fun isNul => first (congrArg some isNul.symm)

end Utf8

namespace NameField

open Text (nul)

/-! ## Names and fields -/

/-- A name that is the text of its own field: without a NUL in it, and without white space at its
end. -/
structure ReadsBack (name : String) : Prop where
  nul_not_mem : nul ∉ name.toList
  solid : ∀ last ∈ name.toList.getLast?, Text.isBlank last = false

theorem takeWhile_eq_self_iff {text : List Char} :
    text.takeWhile (· != nul) = text ↔ nul ∉ text := by
  rw [List.takeWhile_eq_self_iff]
  constructor
  · intro unended membership
    simpa using unended nul membership
  · intro unended char membership
    rw [bne_iff_ne]
    rintro rfl
    exact unended membership

theorem readsBack_iff (name : String) :
    ReadsBack name ↔ Text.trimEnd (name.toList.takeWhile (· != nul)) = name.toList := by
  constructor
  · rintro ⟨unended, solid⟩
    rw [takeWhile_eq_self_iff.mpr unended]
    exact Text.trimEnd_eq_self_iff.mpr solid
  · intro same
    have within := Text.trimEnd_prefix (name.toList.takeWhile (· != nul))
    rw [same] at within
    have whole : name.toList.takeWhile (· != nul) = name.toList :=
      (List.takeWhile_prefix _).eq_of_length_le within.length_le
    rw [whole] at same
    exact ⟨takeWhile_eq_self_iff.mp whole, Text.trimEnd_eq_self_iff.mp same⟩

instance (name : String) : Decidable (ReadsBack name) :=
  decidable_of_iff _ (readsBack_iff name).symm

theorem encode?_eq_some_iff {name : String} {field : Bytes} :
    encode? name = some field ↔
      Utf8.encode name.toList ≠ [] ∧ (Utf8.encode name.toList).length ≤ width ∧
        (Utf8.encode name.toList).resize width = field := by
  unfold encode?
  dsimp only
  split
  next refused =>
    rw [List.isEmpty_iff] at refused
    refine iff_of_false (by simp) ?_
    rintro ⟨nonempty, fits, -⟩
    exact refused.elim nonempty (Nat.not_lt_of_le fits)
  next accepted =>
    rw [List.isEmpty_iff, not_or, Nat.not_lt] at accepted
    simp [accepted]

theorem content_resize {bytes : Bytes} (fits : bytes.length ≤ width) :
    content (bytes.resize width) = bytes.takeWhile (· != 0) := by
  have padding : (List.replicate (width - bytes.length) (0 : UInt8)).takeWhile (· != 0) = [] := by
    cases width - bytes.length with
    | zero => rfl
    | succ count => rfl
  rw [content, Bytes.resize, List.take_of_length_le fits, List.takeWhile_append]
  split
  next whole =>
    rw [padding, List.append_nil]
    exact ((List.takeWhile_prefix _).eq_of_length whole).symm
  next cut => rfl

/-- What is read out of the bytes of a text. -/
theorem decode_of_content {field : Bytes} {text : List Char}
    (written : content field = (Utf8.encode text).takeWhile (· != 0)) :
    decode field = String.ofList (Text.trimEnd (text.takeWhile (· != nul))) := by
  rw [decode, written, Utf8.takeWhile_encode, Utf8.decodeLossy_encode]

/-- A name comes back up to its first NUL, and without the white space at the end of that. -/
theorem decode_of_encode? {name : String} {field : Bytes} (encoded : encode? name = some field) :
    decode field = String.ofList (Text.trimEnd (name.toList.takeWhile (· != nul))) := by
  obtain ⟨-, fits, rfl⟩ := encode?_eq_some_iff.mp encoded
  exact decode_of_content (content_resize fits)

theorem decode_eq_self_iff {name : String} {field : Bytes} (encoded : encode? name = some field) :
    decode field = name ↔ ReadsBack name := by
  rw [decode_of_encode? encoded, readsBack_iff, ← String.toList_inj, String.toList_ofList]

theorem encode?_eq_none_iff {name : String} :
    encode? name = none ↔ name = "" ∨ width < name.utf8ByteSize := by
  have size := Utf8.length_encode name.toList
  rw [String.ofList_toList] at size
  rw [← String.utf8ByteSize_eq_zero_iff, ← size, List.length_eq_zero_iff, ← List.isEmpty_iff]
  unfold encode?
  dsimp only
  split
  next refused => exact iff_of_true rfl refused
  next accepted => exact iff_of_false (by simp) accepted

/-- The padding of a field can be told from a name that has no NUL itself. -/
theorem content_of_encode? {name : String} {field : Bytes} (unended : nul ∉ name.toList)
    (encoded : encode? name = some field) : content field = Utf8.encode name.toList := by
  obtain ⟨-, fits, rfl⟩ := encode?_eq_some_iff.mp encoded
  rw [content_resize fits, Utf8.takeWhile_encode, takeWhile_eq_self_iff.mpr unended]

/-- The text of a field is a name that reads back, whatever the bytes of the field are. -/
theorem readsBack_decode (field : Bytes) : ReadsBack (decode field) := by
  have nonzero : 0 ∉ content field := by
    intro membership
    simpa using List.mem_takeWhile_imp membership
  constructor
  · rw [decode, String.toList_ofList]
    exact fun membership => Utf8.nul_not_mem_decodeLossy nonzero
      ((Text.trimEnd_prefix _).subset membership)
  · rw [decode, String.toList_ofList]
    exact Text.trimEnd_eq_self_iff.mp (Text.trimEnd_trimEnd _)

/-- A name that reads back does so from its bytes alone, of whatever number they are. -/
theorem decode_encode {name : String} (readsBack : ReadsBack name) :
    decode (Utf8.encode name.toList) = name := by
  have whole := takeWhile_eq_self_iff.mpr readsBack.nul_not_mem
  have written : content (Utf8.encode name.toList) = (Utf8.encode name.toList).takeWhile (· != 0) :=
    rfl
  rw [decode_of_content written, (readsBack_iff name).mp readsBack, String.ofList_toList]

/-- A name has a field unless it is empty or has more than 16 bytes.  The text of its field is what
stands before its first NUL, without the white space at the end of that, so that just those names
come back that have neither; names without a NUL have different fields.  And the text of any field,
whatever its bytes are, has no NUL and no white space at its end, and is read again from its own
bytes. -/
theorem names_in_fields :
    (∀ name : String, encode? name = none ↔ name = "" ∨ 16 < name.utf8ByteSize) ∧
      (∀ (name : String) (field : Bytes), encode? name = some field →
        Text.Trims (name.toList.takeWhile (· != nul)) (decode field).toList ∧
          (decode field = name ↔
            nul ∉ name.toList ∧ ∀ last ∈ name.toList.getLast?, Text.isBlank last = false)) ∧
      (∀ (name other : String) (field : Bytes), nul ∉ name.toList → nul ∉ other.toList →
        encode? name = some field → encode? other = some field → name = other) ∧
      ∀ field : Bytes, nul ∉ (decode field).toList ∧
        (∀ last ∈ (decode field).toList.getLast?, Text.isBlank last = false) ∧
        decode (Utf8.encode (decode field).toList) = decode field := by
  refine ⟨?_, ?_, ?_, ?_⟩
  · intro name
    exact encode?_eq_none_iff
  · intro name field encoded
    constructor
    · rw [decode_of_encode? encoded, String.toList_ofList]
      exact Text.trims_trimEnd _
    · rw [decode_eq_self_iff encoded]
      exact ⟨fun readsBack => ⟨readsBack.nul_not_mem, readsBack.solid⟩,
        fun ⟨unended, solid⟩ => ⟨unended, solid⟩⟩
  · intro name other field unended unendedToo encoded encodedToo
    have same : Utf8.encode name.toList = Utf8.encode other.toList := by
      rw [← content_of_encode? unended encoded, content_of_encode? unendedToo encodedToo]
    exact String.toList_inj.mp (Utf8.encode_injective same)
  · intro field
    have readsBack := readsBack_decode field
    exact ⟨readsBack.nul_not_mem, readsBack.solid, decode_encode readsBack⟩

end NameField

end MavBridge
