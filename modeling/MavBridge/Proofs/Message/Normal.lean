import MavBridge.Message.Packet
import MavBridge.Proofs.Bytes
import MavBridge.Proofs.Lookup

/-!
# Messages in normal form

What is read out of a payload is in normal form, and a message in normal form is read out of its
payload as it is sent: filling up restores the zeros that were cut off, and the flags that are
cleared are clear already.
-/

namespace MavBridge

open Bytes

/-! ## The dialect -/

/-- Two fields share no byte. -/
def FlagField.Apart (field other : FlagField) : Prop :=
  field.offset + field.width ≤ other.offset ∨ other.offset + other.width ≤ field.offset

instance (field other : FlagField) : Decidable (field.Apart other) :=
  inferInstanceAs (Decidable (_ ∨ _))

/-- A kind of message that fits into a frame, and whose flags fit into the message. -/
structure MessageKind.WellFormed (kind : MessageKind) : Prop where
  id_lt : kind.id < 256 ^ 3
  length_le : kind.length ≤ 255
  within : ∀ field ∈ kind.flags, field.offset + field.width ≤ kind.length
  apart : kind.flags.Pairwise FlagField.Apart

theorem wellFormed_of_mem_dialect {kind : MessageKind} (listed : kind ∈ dialect) :
    kind.WellFormed := by
  have checked : ∀ kind ∈ dialect, kind.id < 256 ^ 3 ∧ kind.length ≤ 255 ∧
      (∀ field ∈ kind.flags, field.offset + field.width ≤ kind.length) ∧
      kind.flags.Pairwise FlagField.Apart := by decide +kernel
  rcases checked kind listed with ⟨id_lt, length_le, within, apart⟩
  exact ⟨id_lt, length_le, within, apart⟩

theorem dialect_ids_nodup : (dialect.map (·.id)).Nodup := by
  have increasing : (dialect.map (·.id)).IsChain (· < ·) := by decide +kernel
  exact (List.isChain_iff_pairwise.mp increasing).imp fun less => Nat.ne_of_lt less

theorem MessageKind.ofId?_eq_some_iff {id : Nat} {kind : MessageKind} :
    MessageKind.ofId? id = some kind ↔ kind ∈ dialect ∧ kind.id = id :=
  find?_key_eq_some_iff MessageKind.id dialect_ids_nodup

/-! ## Flags -/

namespace FlagField

variable {field other : FlagField} {bytes : Bytes}

theorem length_mask (within : field.offset + field.width ≤ bytes.length) :
    (field.mask bytes).length = bytes.length := by
  simp only [mask, List.length_append, List.length_take, length_ofNat, List.length_drop]
  omega

/-- Only known flags are left. -/
theorem field_mask (within : field.offset + field.width ≤ bytes.length) :
    (field.mask bytes).field field.offset field.width =
      bytes.field field.offset field.width &&& field.known := by
  have small : bytes.field field.offset field.width &&& field.known < 256 ^ field.width :=
    Nat.lt_of_le_of_lt Nat.and_le_left (field_lt within)
  have front : (bytes.take field.offset).length = field.offset := by
    rw [List.length_take]
    omega
  have placed : (field.mask bytes).slice field.offset field.width =
      ofNat field.width (bytes.field field.offset field.width &&& field.known) :=
    slice_of_parts _ _ _ rfl front (length_ofNat _ _)
  rw [Bytes.field, placed, toNat_ofNat small]

theorem field_mask_of_apart (within : field.offset + field.width ≤ bytes.length)
    (apart : field.Apart other) :
    (field.mask bytes).field other.offset other.width = bytes.field other.offset other.width := by
  have front : (bytes.take field.offset).length = field.offset := by
    rw [List.length_take]
    omega
  unfold Bytes.field mask
  rcases apart with before | after
  · -- The other field begins after the two parts in front of it.
    have reached : other.offset =
        (bytes.take field.offset ++ ofNat field.width
          (bytes.field field.offset field.width &&& field.known)).length +
            (other.offset - (field.offset + field.width)) := by
      rw [List.length_append, front, length_ofNat]
      omega
    rw [reached, slice_append_right, slice_drop, ← reached]
    rw [show field.offset + field.width + (other.offset - (field.offset + field.width)) =
      other.offset by omega]
  · rw [List.append_assoc, slice_append_left (by omega), slice_take after]

theorem mask_eq_self (within : field.offset + field.width ≤ bytes.length)
    (clean : bytes.field field.offset field.width &&& field.known =
      bytes.field field.offset field.width) : field.mask bytes = bytes := by
  have same : ofNat field.width (bytes.field field.offset field.width) =
      bytes.slice field.offset field.width := by
    have written := ofNat_toNat (bytes.slice field.offset field.width)
    rw [length_slice within] at written
    exact written
  rw [mask, clean, same, take_append_slice_append_drop]

/-- No unknown flag is set. -/
def Clean (field : FlagField) (bytes : Bytes) : Prop :=
  bytes.field field.offset field.width &&& field.known = bytes.field field.offset field.width

theorem Apart.symm (apart : field.Apart other) : other.Apart field := Or.symm apart

theorem clean_mask (within : field.offset + field.width ≤ bytes.length) :
    field.Clean (field.mask bytes) := by
  rw [Clean, field_mask within, Nat.and_assoc, Nat.and_self]

theorem Clean.mask_of_apart (clean : other.Clean bytes)
    (within : field.offset + field.width ≤ bytes.length) (apart : field.Apart other) :
    other.Clean (field.mask bytes) := by
  rw [Clean, field_mask_of_apart within apart]
  exact clean

end FlagField

/-! ## All flags of a message -/

section Masks

variable {flags : List FlagField} {bytes : Bytes}

/-- The bytes without the unknown flags of some fields. -/
def maskAll (flags : List FlagField) (bytes : Bytes) : Bytes :=
  flags.foldl (fun bytes field => field.mask bytes) bytes

theorem length_maskAll
    (within : ∀ field ∈ flags, field.offset + field.width ≤ bytes.length) :
    (maskAll flags bytes).length = bytes.length := by
  induction flags generalizing bytes with
  | nil => rfl
  | cons first rest inductionHypothesis =>
      rw [List.forall_mem_cons] at within
      have sameLength := FlagField.length_mask within.1
      exact (inductionHypothesis (sameLength ▸ within.2)).trans sameLength

theorem FlagField.Clean.maskAll {field : FlagField} (clean : field.Clean bytes)
    (within : ∀ other ∈ flags, other.offset + other.width ≤ bytes.length)
    (apart : ∀ other ∈ flags, other.Apart field) : field.Clean (maskAll flags bytes) := by
  induction flags generalizing bytes with
  | nil => exact clean
  | cons first rest inductionHypothesis =>
      rw [List.forall_mem_cons] at within apart
      have sameLength := FlagField.length_mask within.1
      exact inductionHypothesis (clean.mask_of_apart within.1 apart.1) (sameLength ▸ within.2)
        apart.2

/-- Every field is clean at the end, since those after it share no byte with it. -/
theorem clean_maskAll (within : ∀ field ∈ flags, field.offset + field.width ≤ bytes.length)
    (apart : flags.Pairwise FlagField.Apart) :
    ∀ field ∈ flags, field.Clean (maskAll flags bytes) := by
  induction flags generalizing bytes with
  | nil => simp
  | cons first rest inductionHypothesis =>
      rw [List.forall_mem_cons] at within ⊢
      rw [List.pairwise_cons] at apart
      have sameLength := FlagField.length_mask within.1
      constructor
      · refine (FlagField.clean_mask within.1).maskAll (sameLength ▸ within.2) ?_
        intro other membership
        exact (apart.1 other membership).symm
      · exact inductionHypothesis (sameLength ▸ within.2) apart.2

theorem maskAll_eq_self (within : ∀ field ∈ flags, field.offset + field.width ≤ bytes.length)
    (clean : ∀ field ∈ flags, field.Clean bytes) : maskAll flags bytes = bytes := by
  induction flags with
  | nil => rfl
  | cons first rest inductionHypothesis =>
      rw [List.forall_mem_cons] at within clean
      have unchanged := FlagField.mask_eq_self within.1 clean.1
      rw [maskAll, List.foldl_cons, unchanged]
      exact inductionHypothesis within.2 clean.2

end Masks

/-! ## Payloads -/

theorem exists_sentPayload_append (payload : Bytes) :
    ∃ count, payload = Packet.sentPayload payload ++ List.replicate count 0 := by
  rcases exists_trimZeros_append payload with ⟨count, zeros⟩
  unfold Packet.sentPayload
  split
  next nothing =>
    rw [List.isEmpty_iff.mp nothing, List.nil_append] at zeros
    refine ⟨count - 1, ?_⟩
    rw [zeros, List.take_replicate, List.replicate_append_replicate]
    congr 1
    omega
  next something => exact ⟨count, zeros⟩

theorem length_sentPayload_le (payload : Bytes) :
    (Packet.sentPayload payload).length ≤ payload.length := by
  rcases exists_sentPayload_append payload with ⟨count, zeros⟩
  have total := congrArg List.length zeros
  rw [List.length_append] at total
  omega

namespace MessageKind

variable {kind : MessageKind}

theorem WellFormed.within_resize (wellFormed : kind.WellFormed) (payload : Bytes) :
    ∀ field ∈ kind.flags, field.offset + field.width ≤ (payload.resize kind.length).length := by
  rw [length_resize]
  exact wellFormed.within

theorem WellFormed.length_normalize (wellFormed : kind.WellFormed) (payload : Bytes) :
    (kind.normalize payload).length = kind.length :=
  (length_maskAll (wellFormed.within_resize payload)).trans (length_resize _ _)

theorem WellFormed.normalize_normalize (wellFormed : kind.WellFormed) (payload : Bytes) :
    kind.normalize (kind.normalize payload) = kind.normalize payload := by
  have whole : (kind.normalize payload).resize kind.length = kind.normalize payload := by
    have same := resize_length (kind.normalize payload)
    rw [wellFormed.length_normalize] at same
    exact same
  have clean := clean_maskAll (wellFormed.within_resize payload) wellFormed.apart
  rw [normalize, whole]
  refine maskAll_eq_self ?_ clean
  rw [wellFormed.length_normalize]
  exact wellFormed.within

/-- What is cut off for sending is filled up again. -/
theorem normalize_sentPayload {payload : Bytes} (whole : payload.length = kind.length) :
    kind.normalize (Packet.sentPayload payload) = kind.normalize payload := by
  rcases exists_sentPayload_append payload with ⟨count, zeros⟩
  rw [normalize, normalize, ← whole, resize_of_zeros zeros, resize_length]

end MessageKind

namespace Message

variable {message : Message}

theorem Normal.length_payload (normal : message.Normal) :
    message.payload.length = message.kind.length := by
  rw [← normal.normalized]
  exact (wellFormed_of_mem_dialect normal.listed).length_normalize message.payload

theorem normal_of_ofPayload? {id : Nat} {payload : Bytes}
    (read : ofPayload? id payload = some message) : message.Normal ∧ message.kind.id = id := by
  simp only [ofPayload?, Option.bind_eq_bind, Option.bind_eq_some_iff] at read
  rcases read with ⟨kind, found, read⟩
  rcases MessageKind.ofId?_eq_some_iff.mp found with ⟨listed, numbered⟩
  split at read
  next admitted =>
    cases read
    exact ⟨⟨listed, (wellFormed_of_mem_dialect listed).normalize_normalize payload, admitted⟩,
      numbered⟩
  next refused => cases read

/-- A message that can be read is in normal form. -/
theorem normal_of_read? {bytes : Bytes} {header : Header}
    (read : Message.read? bytes = some (header, message)) : message.Normal := by
  simp only [Message.read?, Option.bind_eq_bind, Option.bind_eq_some_iff] at read
  rcases read with ⟨packet, -, other, found, same⟩
  cases same
  exact (normal_of_ofPayload? found).1

/-- A message in normal form is read out of its payload as it is sent. -/
theorem Normal.ofPayload?_sentPayload (normal : message.Normal) :
    ofPayload? message.kind.id (Packet.sentPayload message.payload) = some message := by
  have found : MessageKind.ofId? message.kind.id = some message.kind :=
    MessageKind.ofId?_eq_some_iff.mpr ⟨normal.listed, rfl⟩
  have restored : message.kind.normalize (Packet.sentPayload message.payload) = message.payload :=
    (MessageKind.normalize_sentPayload normal.length_payload).trans normal.normalized
  simp [ofPayload?, found, restored, normal.admitted]

end Message

end MavBridge
