import MavBridge.Proofs.Frame.Extraction

/-!
# Byte strings as gaps and frames

Every byte string is, in one way only, a series of gaps and frames by turns that ends in noise or
in an unfinished frame.  `Framing` is such a reading: its frames are said in terms of their own
bytes, so that a marker inside a payload means nothing.  Draining finds exactly this reading.
-/

namespace MavBridge

/-- Bytes among which no frame starts. -/
def IsGap (bytes : Bytes) : Prop := 0xFE ∉ bytes ∧ 0xFD ∉ bytes

/-- The bytes of the signature that the flags of a header announce. -/
def announcedSignature (flags : UInt8) : Nat := if flags &&& 1 ≠ 0 then 13 else 0

/-- Bytes that start with a marker and are exactly as long as their header declares. -/
inductive IsFrame : Bytes → Prop where
  | v1 {length : UInt8} {rest : Bytes} :
      (0xFE :: length :: rest).length = 8 + length.toNat → IsFrame (0xFE :: length :: rest)
  | v2 {length flags : UInt8} {rest : Bytes} :
      (0xFD :: length :: flags :: rest).length =
        12 + length.toNat + announcedSignature flags → IsFrame (0xFD :: length :: flags :: rest)

/-- Bytes that start with a marker and are shorter than a header, or than their header declares. -/
inductive IsUnfinished : Bytes → Prop where
  | headerV1 {rest : Bytes} : (0xFE :: rest).length < 6 → IsUnfinished (0xFE :: rest)
  | headerV2 {rest : Bytes} : (0xFD :: rest).length < 10 → IsUnfinished (0xFD :: rest)
  | v1 {length : UInt8} {rest : Bytes} :
      (0xFE :: length :: rest).length < 8 + length.toNat → IsUnfinished (0xFE :: length :: rest)
  | v2 {length flags : UInt8} {rest : Bytes} :
      (0xFD :: length :: flags :: rest).length <
        12 + length.toNat + announcedSignature flags →
      IsUnfinished (0xFD :: length :: flags :: rest)

/-- A byte string, read from its front. -/
inductive Framing where
  /-- No frame starts any more. -/
  | noise (gap : Bytes) (isGap : IsGap gap)
  /-- A frame starts and is not finished. -/
  | unfinished (gap rest : Bytes) (isGap : IsGap gap) (isUnfinished : IsUnfinished rest)
  /-- A frame, and what comes after it. -/
  | frame (gap frame : Bytes) (isGap : IsGap gap) (isFrame : IsFrame frame) (later : Framing)

namespace Framing

/-- The byte string that is read. -/
def bytes : Framing → Bytes
  | .noise gap _ => gap
  | .unfinished gap rest _ _ => gap ++ rest
  | .frame gap taken _ _ later => gap ++ taken ++ later.bytes

def frames : Framing → List Bytes
  | .noise _ _ => []
  | .unfinished _ _ _ _ => []
  | .frame _ taken _ _ later => taken :: later.frames

/-- What is kept for later: an unfinished frame, or else the end of the noise. -/
def leftover : Framing → Bytes
  | .noise gap _ => gap.drop (gap.length - min 1024 gap.length)
  | .unfinished _ rest _ _ => rest
  | .frame _ _ _ _ later => later.leftover

/-- How much of an unfinished frame there is. -/
def unfinishedLength : Framing → Nat
  | .noise _ _ => 0
  | .unfinished _ rest _ _ => rest.length
  | .frame _ _ _ _ later => later.unfinishedLength

end Framing

/-! ## Gaps and markers -/

theorem isMarker_eq_true_iff (byte : UInt8) : isMarker byte = true ↔ byte = 0xFE ∨ byte = 0xFD := by
  unfold isMarker Version.ofMarker?
  by_cases first : byte = 0xFE
  · simp [first, Version.marker]
  · by_cases second : byte = 0xFD <;> simp [first, second, Version.marker]

theorem isGap_iff_fromMarker_eq_nil (bytes : Bytes) : IsGap bytes ↔ fromMarker bytes = [] := by
  rw [fromMarker_eq_nil_iff]
  constructor
  · intro gap byte membership
    rw [Bool.eq_false_iff, Ne, isMarker_eq_true_iff]
    rintro (rfl | rfl)
    · exact gap.1 membership
    · exact gap.2 membership
  · intro unmarked
    constructor
    · intro membership
      exact absurd (unmarked _ membership) (by decide)
    · intro membership
      exact absurd (unmarked _ membership) (by decide)

/-- What is in front of the first marker is a gap. -/
theorem exists_gap_append_fromMarker (buffer : Bytes) :
    ∃ gap, IsGap gap ∧ gap ++ fromMarker buffer = buffer := by
  refine ⟨buffer.takeWhile fun byte => !isMarker byte, ?_, List.takeWhile_append_dropWhile⟩
  rw [isGap_iff_fromMarker_eq_nil, fromMarker_eq_nil_iff]
  intro byte membership
  simpa using List.mem_takeWhile_imp membership

/-- A buffer starts with a marker where `fromMarker` stops. -/
theorem fromMarker_eq_cons {buffer rest : Bytes} {byte : UInt8}
    (found : fromMarker buffer = byte :: rest) : byte = 0xFE ∨ byte = 0xFD := by
  rw [← isMarker_eq_true_iff]
  have stopped := List.head?_dropWhile_not (fun byte => !isMarker byte) buffer
  rw [← fromMarker, found] at stopped
  simpa using stopped

/-! ## Declared lengths -/

theorem frameLength?_eq_none {version : Version} {bytes : Bytes}
    (announced : Version.ofBytes? bytes = some version)
    (short : bytes.length < version.headerLength) : frameLength? bytes = none := by
  have incomplete : ¬ version.headerLength ≤ bytes.length := Nat.not_le_of_lt short
  simp only [frameLength?, announced, incomplete, if_false]

theorem frameLength?_v1 (length : UInt8) (rest : Bytes) :
    frameLength? (0xFE :: length :: rest) =
      if 4 ≤ rest.length then some (8 + length.toNat) else none := by
  have announced : Version.ofBytes? (0xFE :: length :: rest) = some .v1 := rfl
  have total : declaredLength .v1 (0xFE :: length :: rest) = 8 + length.toNat := by
    simp only [declaredLength, trailerLength, Version.headerLength, checksumLength,
      Bytes.u8_cons_succ, Bytes.u8_cons_zero]
    omega
  simp only [frameLength?, announced, total, Version.headerLength, List.length_cons]
  simp

theorem frameLength?_v2 (length flags : UInt8) (rest : Bytes) :
    frameLength? (0xFD :: length :: flags :: rest) =
      if 7 ≤ rest.length then some (12 + length.toNat + announcedSignature flags) else none := by
  have announced : Version.ofBytes? (0xFD :: length :: flags :: rest) = some .v2 := rfl
  have total : declaredLength .v2 (0xFD :: length :: flags :: rest) =
      12 + length.toNat + announcedSignature flags := by
    simp only [declaredLength, trailerLength, Version.headerLength, checksumLength,
      Bytes.u8_cons_succ, Bytes.u8_cons_zero, announcedSignature, signedFlag, signatureLength]
    omega
  simp only [frameLength?, announced, total, Version.headerLength, List.length_cons]
  simp

theorem announcedSignature_le (flags : UInt8) : announcedSignature flags ≤ 13 := by
  unfold announcedSignature
  split <;> omega

theorem IsFrame.frameLength?_eq {frame : Bytes} (isFrame : IsFrame frame) :
    frameLength? frame = some frame.length := by
  cases isFrame with
  | v1 total =>
      rw [frameLength?_v1, if_pos (by simp only [List.length_cons] at total; omega), total]
  | v2 total =>
      rw [frameLength?_v2, if_pos (by simp only [List.length_cons] at total; omega), total]

theorem IsFrame.fromMarker_append {frame : Bytes} (isFrame : IsFrame frame) (later : Bytes) :
    fromMarker (frame ++ later) = frame ++ later := by
  cases isFrame <;> rfl

theorem IsUnfinished.fromMarker_eq {rest : Bytes} (isUnfinished : IsUnfinished rest) :
    fromMarker rest = rest := by
  cases isUnfinished <;> rfl

theorem IsUnfinished.ne_nil {rest : Bytes} (isUnfinished : IsUnfinished rest) : rest ≠ [] := by
  cases isUnfinished <;> simp

theorem IsUnfinished.split_eq {rest : Bytes} (isUnfinished : IsUnfinished rest) :
    split rest = (none, rest) := by
  unfold split
  cases declared : frameLength? rest with
  | none => rfl
  | some total =>
      have short : rest.length < total := by
        cases isUnfinished with
        | @headerV1 rest short =>
            have undeclared : frameLength? (0xFE :: rest) = none :=
              @frameLength?_eq_none .v1 (0xFE :: rest) rfl short
            simp [undeclared] at declared
        | @headerV2 rest short =>
            have undeclared : frameLength? (0xFD :: rest) = none :=
              @frameLength?_eq_none .v2 (0xFD :: rest) rfl short
            simp [undeclared] at declared
        | v1 short =>
            rw [frameLength?_v1] at declared
            split at declared <;> simp_all
        | v2 short =>
            rw [frameLength?_v2] at declared
            split at declared <;> simp_all
      simp only [short, if_true]

theorem IsUnfinished.length_le {rest : Bytes} (isUnfinished : IsUnfinished rest) :
    rest.length ≤ 279 := by
  cases isUnfinished with
  | headerV1 short => omega
  | headerV2 short => omega
  | @v1 length rest short =>
      have := length.toNat_lt
      omega
  | @v2 length flags rest short =>
      have := length.toNat_lt
      have := announcedSignature_le flags
      omega

/-- What starts with a marker starts with a frame, or is an unfinished one. -/
theorem exists_isFrame_or_isUnfinished {byte : UInt8} (marked : byte = 0xFE ∨ byte = 0xFD)
    (rest : Bytes) :
    IsUnfinished (byte :: rest) ∨
      ∃ frame later, IsFrame frame ∧ byte :: rest = frame ++ later := by
  rcases marked with rfl | rfl
  · by_cases header : (0xFE :: rest).length < 6
    · exact .inl (.headerV1 header)
    · match rest with
      | [] => simp at header
      | length :: rest =>
          by_cases total : (0xFE :: length :: rest).length < 8 + length.toNat
          · exact .inl (.v1 total)
          · refine .inr ⟨0xFE :: length :: rest.take (6 + length.toNat),
              rest.drop (6 + length.toNat), .v1 ?_, by simp⟩
            simp only [List.length_cons, List.length_take] at total ⊢
            omega
  · by_cases header : (0xFD :: rest).length < 10
    · exact .inl (.headerV2 header)
    · match rest with
      | [] => simp at header
      | [_] => simp at header
      | length :: flags :: rest =>
          by_cases total : (0xFD :: length :: flags :: rest).length <
              12 + length.toNat + announcedSignature flags
          · exact .inl (.v2 total)
          · refine .inr ⟨
              0xFD :: length :: flags :: rest.take (9 + length.toNat + announcedSignature flags),
              rest.drop (9 + length.toNat + announcedSignature flags), .v2 ?_, by simp⟩
            simp only [List.length_cons, List.length_take] at total ⊢
            omega

/-! ## Extraction from a reading -/

theorem IsGap.fromMarker_append {gap : Bytes} (isGap : IsGap gap) (later : Bytes) :
    fromMarker (gap ++ later) = fromMarker later :=
  fromMarker_append_of_eq_nil ((isGap_iff_fromMarker_eq_nil gap).mp isGap) later

theorem extract_noise {gap : Bytes} (isGap : IsGap gap) : extract gap = (none, keepTail gap) := by
  have missing : fromMarker gap = [] := (isGap_iff_fromMarker_eq_nil gap).mp isGap
  simp [extract, missing]

theorem extract_unfinished {gap rest : Bytes} (isGap : IsGap gap)
    (isUnfinished : IsUnfinished rest) : extract (gap ++ rest) = (none, rest) := by
  have found : fromMarker (gap ++ rest) = rest := by
    rw [isGap.fromMarker_append, isUnfinished.fromMarker_eq]
  simp [extract, found, isUnfinished.ne_nil, isUnfinished.split_eq]

theorem extract_frame {gap frame : Bytes} (isGap : IsGap gap) (isFrame : IsFrame frame)
    (later : Bytes) : extract (gap ++ frame ++ later) = (some frame, later) := by
  have found : fromMarker (gap ++ frame ++ later) = frame ++ later := by
    rw [List.append_assoc, isGap.fromMarker_append, isFrame.fromMarker_append]
  have nonempty : frame ≠ [] := by cases isFrame <;> simp
  have alone : split frame = (some frame, []) := by
    simp [split, isFrame.frameLength?_eq]
  have taken := split_append_of_frame alone later
  rw [extract, found, taken]
  simp [nonempty]

theorem isGap_nil : IsGap [] := ⟨List.not_mem_nil, List.not_mem_nil⟩

/-- A frame by itself is taken whole. -/
theorem IsFrame.extract_eq {frame : Bytes} (isFrame : IsFrame frame) :
    extract frame = (some frame, []) := by
  simpa using extract_frame isGap_nil isFrame []

namespace Framing

theorem drain_bytes (framing : Framing) :
    drain framing.bytes = (framing.frames, framing.leftover) := by
  induction framing with
  | noise gap isGap =>
      have sameCut : gap.length - 1024 = gap.length - min 1024 gap.length := by omega
      have sameTail : keepTail gap = gap.drop (gap.length - min 1024 gap.length) := by
        rw [keepTail, noiseTail, sameCut]
      rw [bytes, drain_of_none (extract_noise isGap), sameTail]
      rfl
  | unfinished gap rest isGap isUnfinished =>
      exact drain_of_none (extract_unfinished isGap isUnfinished)
  | frame gap taken isGap isFrame later inductionHypothesis =>
      rw [bytes, drain_of_frame (extract_frame isGap isFrame later.bytes), inductionHypothesis]
      rfl

/-- Every byte string can be read. -/
theorem exists_bytes_eq (buffer : Bytes) : ∃ framing : Framing, framing.bytes = buffer := by
  -- A frame is not empty, so that the bytes after it are fewer.
  induction size : buffer.length using Nat.strong_induction_on generalizing buffer with
  | _ total inductionHypothesis =>
      rcases exists_gap_append_fromMarker buffer with ⟨gap, isGap, split⟩
      cases found : fromMarker buffer with
      | nil =>
          rw [found, List.append_nil] at split
          exact ⟨.noise gap isGap, split⟩
      | cons byte rest =>
          rw [found] at split
          rcases exists_isFrame_or_isUnfinished (fromMarker_eq_cons found) rest with
            isUnfinished | ⟨frame, later, isFrame, whole⟩
          · exact ⟨.unfinished gap (byte :: rest) isGap isUnfinished, split⟩
          · have positive : 0 < frame.length := by cases isFrame <;> simp
            have shorter : later.length < total := by
              rw [← size, ← split, whole, List.length_append, List.length_append]
              omega
            rcases inductionHypothesis later.length shorter later rfl with ⟨framing, read⟩
            refine ⟨.frame gap frame isGap isFrame framing, ?_⟩
            rw [bytes, read, List.append_assoc, ← whole, split]

theorem noise_ne_unfinished {gap otherGap rest : Bytes} (isGap : IsGap gap)
    (otherIsGap : IsGap otherGap) (isUnfinished : IsUnfinished rest) : gap ≠ otherGap ++ rest := by
  intro same
  have missing : fromMarker gap = [] := (isGap_iff_fromMarker_eq_nil gap).mp isGap
  rw [same, otherIsGap.fromMarker_append, isUnfinished.fromMarker_eq] at missing
  exact isUnfinished.ne_nil missing

theorem noise_ne_frame {gap otherGap taken later : Bytes} (isGap : IsGap gap)
    (otherIsGap : IsGap otherGap) (isFrame : IsFrame taken) : gap ≠ otherGap ++ taken ++ later := by
  intro same
  have extracted := extract_noise isGap
  rw [same, extract_frame otherIsGap isFrame later] at extracted
  simp at extracted

theorem unfinished_ne_frame {gap rest otherGap taken later : Bytes} (isGap : IsGap gap)
    (isUnfinished : IsUnfinished rest) (otherIsGap : IsGap otherGap) (isFrame : IsFrame taken) :
    gap ++ rest ≠ otherGap ++ taken ++ later := by
  intro same
  have extracted := extract_unfinished isGap isUnfinished
  rw [same, extract_frame otherIsGap isFrame later] at extracted
  simp at extracted

/-- A byte string can be read in one way only: its first marker ends the gap in front, and the
header there says where the frame ends. -/
theorem bytes_injective {first second : Framing} (same : first.bytes = second.bytes) :
    first = second := by
  induction first generalizing second with
  | noise gap isGap =>
      cases second with
      | noise otherGap otherIsGap =>
          cases same
          rfl
      | unfinished otherGap rest otherIsGap isUnfinished =>
          exact absurd same (noise_ne_unfinished isGap otherIsGap isUnfinished)
      | frame otherGap taken otherIsGap isFrame later =>
          exact absurd same (noise_ne_frame isGap otherIsGap isFrame)
  | unfinished gap rest isGap isUnfinished =>
      cases second with
      | noise otherGap otherIsGap =>
          exact absurd same.symm (noise_ne_unfinished otherIsGap isGap isUnfinished)
      | unfinished otherGap otherRest otherIsGap otherIsUnfinished =>
          have extracted := extract_unfinished isGap isUnfinished
          have sameBytes : gap ++ rest = otherGap ++ otherRest := same
          rw [sameBytes, extract_unfinished otherIsGap otherIsUnfinished] at extracted
          cases extracted
          cases List.append_cancel_right sameBytes
          rfl
      | frame otherGap taken otherIsGap isFrame later =>
          exact absurd same (unfinished_ne_frame isGap isUnfinished otherIsGap isFrame)
  | frame gap taken isGap isFrame later inductionHypothesis =>
      cases second with
      | noise otherGap otherIsGap =>
          exact absurd same.symm (noise_ne_frame otherIsGap isGap isFrame)
      | unfinished otherGap rest otherIsGap isUnfinished =>
          exact absurd same.symm (unfinished_ne_frame otherIsGap isUnfinished isGap isFrame)
      | frame otherGap otherTaken otherIsGap otherIsFrame otherLater =>
          have extracted := extract_frame isGap isFrame later.bytes
          have sameBytes : gap ++ taken ++ later.bytes =
              otherGap ++ otherTaken ++ otherLater.bytes := same
          rw [sameBytes, extract_frame otherIsGap otherIsFrame otherLater.bytes] at extracted
          simp only [Prod.mk.injEq, Option.some.injEq] at extracted
          cases extracted.1
          cases inductionHypothesis extracted.2.symm
          have sameGap := List.append_cancel_right (List.append_cancel_right sameBytes)
          cases sameGap
          rfl

theorem unfinishedLength_le (framing : Framing) : framing.unfinishedLength ≤ 279 := by
  induction framing with
  | noise gap isGap => simp [unfinishedLength]
  | unfinished gap rest isGap isUnfinished => exact isUnfinished.length_le
  | frame gap taken isGap isFrame later inductionHypothesis => exact inductionHypothesis

end Framing

/-- What is taken off a buffer is a frame, with nothing but a gap in front of it. -/
theorem isFrame_of_extract {buffer frame rest : Bytes}
    (taken : extract buffer = (some frame, rest)) :
    IsFrame frame ∧ ∃ gap, IsGap gap ∧ buffer = gap ++ frame ++ rest := by
  rcases Framing.exists_bytes_eq buffer with ⟨framing, rfl⟩
  cases framing with
  | noise gap isGap => simp [Framing.bytes, extract_noise isGap] at taken
  | unfinished gap rest isGap isUnfinished =>
      simp [Framing.bytes, extract_unfinished isGap isUnfinished] at taken
  | frame gap whole isGap isFrame later =>
      rw [Framing.bytes, extract_frame isGap isFrame later.bytes] at taken
      cases taken
      exact ⟨isFrame, gap, isGap, rfl⟩

theorem IsFrame.drain_append {frame : Bytes} (isFrame : IsFrame frame) (later : Bytes) :
    drain (frame ++ later) = (frame :: (drain later).1, (drain later).2) :=
  drain_of_frame (extract_frame isGap_nil isFrame later)

/-- Every byte string is gaps and frames by turns in one way only, and draining returns the frames
of this reading and keeps what it leaves over, whichever reading one starts from. -/
theorem drain_eq_framing :
    (∀ buffer : Bytes, ∃! framing : Framing,
      framing.bytes = buffer ∧ drain buffer = (framing.frames, framing.leftover)) ∧
    ∀ framing : Framing,
      drain framing.bytes = (framing.frames, framing.leftover) ∧
        framing.unfinishedLength ≤ 279 := by
  constructor
  · intro buffer
    rcases Framing.exists_bytes_eq buffer with ⟨framing, rfl⟩
    refine ⟨framing, ⟨rfl, framing.drain_bytes⟩, ?_⟩
    rintro other ⟨same, -⟩
    exact Framing.bytes_injective same
  · intro framing
    exact ⟨framing.drain_bytes, framing.unfinishedLength_le⟩

end MavBridge
