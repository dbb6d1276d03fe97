import MavBridge.Frame.Stream
import Mathlib.Data.List.DropRight
import Mathlib.Data.List.TakeWhile

/-!
# Extraction from a buffer that grows

A frame that is complete stays the first frame of its buffer whatever arrives after it, and what
is dropped while no frame is complete is never missed later.  Hence draining commutes with the
arrival of more bytes: `drain_append` says what a second helping of bytes adds to a first one.
-/

namespace MavBridge

/-! ## The length that a header declares -/

theorem Version.two_lt_headerLength (version : Version) : 2 < version.headerLength := by
  cases version <;> decide

theorem declaredLength_append {version : Version} {bytes : Bytes}
    (complete : version.headerLength ≤ bytes.length) (later : Bytes) :
    declaredLength version (bytes ++ later) = declaredLength version bytes := by
  have longEnough : 2 < bytes.length :=
    Nat.lt_of_lt_of_le version.two_lt_headerLength complete
  have sameLength : (bytes ++ later).u8 1 = bytes.u8 1 :=
    Bytes.u8_append (Nat.lt_of_succ_lt longEnough) later
  have sameFlags : (bytes ++ later).u8 2 = bytes.u8 2 := Bytes.u8_append longEnough later
  cases version <;> simp only [declaredLength, trailerLength, sameLength, sameFlags]

theorem Version.ofBytes?_append {bytes : Bytes} {version : Version}
    (announced : Version.ofBytes? bytes = some version) (later : Bytes) :
    Version.ofBytes? (bytes ++ later) = some version := by
  cases bytes with
  | nil => simp [Version.ofBytes?] at announced
  | cons byte rest => exact announced

/-- A complete header declares the same length whatever comes after it. -/
theorem frameLength?_append {bytes : Bytes} {length : Nat}
    (declared : frameLength? bytes = some length) (later : Bytes) :
    frameLength? (bytes ++ later) = some length := by
  unfold frameLength? at declared ⊢
  cases announced : Version.ofBytes? bytes with
  | none => simp [announced] at declared
  | some version =>
      simp only [announced] at declared
      split at declared
      next complete =>
        have stillComplete : version.headerLength ≤ (bytes ++ later).length := by
          rw [List.length_append]
          omega
        simp only [Version.ofBytes?_append announced, stillComplete, if_true,
          declaredLength_append complete]
        exact declared
      next incomplete => contradiction

/-! ## Noise in front of a marker -/

theorem fromMarker_eq_nil_iff (buffer : Bytes) :
    fromMarker buffer = [] ↔ ∀ byte ∈ buffer, isMarker byte = false := by
  simp [fromMarker, List.dropWhile_eq_nil_iff]

theorem fromMarker_append_of_ne_nil {buffer : Bytes} (found : fromMarker buffer ≠ [])
    (later : Bytes) : fromMarker (buffer ++ later) = fromMarker buffer ++ later := by
  unfold fromMarker at found ⊢
  rw [List.dropWhile_append, if_neg (by simpa using found)]

theorem fromMarker_append_of_eq_nil {buffer : Bytes} (missing : fromMarker buffer = [])
    (later : Bytes) : fromMarker (buffer ++ later) = fromMarker later := by
  unfold fromMarker at missing ⊢
  rw [List.dropWhile_append, if_pos (by simpa using missing)]

theorem fromMarker_fromMarker (buffer : Bytes) :
    fromMarker (fromMarker buffer) = fromMarker buffer :=
  List.dropWhile_idempotent _ _

theorem fromMarker_keepTail_of_eq_nil {buffer : Bytes} (missing : fromMarker buffer = []) :
    fromMarker (keepTail buffer) = [] := by
  rw [fromMarker_eq_nil_iff] at missing ⊢
  intro byte membership
  exact missing byte (List.mem_of_mem_drop membership)

/-- Trimming noise early and trimming it late leave the same bytes. -/
theorem keepTail_keepTail_append (buffer later : Bytes) :
    keepTail (keepTail buffer ++ later) = keepTail (buffer ++ later) := by
  unfold keepTail
  have sameCut : buffer.length - noiseTail +
      ((buffer.drop (buffer.length - noiseTail) ++ later).length - noiseTail) =
        (buffer ++ later).length - noiseTail := by
    simp only [List.length_append, List.length_drop]
    omega
  rw [← sameCut, ← List.drop_drop,
    List.drop_append_of_le_length (Nat.sub_le buffer.length noiseTail)]

/-! ## One frame -/

theorem split_append_of_frame {candidate frame rest : Bytes}
    (taken : split candidate = (some frame, rest)) (later : Bytes) :
    split (candidate ++ later) = (some frame, rest ++ later) := by
  unfold split at taken ⊢
  cases declared : frameLength? candidate with
  | none => simp [declared] at taken
  | some length =>
      simp only [declared] at taken
      split at taken
      next short => simp at taken
      next long =>
        have within : length ≤ candidate.length := Nat.le_of_not_lt long
        have stillLong : ¬ (candidate ++ later).length < length := by
          rw [List.length_append]
          omega
        simp only [Prod.mk.injEq, Option.some.injEq] at taken
        simp only [frameLength?_append declared, stillLong, if_false,
          List.take_append_of_le_length within, List.drop_append_of_le_length within,
          taken.1, taken.2]

theorem split_rest_of_none {candidate rest : Bytes} (taken : split candidate = (none, rest)) :
    rest = candidate := by
  unfold split at taken
  split at taken
  · simpa using taken.symm
  · split at taken
    · simpa using taken.symm
    · simp at taken

/-- A complete frame stays the first frame of its buffer. -/
theorem extract_append_of_frame {buffer frame rest : Bytes}
    (taken : extract buffer = (some frame, rest)) (later : Bytes) :
    extract (buffer ++ later) = (some frame, rest ++ later) := by
  unfold extract at taken ⊢
  split at taken
  next missing => simp at taken
  next found =>
    have nonempty : fromMarker buffer ≠ [] := by simpa using found
    have stillFound : (fromMarker buffer ++ later).isEmpty = false := by
      simpa using fun empty => absurd empty nonempty
    rw [fromMarker_append_of_ne_nil nonempty, stillFound]
    exact split_append_of_frame taken later

/-- What is dropped while no frame is complete is not missed when more bytes have arrived. -/
theorem extract_rest_append {buffer rest : Bytes} (taken : extract buffer = (none, rest))
    (later : Bytes) : extract (rest ++ later) = extract (buffer ++ later) := by
  unfold extract at taken
  split at taken
  next missing =>
    have noMarker : fromMarker buffer = [] := by simpa using missing
    have trimmed : rest = keepTail buffer := by simpa using taken.symm
    subst rest
    simp only [extract, fromMarker_append_of_eq_nil noMarker,
      fromMarker_append_of_eq_nil (fromMarker_keepTail_of_eq_nil noMarker),
      keepTail_keepTail_append]
  next found =>
    have nonempty : fromMarker buffer ≠ [] := by simpa using found
    have kept : rest = fromMarker buffer := split_rest_of_none taken
    subst rest
    have sameMarker : fromMarker (fromMarker buffer ++ later) = fromMarker (buffer ++ later) := by
      rw [fromMarker_append_of_ne_nil nonempty, fromMarker_append_of_ne_nil
        (by rwa [fromMarker_fromMarker]), fromMarker_fromMarker]
    have markerLeft : fromMarker (buffer ++ later) ≠ [] := by
      rw [fromMarker_append_of_ne_nil nonempty]
      simp [nonempty]
    simp only [extract, sameMarker, List.isEmpty_iff, markerLeft, if_false]

/-! ## All frames -/

theorem drain_of_none {buffer rest : Bytes} (taken : extract buffer = (none, rest)) :
    drain buffer = ([], rest) := by
  rw [drain]
  split
  next last last_eq => simp_all
  next frame last last_eq => simp_all

theorem drain_of_frame {buffer frame rest : Bytes} (taken : extract buffer = (some frame, rest)) :
    drain buffer = (frame :: (drain rest).1, (drain rest).2) := by
  rw [drain]
  split
  next last last_eq => simp_all
  next other last last_eq =>
    rw [taken] at last_eq
    cases last_eq
    rfl

/-- Draining depends on a buffer only through the frame that is taken off it. -/
theorem drain_congr {first second : Bytes} (same : extract first = extract second) :
    drain first = drain second := by
  cases taken : extract second with
  | mk frame? rest =>
      cases frame? with
      | none => rw [drain_of_none taken, drain_of_none (same.trans taken)]
      | some frame => rw [drain_of_frame taken, drain_of_frame (same.trans taken)]

/-- Bytes that arrive after a buffer was drained are framed as if they had been there before. -/
theorem drain_append (buffer later : Bytes) :
    drain (buffer ++ later) =
      ((drain buffer).1 ++ (drain ((drain buffer).2 ++ later)).1,
        (drain ((drain buffer).2 ++ later)).2) := by
  fun_induction drain buffer with
  | case1 buffer rest taken =>
      simp only [List.nil_append]
      exact drain_congr (extract_rest_append taken later).symm
  | case2 buffer frame rest taken frames last drained inductionHypothesis =>
      rw [drain_of_frame (extract_append_of_frame taken later), inductionHypothesis]
      simp [drained]

/-- No frame is complete in what draining leaves, and draining it again drops nothing. -/
theorem extract_drain_rest (buffer : Bytes) :
    extract (drain buffer).2 = (none, (drain buffer).2) := by
  fun_induction drain buffer with
  | case1 buffer rest taken => simpa [taken] using extract_rest_append taken []
  | case2 buffer frame rest taken frames last drained inductionHypothesis =>
      simpa [drained] using inductionHypothesis

theorem drain_drain_rest (buffer : Bytes) : drain (drain buffer).2 = ([], (drain buffer).2) :=
  drain_of_none (extract_drain_rest buffer)

theorem extract_nil : extract [] = (none, []) := rfl

theorem drain_nil : drain [] = ([], []) := drain_of_none extract_nil

end MavBridge
