import MavBridge.Frame.Basic

/-!
Frames out of a byte stream that arrives in arbitrary chunks, with noise in front of them.

`extract` takes one frame off a buffer, `drain` all complete ones, and `Extractor` is the buffer
between two chunks. The first marker decides: what precedes it is noise and is dropped, and nothing
after it is looked at before the frame it announces is complete.
-/

namespace MavBridge

/-- Bytes kept of a buffer without any marker. -/
def noiseTail : Nat := 1024

/-- The buffer from its first marker on. -/
def fromMarker (buffer : Bytes) : Bytes := buffer.dropWhile fun byte => !isMarker byte

/-- The last `noiseTail` bytes. -/
def keepTail (buffer : Bytes) : Bytes := buffer.drop (buffer.length - noiseTail)

/-- Take the frame off a buffer that starts with a marker, if it is complete. -/
def split (candidate : Bytes) : Option Bytes × Bytes :=
  match frameLength? candidate with
  | none => (none, candidate)
  | some length =>
      if candidate.length < length then (none, candidate)
      else (some (candidate.take length), candidate.drop length)

/-- Take the first complete frame off `buffer`, and say what remains. -/
def extract (buffer : Bytes) : Option Bytes × Bytes :=
  if (fromMarker buffer).isEmpty then (none, keepTail buffer) else split (fromMarker buffer)

theorem frameLength?_pos {bytes : Bytes} {length : Nat}
    (declared : frameLength? bytes = some length) : 0 < length := by
  unfold frameLength? at declared
  split at declared
  · contradiction
  · rename_i version _
    split at declared
    · have : 0 < version.headerLength := by cases version <;> decide
      simp only [Option.some.injEq, declaredLength] at declared
      omega
    · contradiction

theorem length_fromMarker_le (buffer : Bytes) : (fromMarker buffer).length ≤ buffer.length :=
  (List.dropWhile_suffix _).length_le

theorem length_split_lt {candidate frame rest : Bytes}
    (taken : split candidate = (some frame, rest)) : rest.length < candidate.length := by
  unfold split at taken
  split at taken
  · simp at taken
  · rename_i length declared
    have positive := frameLength?_pos declared
    split at taken
    · simp at taken
    · simp only [Prod.mk.injEq] at taken
      rw [← taken.2, List.length_drop]
      omega

/-- A frame that was taken is gone from the buffer. -/
theorem length_extract_lt {buffer frame rest : Bytes}
    (taken : extract buffer = (some frame, rest)) : rest.length < buffer.length := by
  unfold extract at taken
  split at taken
  · simp at taken
  · exact Nat.lt_of_lt_of_le (length_split_lt taken) (length_fromMarker_le buffer)

/-- Every complete frame of `buffer`, in order, and what is left over. -/
def drain (buffer : Bytes) : List Bytes × Bytes :=
  match _taken : extract buffer with
  | (none, rest) => ([], rest)
  | (some frame, rest) =>
      match drain rest with
      | (frames, last) => (frame :: frames, last)
termination_by buffer.length
decreasing_by all_goals exact length_extract_lt _taken

/-- The buffer between two chunks of a stream. -/
structure Extractor where
  buffer : Bytes := []
  deriving DecidableEq, Repr

namespace Extractor

def empty : Extractor := {}

/-- Append freshly read bytes. -/
def push (extractor : Extractor) (chunk : Bytes) : Extractor := ⟨extractor.buffer ++ chunk⟩

/-- Take the next complete frame; without one, only noise is dropped. -/
def next (extractor : Extractor) : Option Bytes × Extractor :=
  ((extract extractor.buffer).1, ⟨(extract extractor.buffer).2⟩)

/-- Take frames until none is complete. -/
def drain (extractor : Extractor) : List Bytes × Extractor :=
  ((MavBridge.drain extractor.buffer).1, ⟨(MavBridge.drain extractor.buffer).2⟩)

def buffered (extractor : Extractor) : Nat := extractor.buffer.length

/-- Hand over what is buffered. -/
def take (extractor : Extractor) : Bytes × Extractor := (extractor.buffer, empty)

end Extractor

end MavBridge
