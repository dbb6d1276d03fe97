import MavBridge.Proofs.Frame.Framing

/-!
# Frames after garbage

A marker in garbage announces a frame that is none, and what it announces may reach into the frames
that come after it.  These have no marker but their first byte, so that the next marker behind it is
the start of one of them, and from there on every frame is taken.
-/

namespace MavBridge

/-- A frame of which no part could be taken for the start of another. -/
structure IsClean (frame : Bytes) : Prop where
  isFrame : IsFrame frame
  isGap : IsGap frame.tail

theorem IsFrame.length_le {frame : Bytes} (isFrame : IsFrame frame) : frame.length ≤ 280 := by
  cases isFrame with
  | @v1 length rest total =>
      have := length.toNat_lt
      omega
  | @v2 length flags rest total =>
      have := length.toNat_lt
      have := announcedSignature_le flags
      omega

theorem IsGap.of_subset {gap part : Bytes} (isGap : IsGap gap) (within : part ⊆ gap) : IsGap part :=
  ⟨fun inside => isGap.1 (within inside), fun inside => isGap.2 (within inside)⟩

/-- What is left of a clean frame once its front is gone. -/
theorem IsClean.isGap_drop {frame : Bytes} (clean : IsClean frame) {count : Nat}
    (positive : 0 < count) : IsGap (frame.drop count) := by
  obtain ⟨fewer, rfl⟩ := Nat.exists_eq_succ_of_ne_zero positive.ne'
  rw [Nat.succ_eq_add_one, Nat.add_comm, ← List.drop_drop, List.drop_one]
  exact clean.isGap.of_subset (List.drop_subset _ _)

/-! ## Frames behind a gap -/

/-- Frames are all that is taken, whatever gap is in front of them. -/
theorem drain_gap_append_flatten {gap : Bytes} (isGap : IsGap gap) {run : List Bytes}
    (whole : ∀ frame ∈ run, IsFrame frame) :
    (drain (gap ++ run.flatten)).1 = run ∧ (run ≠ [] → (drain (gap ++ run.flatten)).2 = []) := by
  induction run generalizing gap with
  | nil =>
      rw [List.flatten_nil, List.append_nil, drain_of_none (extract_noise isGap)]
      exact ⟨rfl, fun nonempty => absurd rfl nonempty⟩
  | cons frame rest inductionHypothesis =>
      rw [List.forall_mem_cons] at whole
      obtain ⟨taken, nothingLeft⟩ := inductionHypothesis isGap_nil whole.2
      rw [List.nil_append] at taken nothingLeft
      rw [List.flatten_cons, ← List.append_assoc, drain_of_frame (extract_frame isGap whole.1 _)]
      refine ⟨by rw [taken], fun _ => ?_⟩
      by_cases last : rest = []
      · rw [last]
        exact congrArg Prod.snd (drain_of_none (extract_noise isGap_nil))
      · exact nothingLeft last

/-- Frames of which those that begin this far from the front, or further, are at the end of a
list. -/
def ReachedFrom (frames : List Bytes) (count : Nat) (run : List Bytes) : Prop :=
  ∀ before after, frames = before ++ after → count ≤ before.flatten.length → after <:+ run

theorem ReachedFrom.mono {frames run : List Bytes} {count larger : Nat}
    (reached : ReachedFrom frames count run) (le : count ≤ larger) :
    ReachedFrom frames larger run :=
  fun before after parts far => reached before after parts (le.trans far)

/-- Frames that begin further on come after the first one. -/
theorem ReachedFrom.cons {frame : Bytes} {rest run : List Bytes} {count : Nat}
    (reached : ReachedFrom rest (count - frame.length) run) (positive : 0 < count) :
    ReachedFrom (frame :: rest) count run := by
  intro before after parts far
  cases before with
  | nil =>
      rw [List.flatten_nil, List.length_nil] at far
      omega
  | cons first others =>
      rw [List.cons_append, List.cons.injEq] at parts
      obtain ⟨rfl, parts⟩ := parts
      rw [List.flatten_cons, List.length_append] at far
      exact reached others after parts (by omega)

theorem ReachedFrom.refl (frames : List Bytes) (count : Nat) : ReachedFrom frames count frames :=
  fun before _ parts _ => ⟨before, parts.symm⟩

/-- A reader that comes to some frames in the middle of one of them meets the next one behind a
gap. -/
theorem exists_gap_append_flatten {frames : List Bytes} (clean : ∀ frame ∈ frames, IsClean frame)
    (count : Nat) :
    ∃ missed gap run, frames = missed ++ run ∧ IsGap gap ∧
      frames.flatten.drop count = gap ++ run.flatten ∧ ReachedFrom frames count run := by
  induction frames generalizing count with
  | nil => exact ⟨[], [], [], rfl, isGap_nil, List.drop_nil, .refl [] count⟩
  | cons frame rest inductionHypothesis =>
      rw [List.forall_mem_cons] at clean
      rcases Nat.eq_zero_or_pos count with rfl | positive
      · exact ⟨[], [], frame :: rest, rfl, isGap_nil, rfl, .refl _ 0⟩
      · rw [List.flatten_cons]
        rcases Nat.le_total count frame.length with within | beyond
        · refine ⟨[frame], frame.drop count, rest, rfl, clean.1.isGap_drop positive, ?_,
            (ReachedFrom.refl rest _).cons positive⟩
          exact List.drop_append_of_le_length within
        · obtain ⟨missed, gap, run, parts, isGap, dropped, reached⟩ :=
            inductionHypothesis clean.2 (count - frame.length)
          refine ⟨frame :: missed, gap, run, by rw [parts]; rfl, isGap, ?_, reached.cons positive⟩
          rw [List.drop_append, List.drop_of_length_le beyond, List.nil_append, dropped]

/-! ## A candidate that reaches into frames -/

/-- What drains out of a buffer with garbage in front of frames ends with all of those that begin
this far behind the garbage, or further; then nothing is left over. -/
def Resumes (frames : List Bytes) (count : Nat) (drained : List Bytes × Bytes) : Prop :=
  ∃ spurious missed run, frames = missed ++ run ∧ drained.1 = spurious ++ run ∧
    (run ≠ [] → drained.2 = []) ∧ ReachedFrom frames count run

theorem Resumes.cons {frames : List Bytes} {count : Nat} {drained : List Bytes × Bytes}
    (resumes : Resumes frames count drained) (taken : Bytes) :
    Resumes frames count (taken :: drained.1, drained.2) := by
  obtain ⟨spurious, missed, run, parts, ends, nothingLeft, reached⟩ := resumes
  exact ⟨taken :: spurious, missed, run, parts, congrArg (taken :: ·) ends, nothingLeft, reached⟩

variable {frames : List Bytes}

/-- No frame begins this far behind the garbage. -/
theorem Resumes.of_short {count : Nat} (short : frames.flatten.length < count)
    (drained : List Bytes × Bytes) : Resumes frames count drained := by
  refine ⟨drained.1, frames, [], (List.append_nil _).symm, (List.append_nil _).symm,
    fun nonempty => absurd rfl nonempty, ?_⟩
  rintro before after rfl far
  rw [List.flatten_append, List.length_append] at short
  omega

theorem IsClean.isFrame_of_mem {run missed : List Bytes}
    (clean : ∀ frame ∈ missed ++ run, IsClean frame) : ∀ frame ∈ run, IsFrame frame :=
  fun frame membership => (clean frame (List.mem_append_right _ membership)).isFrame

theorem resumes_gap {gap : Bytes} (isGap : IsGap gap) (clean : ∀ frame ∈ frames, IsClean frame)
    (count : Nat) : Resumes frames count (drain (gap ++ frames.flatten)) := by
  obtain ⟨taken, nothingLeft⟩ :=
    drain_gap_append_flatten isGap fun frame membership => (clean frame membership).isFrame
  exact ⟨[], [], frames, rfl, taken, nothingLeft, .refl frames count⟩

/-- A candidate that the garbage does not complete ends in one of the frames that follow, or is not
completed at all. -/
theorem resumes_unfinished {candidate : Bytes} (isUnfinished : IsUnfinished candidate)
    (clean : ∀ frame ∈ frames, IsClean frame) :
    Resumes frames 279 (drain (candidate ++ frames.flatten)) := by
  obtain ⟨byte, tail, rfl⟩ := List.exists_cons_of_ne_nil isUnfinished.ne_nil
  have marked := fromMarker_eq_cons isUnfinished.fromMarker_eq
  rcases exists_isFrame_or_isUnfinished marked (tail ++ frames.flatten) with
    stillUnfinished | ⟨taken, later, isFrame, split⟩
  · have bounded := stillUnfinished.length_le
    rw [List.length_cons, List.length_append] at bounded
    exact .of_short (by omega) _
  · rw [← List.cons_append] at split
    rcases List.append_eq_append_iff.mp split with ⟨reach, rfl, behind⟩ | ⟨beyond, early, -⟩
    · -- The candidate has its first byte in the garbage, so that it ends this early at the latest.
      have near : reach.length ≤ 279 := by
        have bounded := isFrame.length_le
        rw [List.length_append, List.length_cons] at bounded
        omega
      have rest : later = frames.flatten.drop reach.length := by
        rw [behind, List.drop_left]
      obtain ⟨missed, gap, run, parts, isGap, dropped, reached⟩ :=
        exists_gap_append_flatten clean reach.length
      obtain ⟨drained, nothingLeft⟩ :=
        drain_gap_append_flatten isGap (IsClean.isFrame_of_mem (parts ▸ clean))
      rw [split, isFrame.drain_append, rest, dropped]
      exact Resumes.cons ⟨[], missed, run, parts, drained, nothingLeft, reached.mono near⟩ _
    · exact absurd early
        (Framing.unfinished_ne_frame isGap_nil isUnfinished isGap_nil isFrame)

/-- Each frame in the garbage is taken, or the candidate that ends it reaches into the frames. -/
theorem resumes_garbage (garbage : Bytes) (clean : ∀ frame ∈ frames, IsClean frame) :
    Resumes frames 279 (drain (garbage ++ frames.flatten)) := by
  obtain ⟨framing, rfl⟩ := Framing.exists_bytes_eq garbage
  induction framing with
  | noise gap isGap => exact resumes_gap isGap clean 279
  | unfinished gap rest isGap isUnfinished =>
      have skipped : extract (gap ++ rest ++ frames.flatten) = extract (rest ++ frames.flatten) :=
        (extract_rest_append (extract_unfinished isGap isUnfinished) _).symm
      rw [Framing.bytes, drain_congr skipped]
      exact resumes_unfinished isUnfinished clean
  | frame gap taken isGap isFrame later inductionHypothesis =>
      have extracted := extract_frame isGap isFrame (later.bytes ++ frames.flatten)
      rw [← List.append_assoc] at extracted
      rw [Framing.bytes, drain_of_frame extracted]
      exact inductionHypothesis.cons taken

/-- Whatever garbage comes in front of frames that have no marker but their first byte: what is
taken ends with an unbroken run of these frames, up to the last one.  Every frame that begins at
least 279 bytes behind the garbage is in it, and if there is one, nothing is left over. -/
theorem drain_ends_with_run (garbage : Bytes) (frames : List Bytes)
    (clean : ∀ frame ∈ frames, IsClean frame) :
    ∃ spurious missed run, frames = missed ++ run ∧
      (drain (garbage ++ frames.flatten)).1 = spurious ++ run ∧
      ∀ before frame after, frames = before ++ frame :: after → 279 ≤ before.flatten.length →
        frame :: after <:+ run ∧ (drain (garbage ++ frames.flatten)).2 = [] := by
  obtain ⟨spurious, missed, run, parts, taken, nothingLeft, reached⟩ :=
    resumes_garbage garbage clean
  refine ⟨spurious, missed, run, parts, taken, ?_⟩
  intro before frame after split far
  have isSuffix := reached before (frame :: after) split far
  refine ⟨isSuffix, nothingLeft ?_⟩
  rintro rfl
  exact List.cons_ne_nil _ _ (List.suffix_nil.mp isSuffix)

/-- The header in front announces 280 bytes, of which the frames behind it have 277. -/
theorem drain_ends_with_run_longestCandidate :
    let frame : Bytes := [0xFE, 0, 7, 1, 1, 0, 0x12, 0x34]
    (∀ taken ∈ List.replicate 40 frame, IsClean taken) ∧
      ∃ front, drain ([0xFD, 255, 1] ++ (List.replicate 40 frame).flatten) =
        (front ++ List.replicate 5 frame, []) := by
  intro frame
  have clean : ∀ taken ∈ List.replicate 40 frame, IsClean taken := by
    intro taken membership
    rw [List.eq_of_mem_replicate membership]
    exact ⟨.v1 (by decide), by decide, by decide⟩
  refine ⟨clean, ?_⟩
  obtain ⟨spurious, missed, run, -, taken, resumed⟩ :=
    drain_ends_with_run [0xFD, 255, 1] (List.replicate 40 frame) clean
  have far : 279 ≤ (List.replicate 35 frame).flatten.length := by
    rw [List.length_flatten, List.map_replicate, List.sum_replicate_nat]
    decide
  obtain ⟨⟨between, rfl⟩, nothingLeft⟩ :=
    resumed (List.replicate 35 frame) frame (List.replicate 4 frame) rfl far
  refine ⟨spurious ++ between, Prod.ext ?_ nothingLeft⟩
  rw [taken, List.append_assoc]
  rfl

end MavBridge
