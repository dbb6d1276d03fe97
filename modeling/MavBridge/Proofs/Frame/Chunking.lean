import MavBridge.Proofs.Frame.Extraction

/-!
# Independence of chunks

An extractor is fed in chunks of any size and asked for frames at any moment.  `Step` is what its
owner does to it, and `run` what comes of several steps.  The frames of a run and of the draining
after it, and the bytes that are left, are those of the whole stream drained at once.
-/

namespace MavBridge

namespace Extractor

/-- What the owner of an extractor does with it. -/
inductive Step where
  | push (chunk : Bytes)
  | next
  deriving DecidableEq, Repr

/-- The bytes that a step brings. -/
def Step.bytes : Step → Bytes
  | .push chunk => chunk
  | .next => []

/-- One step; the answer is the frame that it takes, if any. -/
def step (extractor : Extractor) : Step → Option Bytes × Extractor
  | .push chunk => (none, extractor.push chunk)
  | .next => extractor.next

/-- Several steps; the answer is the frames that they take. -/
def run (extractor : Extractor) : List Step → List Bytes × Extractor
  | [] => ([], extractor)
  | first :: steps =>
      ((extractor.step first).1.toList ++ ((extractor.step first).2.run steps).1,
        ((extractor.step first).2.run steps).2)

/-! ## Draining, step by step -/

theorem extract_of_next {extractor after : Extractor} {frame? : Option Bytes}
    (asked : extractor.next = (frame?, after)) :
    extract extractor.buffer = (frame?, after.buffer) := by
  simp only [next, Prod.mk.injEq] at asked
  rw [← asked.1, ← asked.2]

/-- Draining ends when the next frame is not complete. -/
theorem drain_of_next_none {extractor after : Extractor} (ended : extractor.next = (none, after)) :
    extractor.drain = ([], after) := by
  rw [drain, drain_of_none (extract_of_next ended)]

/-- Draining takes the next frame and goes on. -/
theorem drain_of_next_frame {extractor after : Extractor} {frame : Bytes}
    (continued : extractor.next = (some frame, after)) :
    extractor.drain = (frame :: after.drain.1, after.drain.2) := by
  rw [drain, drain_of_frame (extract_of_next continued)]
  rfl

/-- Draining is asking for frames until there is none. -/
theorem exists_run_eq_drain (extractor : Extractor) :
    ∃ asks, extractor.run (List.replicate asks .next) = extractor.drain ∧
      extractor.drain.2.next = (none, extractor.drain.2) := by
  have ended : extractor.drain.2.next = (none, extractor.drain.2) := by
    simp only [next, drain, extract_drain_rest]
  refine exists_and_right.mpr ⟨?_, ended⟩
  clear ended
  induction size : extractor.buffer.length using Nat.strong_induction_on generalizing extractor with
  | _ total inductionHypothesis =>
      cases asked : extractor.next with
      | mk frame? after =>
          cases frame? with
          | none =>
              refine ⟨1, ?_⟩
              rw [drain_of_next_none asked]
              simp [run, step, asked]
          | some frame =>
              have shorter : after.buffer.length < total := by
                rw [← size]
                exact length_extract_lt (extract_of_next asked)
              rcases inductionHypothesis _ shorter after rfl with ⟨asks, drained⟩
              refine ⟨asks + 1, ?_⟩
              rw [drain_of_next_frame asked, ← drained]
              simp [List.replicate_succ, run, step, asked]

/-! ## Runs -/

/-- What a step takes now and draining takes later is what draining would have taken. -/
theorem drain_step (extractor : Extractor) (first : Step) (later : Bytes) :
    MavBridge.drain (extractor.buffer ++ (first.bytes ++ later)) =
      ((extractor.step first).1.toList ++
          (MavBridge.drain ((extractor.step first).2.buffer ++ later)).1,
        (MavBridge.drain ((extractor.step first).2.buffer ++ later)).2) := by
  cases first with
  | push chunk => simp [step, push, Step.bytes]
  | next =>
      simp only [Step.bytes, List.nil_append, step, next]
      cases taken : extract extractor.buffer with
      | mk frame? rest =>
          cases frame? with
          | none =>
              simp only [Option.toList_none, List.nil_append]
              exact drain_congr (extract_rest_append taken later).symm
          | some frame =>
              simp only [Option.toList_some, List.singleton_append]
              exact drain_of_frame (extract_append_of_frame taken later)

theorem drain_run (extractor : Extractor) (steps : List Step) :
    MavBridge.drain (extractor.buffer ++ steps.flatMap Step.bytes) =
      ((extractor.run steps).1 ++ (MavBridge.drain (extractor.run steps).2.buffer).1,
        (MavBridge.drain (extractor.run steps).2.buffer).2) := by
  induction steps generalizing extractor with
  | nil => simp [run]
  | cons first steps inductionHypothesis =>
      rw [List.flatMap_cons, drain_step, inductionHypothesis]
      simp [run]

/-- However a stream is cut into chunks, and whenever frames are asked for on the way, the frames
taken in all and the bytes left at the end are those of the stream pushed at once and drained; and
to drain is to ask for frames until there is none. -/
theorem run_drain_eq_drain_push (steps : List Step) :
    ((empty.run steps).1 ++ (empty.run steps).2.drain.1, (empty.run steps).2.drain.2) =
      (empty.push (steps.flatMap Step.bytes)).drain ∧
    ∀ extractor : Extractor, ∃ asks,
      extractor.run (List.replicate asks .next) = extractor.drain ∧
        extractor.drain.2.next = (none, extractor.drain.2) := by
  have whole := drain_run empty steps
  refine ⟨?_, exists_run_eq_drain⟩
  simp only [drain, push, whole]

/-! ## Chunk by chunk -/

/-- Take chunks in, one after the other, and all frames out after each. -/
def hearAll (extractor : Extractor) : List Bytes → List Bytes × Extractor
  | [] => ([], extractor)
  | chunk :: chunks =>
      ((extractor.push chunk).drain.1 ++ ((extractor.push chunk).drain.2.hearAll chunks).1,
        ((extractor.push chunk).drain.2.hearAll chunks).2)

theorem hearAll_eq_drain_of_drained (extractor : Extractor) (chunks : List Bytes)
    (drained : extractor.drain = ([], extractor)) :
    extractor.hearAll chunks = (extractor.push chunks.flatten).drain := by
  induction chunks generalizing extractor with
  | nil => simpa [hearAll, push] using drained.symm
  | cons chunk chunks inductionHypothesis =>
      have drainedAgain : (extractor.push chunk).drain.2.drain =
          ([], (extractor.push chunk).drain.2) := by
        simp only [drain, drain_drain_rest]
      rw [hearAll, inductionHypothesis _ drainedAgain]
      simp only [drain, push, List.flatten_cons, ← List.append_assoc]
      rw [drain_append (extractor.buffer ++ chunk)]

/-- Chunks heard one after the other give the frames of the whole stream. -/
theorem hearAll_empty (chunks : List Bytes) :
    empty.hearAll chunks = (empty.push chunks.flatten).drain :=
  hearAll_eq_drain_of_drained empty chunks (by simp [drain, empty, drain_nil])

end Extractor

end MavBridge
