import MavBridge.Bytes
import MavBridge.Fault

/-!
Byte devices, as what their operations do to the state of the world around them.

A device may take less than it is offered. `writeAll` offers the rest again, gives up when nothing
is taken, and flushes once everything is.
-/

namespace MavBridge

/-- The operations of a device, and how often it can be polled within a time. -/
structure Transport (σ : Type) where
  /-- Bytes that can be read at once. -/
  available : σ → Except Fault Nat × σ
  /-- Read at most so many bytes; none when none come soon. -/
  read : Nat → σ → Except Fault Bytes × σ
  /-- Offer bytes; the answer is how many were taken. -/
  write : Bytes → σ → Except Fault Nat × σ
  flush : σ → Except Fault Unit × σ
  /-- Open a second handle. -/
  duplicate : σ → Except Fault Unit × σ
  pollsWithin : Duration → σ → Nat

namespace Transport

variable {σ : Type}

/-- A device in a larger world, of which its own is a part. -/
def within {τ : Type} (device : Transport σ) (part : τ → σ) (put : σ → τ → τ) : Transport τ where
  available s :=
    let (outcome, inner) := device.available (part s)
    (outcome, put inner s)
  read limit s :=
    let (outcome, inner) := device.read limit (part s)
    (outcome, put inner s)
  write bytes s :=
    let (outcome, inner) := device.write bytes (part s)
    (outcome, put inner s)
  flush s :=
    let (outcome, inner) := device.flush (part s)
    (outcome, put inner s)
  duplicate s :=
    let (outcome, inner) := device.duplicate (part s)
    (outcome, put inner s)
  pollsWithin time s := device.pollsWithin time (part s)

/-- Write all bytes. -/
def writeAll (device : Transport σ) (data : Bytes) (s : σ) : Except Fault Unit × σ :=
  if data.isEmpty then device.flush s
  else
    match device.write data s with
    | (.error fault, s) => (.error fault, s)
    | (.ok 0, s) => (.error (.ofKind .writeZero), s)
    | (.ok (taken + 1), s) => device.writeAll (data.drop (taken + 1)) s
termination_by data.length
decreasing_by
  have : data ≠ [] := by simp_all
  have := List.length_pos_iff.mpr this
  simp only [List.length_drop]
  omega

end Transport

end MavBridge
