import MavBridge.Link.Basic

/-!
What is written to a vehicle: chunks that outputs relay, and frames that are sent directly.

Relayed chunks wait in a bounded queue for one writer, so that a slow device delays nobody; one that
finds the queue full is dropped, and counted. A frame is written by whoever sends it. A write holds
the device from its first byte to its last, so each happens at once here.
-/

namespace MavBridge

/-- A link, and the chunks on their way to it. -/
structure Egress where
  link : Link
  /-- Relayed chunks, the oldest first. -/
  queue : List Bytes := []
  /-- The chunk that the writer has taken and not yet written. -/
  inHand : Option Bytes := none
  /-- Chunks that found the queue full. -/
  dropped : Nat := 0
  /-- Whether the writer is at work. -/
  isRunning : Bool := true
  deriving DecidableEq, Repr

namespace Egress

/-- Chunks that wait at most. -/
def capacity : Nat := 256

/-- Relay a chunk; a link that is dead takes none. -/
def offer (egress : Egress) (chunk : Bytes) : Egress :=
  if egress.link.isAlive ∧ egress.isRunning then
    if egress.queue.length < capacity then { egress with queue := egress.queue ++ [chunk] }
    else { egress with dropped := egress.dropped + 1 }
  else egress

/-- The rest of relaying a chunk, for one who has found the link alive. -/
def enqueue (egress : Egress) (chunk : Bytes) : Egress :=
  if egress.isRunning then
    if egress.queue.length < capacity then { egress with queue := egress.queue ++ [chunk] }
    else { egress with dropped := egress.dropped + 1 }
  else egress

theorem offer_eq_ite (egress : Egress) (chunk : Bytes) :
    egress.offer chunk = if egress.link.isAlive then egress.enqueue chunk else egress := by
  unfold offer enqueue
  by_cases alive : egress.link.isAlive <;> simp [alive]

/-- The writer takes the next chunk. -/
def take (egress : Egress) : Egress :=
  match egress.isRunning, egress.inHand, egress.queue with
  | true, none, chunk :: queue => { egress with inHand := some chunk, queue }
  | _, _, _ => egress

@[simp]
theorem link_enqueue (egress : Egress) (chunk : Bytes) :
    (egress.enqueue chunk).link = egress.link := by
  unfold enqueue
  split
  · split <;> rfl
  · rfl

@[simp]
theorem link_offer (egress : Egress) (chunk : Bytes) :
    (egress.offer chunk).link = egress.link := by
  rw [offer_eq_ite]
  split
  · exact egress.link_enqueue chunk
  · rfl

@[simp]
theorem link_take (egress : Egress) : egress.take.link = egress.link := by
  unfold take
  split <;> rfl

/-- The reader of the link learns the outcome of a poll; the answer is what it hands over. -/
def observe (egress : Egress) (outcome : Except Fault Bytes) : Option Bytes × Egress :=
  ((egress.link.observe outcome).1, { egress with link := (egress.link.observe outcome).2 })

/-- Close the link and end the writer. -/
def close (egress : Egress) : Egress :=
  { egress with link := egress.link.close, isRunning := false }

variable {σ : Type} (device : Transport σ)

/-- The writer writes what it holds; that this fails stops nothing. -/
def writeHeld (egress : Egress) (s : σ) : Egress × σ :=
  match egress.inHand with
  | none => (egress, s)
  | some chunk =>
      let (_, link, s) := egress.link.write device chunk s
      ({ egress with link, inHand := none }, s)

/-- Write a frame. -/
def send (egress : Egress) (frame : Bytes) (s : σ) : Except Fault Unit × Egress × σ :=
  let (outcome, link, s) := egress.link.write device frame s
  (outcome, { egress with link }, s)

/-- What the writer does in so many turns. -/
def drainWith : (turns : Nat) → Egress → σ → Egress × σ
  | 0, egress, s => (egress, s)
  | turns + 1, egress, s =>
      let (egress, s) := egress.writeHeld device s
      drainWith turns egress.take s

/-- Let the writer write all that waits. -/
def drain (egress : Egress) (s : σ) : Egress × σ :=
  egress.drainWith device (egress.queue.length + 2) s

end Egress

end MavBridge
