import MavBridge.Device.Memory
import MavBridge.Link.Basic

/-!
# What a device takes of a write

A write offers what is left until the device has taken everything, and flushes the device then.
`Writes` lists how that goes, call by call, whatever the device answers.  A link counts a write only
if it succeeds as a whole, so that it never counts more than its device has taken.
-/

namespace MavBridge

/-- What a device is asked in a write, with its answer. -/
inductive WriteCall where
  | write (offered : Bytes) (answer : Except Fault Nat)
  | flush (answer : Except Fault Unit)

namespace WriteCall

/-- The bytes that the device takes. -/
def taken : WriteCall → Bytes
  | write offered (.ok count) => offered.take count
  | _ => []

/-- What is wrong with an answer. -/
def fault? : WriteCall → Option Fault
  | write _ (.error fault) => some fault
  | write _ (.ok 0) => some (.ofKind .writeZero)
  | write _ (.ok (_ + 1)) => none
  | flush (.error fault) => some fault
  | flush (.ok ()) => none

/-- The bytes that the device takes in some calls, one after the other. -/
def takenBy (calls : List WriteCall) : Bytes := calls.flatMap taken

theorem takenBy_cons (call : WriteCall) (calls : List WriteCall) :
    takenBy (call :: calls) = call.taken ++ takenBy calls := rfl

theorem takenBy_append (first second : List WriteCall) :
    takenBy (first ++ second) = takenBy first ++ takenBy second := List.flatMap_append

end WriteCall

open WriteCall (takenBy takenBy_cons takenBy_append)

/-! ## One write -/

/-- How a write of some bytes goes, and its outcome. -/
inductive Writes : Bytes → List WriteCall → Except Fault Unit → Prop where
  | flush (answer : Except Fault Unit) : Writes [] [.flush answer] answer
  | fail {data : Bytes} (fault : Fault) :
      data ≠ [] → Writes data [.write data (.error fault)] (.error fault)
  | stall {data : Bytes} :
      data ≠ [] → Writes data [.write data (.ok 0)] (.error (.ofKind .writeZero))
  | take {data : Bytes} {count : Nat} {calls : List WriteCall} {outcome : Except Fault Unit} :
      count < data.length → Writes (data.drop (count + 1)) calls outcome →
      Writes data (.write data (.ok (count + 1)) :: calls) outcome

namespace Writes

variable {data : Bytes} {calls : List WriteCall} {outcome : Except Fault Unit}

theorem length_le (writes : Writes data calls outcome) : calls.length ≤ data.length + 1 := by
  induction writes with
  | flush answer => exact Nat.le_refl _
  | fail fault nonempty => exact Nat.le_add_left _ _
  | stall nonempty => exact Nat.le_add_left _ _
  | take within later inductionHypothesis =>
      rw [List.length_drop] at inductionHypothesis
      rw [List.length_cons]
      omega

theorem takenBy_prefix (writes : Writes data calls outcome) : takenBy calls <+: data := by
  induction writes with
  | flush answer => exact List.nil_prefix
  | fail fault nonempty => exact List.nil_prefix
  | stall nonempty => exact List.nil_prefix
  | @take data count calls outcome within later inductionHypothesis =>
      have extended :=
        (List.prefix_append_right_inj (data.take (count + 1))).mpr inductionHypothesis
      rwa [List.take_append_drop] at extended

/-- What is offered is all that the device has not taken before. -/
theorem offers (writes : Writes data calls outcome) {before after : List WriteCall}
    {offered : Bytes} {answer : Except Fault Nat}
    (parted : calls = before ++ .write offered answer :: after) :
    takenBy before ++ offered = data := by
  induction writes generalizing before with
  | flush result => cases before <;> simp at parted
  | fail fault nonempty =>
      obtain ⟨rfl, ⟨rfl, rfl⟩, rfl⟩ := by simpa [List.singleton_eq_append_iff] using parted
      rfl
  | stall nonempty =>
      obtain ⟨rfl, ⟨rfl, rfl⟩, rfl⟩ := by simpa [List.singleton_eq_append_iff] using parted
      rfl
  | @take data count calls outcome within later inductionHypothesis =>
      cases before with
      | nil =>
          cases parted
          rfl
      | cons first before =>
          obtain ⟨rfl, partedLater⟩ := List.cons.inj parted
          rw [takenBy_cons, List.append_assoc, inductionHypothesis partedLater]
          exact List.take_append_drop _ _

/-- The device is flushed last, once it has taken everything. -/
theorem flushes (writes : Writes data calls outcome) {before after : List WriteCall}
    {answer : Except Fault Unit} (parted : calls = before ++ .flush answer :: after) :
    takenBy before = data ∧ after = [] ∧ outcome = answer := by
  induction writes generalizing before with
  | flush result =>
      obtain ⟨rfl, rfl, rfl⟩ := by simpa [List.singleton_eq_append_iff] using parted
      exact ⟨rfl, rfl, rfl⟩
  | fail fault nonempty => cases before <;> simp at parted
  | stall nonempty => cases before <;> simp at parted
  | @take data count calls outcome within later inductionHypothesis =>
      cases before with
      | nil => cases parted
      | cons first before =>
          obtain ⟨rfl, partedLater⟩ := List.cons.inj parted
          obtain ⟨everything, last, same⟩ := inductionHypothesis partedLater
          rw [takenBy_cons, everything]
          exact ⟨List.take_append_drop _ _, last, same⟩

/-- The first thing that goes wrong is what the write fails with. -/
theorem eq_error_of_fault? (writes : Writes data calls outcome) {call : WriteCall}
    (among : call ∈ calls) {fault : Fault} (wrong : call.fault? = some fault) :
    outcome = .error fault := by
  induction writes with
  | flush answer =>
      obtain rfl := List.mem_singleton.mp among
      cases answer with
      | error other => exact congrArg Except.error (Option.some.inj wrong)
      | ok done => cases wrong
  | fail other nonempty =>
      obtain rfl := List.mem_singleton.mp among
      exact congrArg Except.error (Option.some.inj wrong)
  | stall nonempty =>
      obtain rfl := List.mem_singleton.mp among
      exact congrArg Except.error (Option.some.inj wrong)
  | take within later inductionHypothesis =>
      rcases List.mem_cons.mp among with rfl | amongLater
      · cases wrong
      · exact inductionHypothesis amongLater

/-- A write that fails has asked the device for the last time with the answer it fails with. -/
theorem fault?_getLast? (writes : Writes data calls outcome) {fault : Fault}
    (failed : outcome = .error fault) : calls.getLast?.bind WriteCall.fault? = some fault := by
  induction writes with
  | flush answer =>
      subst failed
      rfl
  | fail other nonempty =>
      cases failed
      rfl
  | stall nonempty =>
      cases failed
      rfl
  | @take data count calls outcome within later inductionHypothesis =>
      have cause := inductionHypothesis failed
      obtain ⟨last, isLast, _⟩ := Option.bind_eq_some_iff.mp cause
      rw [List.getLast?_cons, isLast, Option.getD_some, ← isLast]
      exact cause

theorem takenBy_of_ok (writes : Writes data calls outcome) (succeeded : outcome = .ok ()) :
    takenBy calls = data ∧ calls.getLast? = some (.flush (.ok ())) := by
  induction writes with
  | flush answer =>
      subst succeeded
      exact ⟨rfl, rfl⟩
  | fail fault nonempty => cases succeeded
  | stall nonempty => cases succeeded
  | @take data count calls outcome within later inductionHypothesis =>
      obtain ⟨everything, last⟩ := inductionHypothesis succeeded
      rw [takenBy_cons, everything, List.getLast?_cons, last]
      exact ⟨List.take_append_drop _ _, rfl⟩

theorem eq_ok_iff (writes : Writes data calls outcome) :
    outcome = .ok () ↔
      (∀ offered answer, .write offered answer ∈ calls → ∃ count, answer = .ok (count + 1)) ∧
        takenBy calls = data ∧ calls.getLast? = some (.flush (.ok ())) := by
  constructor
  · intro succeeded
    refine ⟨?_, writes.takenBy_of_ok succeeded⟩
    intro offered answer among
    cases wrong : (WriteCall.write offered answer).fault? with
    | some fault =>
        rw [writes.eq_error_of_fault? among wrong] at succeeded
        cases succeeded
    | none =>
        cases answer with
        | error fault => cases wrong
        | ok count =>
            cases count with
            | zero => cases wrong
            | succ count => exact ⟨count, rfl⟩
  · rintro ⟨-, -, last⟩
    obtain ⟨before, parted⟩ := List.getLast?_eq_some_iff.mp last
    exact (writes.flushes parted).2.2

end Writes

namespace Transport

variable {σ : Type} {device : Transport σ}

/-- No write takes more than it is offered. -/
def Honest (device : Transport σ) : Prop :=
  ∀ data s count, (device.write data s).1 = .ok count → count ≤ data.length

/-- The device with a record of the calls that write to it. -/
def recorded (device : Transport σ) : Transport (σ × List WriteCall) where
  available s := ((device.available s.1).1, (device.available s.1).2, s.2)
  read limit s := ((device.read limit s.1).1, (device.read limit s.1).2, s.2)
  write data s :=
    ((device.write data s.1).1, (device.write data s.1).2,
      s.2 ++ [.write data (device.write data s.1).1])
  flush s := ((device.flush s.1).1, (device.flush s.1).2, s.2 ++ [.flush (device.flush s.1).1])
  duplicate s := ((device.duplicate s.1).1, (device.duplicate s.1).2, s.2)
  pollsWithin time s := device.pollsWithin time s.1

theorem write_recorded (data : Bytes) (s : σ) (calls : List WriteCall) :
    device.recorded.write data (s, calls) =
      ((device.write data s).1, (device.write data s).2,
        calls ++ [.write data (device.write data s).1]) := rfl

/-- The record takes no part in a write. -/
theorem Honest.exists_writes (honest : device.Honest) (data : Bytes) (s : σ) :
    ∃ calls, Writes data calls (device.writeAll data s).1 ∧
      ∀ earlier, device.recorded.writeAll data (s, earlier) =
        ((device.writeAll data s).1, (device.writeAll data s).2, earlier ++ calls) := by
  induction data, s using writeAll.induct device with
  | case1 data s empty =>
      obtain rfl := List.isEmpty_iff.mp empty
      refine ⟨[.flush (device.flush s).1], ?_, ?_⟩
      · rw [writeAll, if_pos empty]
        exact .flush _
      · intro earlier
        rw [writeAll, writeAll, if_pos empty, if_pos empty]
        rfl
  | case2 data s nonempty fault after written =>
      refine ⟨[.write data (.error fault)], ?_, ?_⟩
      · rw [writeAll, if_neg nonempty, written]
        exact .fail fault (mt List.isEmpty_iff.mpr nonempty)
      · intro earlier
        rw [writeAll, writeAll, if_neg nonempty, if_neg nonempty, write_recorded, written]
  | case3 data s nonempty after written =>
      refine ⟨[.write data (.ok 0)], ?_, ?_⟩
      · rw [writeAll, if_neg nonempty, written]
        exact .stall (mt List.isEmpty_iff.mpr nonempty)
      · intro earlier
        rw [writeAll, writeAll, if_neg nonempty, if_neg nonempty, write_recorded, written]
  | case4 data s nonempty count after written inductionHypothesis =>
      have within : count < data.length := honest data s (count + 1) (by rw [written])
      obtain ⟨calls, writes, same⟩ := inductionHypothesis
      refine ⟨.write data (.ok (count + 1)) :: calls, ?_, ?_⟩
      · rw [writeAll, if_neg nonempty, written]
        exact .take within writes
      · intro earlier
        rw [writeAll, writeAll, if_neg nonempty, if_neg nonempty, write_recorded, written]
        dsimp only
        rw [same, List.append_assoc]
        rfl

end Transport

/-- How a write of `data` has gone: what the device was asked in it, and its outcome. -/
structure Written (data : Bytes) (calls : List WriteCall) (outcome : Except Fault Unit) : Prop where
  /-- The device is asked at most once for each byte, and once to flush. -/
  bounded : calls.length ≤ data.length + 1
  ok_iff : outcome = .ok () ↔
    (∀ offered answer, .write offered answer ∈ calls → ∃ count, answer = .ok (count + 1)) ∧
      takenBy calls = data ∧ calls.getLast? = some (.flush (.ok ()))
  taken_prefix : takenBy calls <+: data
  offers : ∀ before offered answer after, calls = before ++ .write offered answer :: after →
    takenBy before ++ offered = data
  flushes : ∀ before answer after, calls = before ++ .flush answer :: after →
    takenBy before = data ∧ after = []
  fails : ∀ call ∈ calls, ∀ fault, call.fault? = some fault → outcome = .error fault
  /-- No write fails without a cause. -/
  caused : ∀ fault, outcome = .error fault → calls.getLast?.bind WriteCall.fault? = some fault
  writeZero : ∀ offered, .write offered (.ok 0) ∈ calls → outcome = .error (.ofKind .writeZero)

theorem Writes.written {data : Bytes} {calls : List WriteCall} {outcome : Except Fault Unit}
    (writes : Writes data calls outcome) : Written data calls outcome where
  bounded := writes.length_le
  ok_iff := writes.eq_ok_iff
  taken_prefix := writes.takenBy_prefix
  offers _ _ _ _ parted := writes.offers parted
  flushes _ _ _ parted := ⟨(writes.flushes parted).1, (writes.flushes parted).2.1⟩
  fails _ among _ wrong := writes.eq_error_of_fault? among wrong
  caused _ failed := writes.fault?_getLast? failed
  writeZero _ among := writes.eq_error_of_fault? among rfl

/-! ## Many writes over a link -/

namespace Link

variable {σ : Type}

/-- What is done with a link. -/
inductive Use where
  | write (data : Bytes)
  | start
  | poll
  | close

/-- One use of a link; a write has an outcome. -/
def use (device : Transport σ) (link : Link) (s : σ) :
    Use → List (Bytes × Except Fault Unit) × Link × σ
  | .write data =>
      ([(data, (link.write device data s).1)], (link.write device data s).2)
  | .start => ([], link.startReader.2, s)
  | .poll => ([], (link.observe (pollDevice device s).1).2, (pollDevice device s).2)
  | .close => ([], link.close, s)

/-- Uses one after the other; the answer is what was to be written, and what came of it. -/
def useAll (device : Transport σ) : List Use → Link → σ →
    List (Bytes × Except Fault Unit) × Link × σ
  | [], link, s => ([], link, s)
  | first :: later, link, s =>
      let (outcomes, link, s) := link.use device s first
      let (others, link, s) := useAll device later link s
      (outcomes ++ others, link, s)

/-- The bytes of the writes that have succeeded. -/
def succeeded (outcomes : List (Bytes × Except Fault Unit)) : Bytes :=
  (outcomes.filter (·.2.isOk)).flatMap (·.1)

theorem length_succeeded_append (first second : List (Bytes × Except Fault Unit)) :
    (succeeded (first ++ second)).length =
      (succeeded first).length + (succeeded second).length := by
  simp only [succeeded, List.filter_append, List.flatMap_append, List.length_append]

/-- How uses of a link have gone, of which a device with a record was asked some calls. -/
structure Accounted (device : Transport σ) (link : Link) (s : σ)
    (uses : List Use) (calls : List WriteCall) : Prop where
  /-- The record takes no part. -/
  recorded : ∀ earlier, useAll device.recorded uses link (s, earlier) =
    ((useAll device uses link s).1, (useAll device uses link s).2.1,
      (useAll device uses link s).2.2, earlier ++ calls)
  counted : (useAll device uses link s).2.1.bytesWritten =
    link.bytesWritten + (succeeded (useAll device uses link s).1).length
  taken : (succeeded (useAll device uses link s).1).length ≤ (takenBy calls).length

variable {device : Transport σ}

theorem pollDevice_recorded (s : σ) (calls : List WriteCall) :
    pollDevice device.recorded (s, calls) =
      ((pollDevice device s).1, (pollDevice device s).2, calls) := by
  unfold pollDevice
  dsimp only [Transport.recorded]
  cases device.available s with
  | mk answer after =>
      cases answer with
      | error fault => rfl
      | ok count => cases count <;> rfl

@[simp]
theorem bytesWritten_startReader (link : Link) :
    link.startReader.2.bytesWritten = link.bytesWritten := by
  unfold startReader
  split <;> rfl

/-- One use of a link.  A write counts exactly if the device has taken and flushed all of it. -/
theorem exists_use (honest : device.Honest) (link : Link) (s : σ) (first : Use) :
    ∃ calls, (∀ earlier, link.use device.recorded (s, earlier) first =
        ((link.use device s first).1, (link.use device s first).2.1,
          (link.use device s first).2.2, earlier ++ calls)) ∧
      (link.use device s first).2.1.bytesWritten =
        link.bytesWritten + (succeeded (link.use device s first).1).length ∧
      (succeeded (link.use device s first).1).length ≤ (takenBy calls).length := by
  cases first with
  | start => exact ⟨[], fun _ => by simp [use], by simp [use, succeeded], Nat.le_refl 0⟩
  | poll =>
      exact ⟨[], fun _ => by simp [use, pollDevice_recorded], by simp [use, succeeded],
        Nat.le_refl 0⟩
  | close => exact ⟨[], fun _ => by simp [use], rfl, Nat.le_refl 0⟩
  | write data =>
      unfold use Link.write
      cases isOpen : link.isOpen with
      | false => exact ⟨[], fun _ => by simp, rfl, Nat.le_refl 0⟩
      | true =>
          obtain ⟨calls, writes, same⟩ := honest.exists_writes data s
          simp only [if_true, same]
          refine ⟨calls, ?_⟩
          cases written : device.writeAll data s with
          | mk outcome after =>
              rw [written] at writes
              cases outcome with
              | error fault => exact ⟨fun _ => rfl, rfl, Nat.zero_le _⟩
              | ok done =>
                  have all : succeeded [(data, .ok done)] = data := List.append_nil data
                  dsimp only
                  rw [all, (writes.takenBy_of_ok rfl).1]
                  exact ⟨fun _ => rfl, rfl, Nat.le_refl _⟩

theorem exists_accounted (honest : device.Honest) (uses : List Use) (link : Link) (s : σ) :
    ∃ calls, Accounted device link s uses calls := by
  induction uses generalizing link s with
  | nil => exact ⟨[], fun _ => by simp [useAll], rfl, Nat.le_refl 0⟩
  | cons first uses inductionHypothesis =>
      obtain ⟨calls, same, counted, taken⟩ := exists_use honest link s first
      obtain ⟨others, accounted⟩ := inductionHypothesis (link.use device s first).2.1
        (link.use device s first).2.2
      refine ⟨calls ++ others, ?_, ?_, ?_⟩
      · intro earlier
        simp only [useAll, same, accounted.recorded, List.append_assoc]
      · simp only [useAll, accounted.counted, counted, length_succeeded_append, Nat.add_assoc]
      · simp only [useAll, length_succeeded_append, takenBy_append, List.length_append]
        exact Nat.add_le_add taken accounted.taken

/-- A write over an open link is a write on its device. -/
theorem exists_written (honest : device.Honest) (data : Bytes) {link : Link}
    (isOpen : link.isOpen = true) (s : σ) :
    ∃ calls, (link.write device.recorded data (s, [])).2.2 =
        ((link.write device data s).2.2, calls) ∧
      Written data calls (link.write device data s).1 := by
  obtain ⟨calls, writes, same⟩ := honest.exists_writes data s
  unfold Link.write
  rw [if_pos isOpen, if_pos isOpen, same, List.nil_append]
  refine ⟨calls, ?_⟩
  cases written : device.writeAll data s with
  | mk outcome after =>
      rw [written] at writes
      cases outcome with
      | error fault => exact ⟨rfl, writes.written⟩
      | ok done => exact ⟨rfl, writes.written⟩

/-- Whatever a device answers, as long as it takes no more than it is offered: a write asks it at
most once for each byte and once to flush, and comes out as `Written` says, over an open link too.
And whatever is done with a link over such a device, it counts the bytes of the writes that have
succeeded, which are no more than the device has taken. -/
theorem writes_accounted (honest : device.Honest) :
    (∀ data s, ∃ calls, device.recorded.writeAll data (s, []) =
        ((device.writeAll data s).1, (device.writeAll data s).2, calls) ∧
      Written data calls (device.writeAll data s).1) ∧
      (∀ data (link : Link) s, link.isOpen = true →
        ∃ calls, (link.write device.recorded data (s, [])).2.2 =
            ((link.write device data s).2.2, calls) ∧
          Written data calls (link.write device data s).1) ∧
      ∀ uses link s, ∃ calls, Accounted device link s uses calls := by
  refine ⟨?_, ?_, ?_⟩
  · intro data s
    obtain ⟨calls, writes, same⟩ := honest.exists_writes data s
    exact ⟨calls, same [], writes.written⟩
  · intro data link s isOpen
    exact exists_written honest data isOpen s
  · intro uses link s
    exact exists_accounted honest uses link s

/-- A device that takes two bytes, then one, and then nothing. -/
def hesitant : MeteredDevice where
  limits := [.ok 2, .ok 1, .ok 0]

theorem honest_metered : MeteredDevice.transport.Honest := by
  intro data device count answered
  unfold MeteredDevice.transport MeteredDevice.write at answered
  dsimp only at answered
  split at answered
  next => cases answered
  next =>
    cases answered
    exact List.length_take_le' _ _
  next =>
    cases answered
    exact Nat.le_refl _

/-- A link that is not read from. -/
def unread : Link where
  port := "tty"
  vehicle := ⟨1, 1⟩
  maxFailures := 3
  reader := .ended

/-- The first of two writes is taken in two parts, and the second one not at all. -/
theorem writes_accounted_hesitant :
    MeteredDevice.transport.Honest ∧
      Accounted MeteredDevice.transport unread hesitant [.write [1, 2, 3], .write [4]]
        [.write [1, 2, 3] (.ok 2), .write [3] (.ok 1), .flush (.ok ()), .write [4] (.ok 0)] ∧
      (useAll MeteredDevice.transport [.write [1, 2, 3], .write [4]] unread hesitant).1 =
        [([1, 2, 3], .ok ()), ([4], .error (.ofKind .writeZero))] := by
  obtain ⟨calls, accounted⟩ := (writes_accounted honest_metered).2.2
    [.write [1, 2, 3], .write [4]] unread hesitant
  have asked := congrArg (fun used => used.2.2.2) (accounted.recorded [])
  have answers : (useAll MeteredDevice.transport.recorded [.write [1, 2, 3], .write [4]] unread
      (hesitant, [])).2.2.2 =
        [.write [1, 2, 3] (.ok 2), .write [3] (.ok 1), .flush (.ok ()), .write [4] (.ok 0)] := by
    simp [useAll, use, Link.write, unread, hesitant, Transport.writeAll, Transport.recorded,
      MeteredDevice.transport, MeteredDevice.write]
  have outcomes : (useAll MeteredDevice.transport [.write [1, 2, 3], .write [4]] unread
      hesitant).1 = [([1, 2, 3], .ok ()), ([4], .error (.ofKind .writeZero))] := by
    simp [useAll, use, Link.write, unread, hesitant, Transport.writeAll, MeteredDevice.transport,
      MeteredDevice.write]
  rw [answers] at asked
  exact ⟨honest_metered, asked ▸ accounted, outcomes⟩

end Link

end MavBridge
