import MavBridge.Link.Handshake

/-!
A link to a vehicle: one reader, which retries, and writes that are never mixed.

The reader hands over the replay of the handshake first, then every chunk that it reads. When
polling fails too often in a row the link is dead, and stays dead.
-/

namespace MavBridge

structure LinkOptions where
  handshakeTimeout : Duration := .ofSeconds 10
  /-- Failures in a row after which the link is dead. -/
  maxFailures : Nat := 10
  deriving DecidableEq, Repr

/-- How far the reader has come. -/
inductive Reader where
  /-- Not started; what it is to hand over first. -/
  | waiting (replay : Bytes)
  /-- At work, after so many failures in a row. -/
  | reading (failures : Nat)
  | ended
  deriving DecidableEq, Repr

/-- A link to a vehicle. -/
structure Link where
  port : String
  vehicle : Identity
  maxFailures : Nat
  reader : Reader
  isOpen : Bool := true
  isAlive : Bool := true
  bytesWritten : Nat := 0
  deriving DecidableEq, Repr

namespace Link

/-- The pause after so many failures in a row: a tenth of a second for each, at most a second. -/
def backoff (failures : Nat) : Duration := .ofMilliseconds (min (100 * failures) 1000)

/-- Bytes that are read at most at a time. -/
def readLimit : Nat := 4096

/-- Failures in a row that the reader survives are fewer than this. -/
def budget (link : Link) : Nat := max 1 link.maxFailures

variable {σ : Type}

/-- The link to a vehicle that has been heard, with a second handle for the reader. -/
def ofGreeting (device : Transport σ) (port : String) (options : LinkOptions) (greeting : Greeting)
    (s : σ) : Except Fault Link × σ :=
  match device.duplicate s with
  | (.error fault, s) => (.error fault, s)
  | (.ok (), s) =>
      (.ok {
        port
        vehicle := greeting.vehicle
        maxFailures := options.maxFailures
        reader := .waiting greeting.replay }, s)

theorem eq_of_ofGreeting {device : Transport σ} {port : String} {options : LinkOptions}
    {greeting : Greeting} {s last : σ} {link : Link}
    (linked : ofGreeting device port options greeting s = (.ok link, last)) :
    link =
      { port
        vehicle := greeting.vehicle
        maxFailures := options.maxFailures
        reader := .waiting greeting.replay } := by
  unfold ofGreeting at linked
  split at linked
  next => cases linked
  next =>
    cases linked
    rfl

/-- Wait for a vehicle and make a link to it. -/
def attach {δ : Type} [MessageDecoder δ] (device : Transport σ) (port : String)
    (options : LinkOptions) (decoder : δ) (s : σ) : Except Fault Link × δ × σ :=
  match device.handshake options.handshakeTimeout decoder s with
  | (.error fault, decoder, s) => (.error fault, decoder, s)
  | (.ok greeting, decoder, s) =>
      let (link, s) := ofGreeting device port options greeting s
      (link, decoder, s)

/-- Write bytes; only a whole success is counted. -/
def write (device : Transport σ) (data : Bytes) (link : Link) (s : σ) :
    Except Fault Unit × Link × σ :=
  if link.isOpen then
    match device.writeAll data s with
    | (.ok (), s) => (.ok (), { link with bytesWritten := link.bytesWritten + data.length }, s)
    | (.error fault, s) => (.error fault, link, s)
  else (.error .notConnected, link, s)

/-- Start the reader; the answer is what it hands over first. -/
def startReader (link : Link) : Except Fault Bytes × Link :=
  match link.reader with
  | .waiting replay => (.ok replay, { link with reader := .reading 0 })
  | _ => (.error (.alreadyRunning (link.port ++ " reader")), link)

def isReading (link : Link) : Bool :=
  match link.reader with
  | .reading _ => true
  | _ => false

/-- The outcome of one poll; the answer is what the reader hands over. -/
def observe (link : Link) (outcome : Except Fault Bytes) : Option Bytes × Link :=
  match link.reader, outcome with
  | .reading _, .ok [] => (none, { link with reader := .reading 0 })
  | .reading _, .ok chunk => (some chunk, { link with reader := .reading 0 })
  | .reading failures, .error _ =>
      if link.budget ≤ failures + 1 then (none, { link with reader := .ended, isAlive := false })
      else (none, { link with reader := .reading (failures + 1) })
  | _, _ => (none, link)

/-- A poll changes nothing but the reader, and whether the link is alive. -/
theorem exists_observe_eq (link : Link) (outcome : Except Fault Bytes) :
    ∃ reader isAlive, (link.observe outcome).2 = { link with reader, isAlive } := by
  unfold observe
  split
  · exact ⟨_, _, rfl⟩
  · exact ⟨_, _, rfl⟩
  · split <;> exact ⟨_, _, rfl⟩
  · exact ⟨_, _, rfl⟩

@[simp]
theorem isOpen_observe (link : Link) (outcome : Except Fault Bytes) :
    (link.observe outcome).2.isOpen = link.isOpen := by
  obtain ⟨reader, isAlive, same⟩ := link.exists_observe_eq outcome
  rw [same]

@[simp]
theorem bytesWritten_observe (link : Link) (outcome : Except Fault Bytes) :
    (link.observe outcome).2.bytesWritten = link.bytesWritten := by
  obtain ⟨reader, isAlive, same⟩ := link.exists_observe_eq outcome
  rw [same]

/-- What the reader does to learn the outcome: it reads what is there, or waits a little. -/
def pollDevice (device : Transport σ) (s : σ) : Except Fault Bytes × σ :=
  match device.available s with
  | (.error fault, s) => (.error fault, s)
  | (.ok 0, s) => device.read readLimit s
  | (.ok (count + 1), s) => device.read (min (count + 1) readLimit) s

/-- Whoever is handed bytes has failed, and the reader with it; the link does not notice. -/
def abandonReader (link : Link) : Link := { link with reader := .ended }

/-- Stop the reader and let go of the device. -/
def close (link : Link) : Link := { link with reader := .ended, isOpen := false, isAlive := false }

/-- Let the reader poll until a poll brings nothing, at most so many times; the answer is what it
hands over. -/
def readWhile (device : Transport σ) : (polls : Nat) → Link → σ → List Bytes × Link × σ
  | 0, link, s => ([], link, s)
  | polls + 1, link, s =>
      if link.isReading then
        let (outcome, s) := pollDevice device s
        let (chunk, link) := link.observe outcome
        match outcome with
        | .ok [] => ([], link, s)
        | _ =>
            let (chunks, link, s) := readWhile device polls link s
            (chunk.toList ++ chunks, link, s)
      else ([], link, s)

end Link

end MavBridge
