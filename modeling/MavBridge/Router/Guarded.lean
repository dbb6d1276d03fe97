import MavBridge.Router.Basic

/-!
The operations of a router with its two locks.

One lock keeps the operations apart, and is held for all the work of one; the other guards the list
of outputs, and is held only to look at the list or to change it. Changes are told when both are
free. Whoever takes a lock that he holds already waits for ever.
-/

namespace MavBridge

inductive RouterLock where
  | operations
  | registry
  deriving DecidableEq, Repr

/-- A change that was told: the locks that were held then, the router, and what surrounded it. -/
structure RouterNews (ω χ : Type) where
  held : List RouterLock
  router : Router χ
  world : ω

/-- A router in the hands of one caller: the locks that he holds, and what he has told. -/
structure RouterCaller (ω χ : Type) where
  router : Router χ
  world : ω
  held : List RouterLock := []
  told : List (RouterNews ω χ) := []

/-- Work of a caller, without a result if it waits for ever. -/
abbrev Guarded (ω χ α : Type) := StateT (RouterCaller ω χ) Option α

namespace Guarded

variable {ω χ α : Type}

def acquire (lock : RouterLock) : Guarded ω χ Unit := fun caller =>
  if lock ∈ caller.held then none else some ((), { caller with held := lock :: caller.held })

def release (lock : RouterLock) : Guarded ω χ Unit := fun caller =>
  some ((), { caller with held := caller.held.erase lock })

/-- Work under a lock. -/
def holding (lock : RouterLock) (work : Guarded ω χ α) : Guarded ω χ α := do
  acquire lock
  let result ← work
  release lock
  return result

/-- Work on the router and its surroundings that takes no lock. -/
def act (work : Router χ → ω → α × Router χ × ω) : Guarded ω χ α := fun caller =>
  let (result, router, world) := work caller.router caller.world
  some (result, { caller with router, world })

/-- Look at the list of outputs. -/
def look (view : Router χ → α) : Guarded ω χ α :=
  holding .registry (act fun router world => (view router, router, world))

/-- Change the list of outputs. -/
def alter (change : Router χ → Router χ) : Guarded ω χ Unit :=
  holding .registry (act fun router world => ((), change router, world))

variable (outlets : Outlets ω χ)

def create (config : OutputConfig) : Guarded ω χ (Except Fault χ) :=
  act fun router world =>
    let (outcome, world) := outlets.create config world
    (outcome, router, world)

def stopChannel (channel : χ) : Guarded ω χ χ :=
  act fun router world =>
    let (channel, world) := outlets.stop channel world
    (channel, router, world)

def persist : Guarded ω χ Unit := do
  let configs ← look Router.configs
  act fun router world => ((), router, (outlets.save configs world).2)

/-- Note what is told now. -/
def note : Guarded ω χ Unit := fun caller =>
  some ((), { caller with told := caller.told ++ [⟨caller.held, caller.router, caller.world⟩] })

/-- Tell of a change; who is told asks for the status. -/
def announce : Guarded ω χ Unit := do
  note
  let status ← look (Router.status outlets)
  act fun router world => ((), router, outlets.announce status world)

/-- The end of an operation: a success is told. -/
def conclude (work : Guarded ω χ (Except Fault String)) : Guarded ω χ (Except Fault String) := do
  let outcome ← holding .operations work
  match outcome with
  | .ok _ => announce outlets
  | .error _ => pure ()
  return outcome

/-! The work of the operations, and the operations themselves. -/

def addSection (config : OutputConfig) : Guarded ω χ (Except Fault String) := do
  if config.kind = .unsupported then return .error (.unsupportedOutput config.id)
  else if (← look (·.find? config.id)).isSome then return .error (.duplicateOutput config.id)
  else
    match ← create outlets config with
    | .error fault => return .error fault
    | .ok channel =>
        alter (·.register config channel)
        persist outlets
        let note ← act fun router world => router.startNote outlets config channel world
        return .ok ("Output '" ++ config.id ++ "' added" ++ note)

/-- Take an output out of the list. -/
def withdraw (id : String) : Guarded ω χ (Option (RouterEntry χ)) :=
  holding .registry <| act fun router world =>
    match router.find? id with
    | none => (none, router, world)
    | some entry =>
        (some entry, { router with
          entries := router.entries.filter fun other => other.config.id != id }, world)

def removeSection (id : String) : Guarded ω χ (Except Fault String) := do
  match ← withdraw id with
  | none => return .error (.outputNotFound id)
  | some entry =>
      let channel ← stopChannel outlets entry.channel
      act fun router world => ((), router.retire id channel, world)
      persist outlets
      return .ok ("Output '" ++ id ++ "' removed")

/-- A channel that does not run is left alone. -/
def stopIfRunning (channel : χ) : Guarded ω χ χ :=
  if outlets.isRunning channel then stopChannel outlets channel else return channel

def updateSection (id : String) (change : OutputUpdate) : Guarded ω χ (Except Fault String) := do
  match ← look (·.find? id) with
  | none => return .error (.outputNotFound id)
  | some old =>
      let config := old.config.update change
      match ← create outlets config with
      | .error fault => return .error fault
      | .ok channel =>
          let stopped ← stopIfRunning outlets old.channel
          alter fun router =>
            (router.alter config.id fun entry => { entry with config, channel }).retire config.id
              stopped
          persist outlets
          let note ← act fun router world =>
            router.restartNote outlets config channel (outlets.isRunning old.channel) world
          return .ok ("Output '" ++ id ++ "' updated" ++ note)

def startSection (id : String) : Guarded ω χ (Except Fault String) := do
  match ← look (·.find? id) with
  | none => return .error (.outputNotFound id)
  | some entry =>
      if outlets.isRunning entry.channel then return .error (.alreadyRunning id)
      else act fun router world => router.startChannel outlets id entry.channel world

def stopSection (id : String) : Guarded ω χ (Except Fault String) := do
  match ← look (·.find? id) with
  | none => return .error (.outputNotFound id)
  | some entry =>
      if outlets.isRunning entry.channel then
        act fun router world => ((), router.stopChannel outlets id entry.channel world)
        return .ok ("Output '" ++ id ++ "' stopped")
      else return .error (.notRunning id)

/-- Nothing is restarted if there is no such output. -/
def restartSection (id : String) : Guarded ω χ (Option (Except Fault String)) := do
  match ← look (·.find? id) with
  | none => return none
  | some entry =>
      let channel ← stopChannel outlets entry.channel
      let outcome ← act fun router world =>
        (router.setChannel id channel).startChannel outlets id channel world
      return some outcome

def add (config : OutputConfig) : Guarded ω χ (Except Fault String) :=
  conclude outlets (addSection outlets config)

def remove (id : String) : Guarded ω χ (Except Fault String) :=
  conclude outlets (removeSection outlets id)

/-- A change to an unsupported kind is refused before anything is locked. -/
def update (id : String) (change : OutputUpdate) : Guarded ω χ (Except Fault String) :=
  if change.kind = some .unsupported then return .error (.unsupportedOutput id)
  else conclude outlets (updateSection outlets id change)

def start (id : String) : Guarded ω χ (Except Fault String) :=
  conclude outlets (startSection outlets id)

def stop (id : String) : Guarded ω χ (Except Fault String) :=
  conclude outlets (stopSection outlets id)

/-- Restart an output; this is told even if the start fails. -/
def restart (id : String) : Guarded ω χ (Except Fault String) := do
  match ← holding .operations (restartSection outlets id) with
  | none => return .error (.outputNotFound id)
  | some outcome =>
      announce outlets
      return outcome

end Guarded

end MavBridge
