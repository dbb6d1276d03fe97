import MavBridge.Param.Value

/-!
Requests about parameters and the vehicle's echoes.

A call builds its frame, registers under the parameter's name, sends the frame, waits, and leaves,
which removes what is registered under its name. An echo goes to the call that is registered under
its name; the first one stays. Only one call may be registered under a name.

The steps of several calls may come in any order, also while another call is sending: `Step` has one
constructor for each. `perform` is a call that runs from start to end in some surroundings.
-/

namespace MavBridge

/-- How far a call has come. -/
inductive Stage where
  /-- The frame is built. -/
  | built
  /-- The name is registered, and the frame is being sent. -/
  | registered
  /-- The frame is sent. -/
  | waiting
  /-- The result is known, and the name is still registered. -/
  | leaving (result : Except Fault ParamValue)
  | returned (result : Except Fault ParamValue)
  deriving Repr

/-- One call; its slot holds the first echo. -/
structure Call where
  number : Nat
  name : String
  frame : Bytes
  stage : Stage := .built
  slot : Option ParamValue := none
  deriving Repr

/-- The calls, and which of them is registered under a name. -/
structure Exchange where
  builder : FrameBuilder := {}
  pending : List (String × Nat) := []
  calls : List Call := []
  issued : Nat := 0
  deriving Repr

namespace Exchange

def empty : Exchange := {}

def pendingCount (exchange : Exchange) : Nat := exchange.pending.length

/-- The call that is registered under a name. -/
def holder? (exchange : Exchange) (name : String) : Option Nat :=
  (exchange.pending.find? fun entry => entry.1 == name).map (·.2)

def call? (exchange : Exchange) (number : Nat) : Option Call :=
  exchange.calls.find? fun call => call.number == number

def alter (exchange : Exchange) (number : Nat) (change : Call → Call) : Exchange :=
  { exchange with
    calls := exchange.calls.map fun call => if call.number = number then change call else call }

/-- A call begins: its frame is built, or the name refused. -/
def start (exchange : Exchange) (target : Identity) (request : ParamRequest) :
    Except Fault Nat × Exchange :=
  match request.frame exchange.builder target with
  | (.error fault, builder) => (.error fault, { exchange with builder })
  | (.ok frame, builder) =>
      (.ok exchange.issued,
        { exchange with
          builder
          calls := exchange.calls ++ [{ number := exchange.issued, name := request.name, frame }]
          issued := exchange.issued + 1 })

/-- Register under the name, unless another call is. -/
def register (exchange : Exchange) (number : Nat) : Exchange :=
  match exchange.call? number with
  | some { name, stage := .built, .. } =>
      if (exchange.holder? name).isSome then
        exchange.alter number fun call =>
          { call with stage := .returned (.error (.paramBusy name)) }
      else
        { exchange.alter number fun call => { call with stage := .registered } with
          pending := (name, number) :: exchange.pending }
  | _ => exchange

/-- The frame has been sent, or has failed to be. -/
def sent (exchange : Exchange) (number : Nat) (outcome : Except Fault Unit) : Exchange :=
  match exchange.call? number with
  | some { stage := .registered, .. } =>
      exchange.alter number fun call =>
        { call with
          stage := match outcome with
            | .ok () => .waiting
            | .error fault => .leaving (.error fault) }
  | _ => exchange

/-- The waiting ends: with the echo if one has come, else because the time is up. -/
def conclude (exchange : Exchange) (number : Nat) : Exchange :=
  match exchange.call? number with
  | some { name, stage := .waiting, slot, .. } =>
      exchange.alter number fun call =>
        { call with
          stage := .leaving (match slot with
            | some value => .ok value
            | none => .error (.paramTimeout name)) }
  | _ => exchange

/-- Remove what is registered under the call's name, and return. -/
def leave (exchange : Exchange) (number : Nat) : Exchange :=
  match exchange.call? number with
  | some { name, stage := .leaving result, .. } =>
      { exchange.alter number fun call => { call with stage := .returned result } with
        pending := exchange.pending.filter fun entry => entry.1 != name }
  | _ => exchange

/-- Hand an echo to the call that is registered under its name; false when there is none. -/
def resolve (exchange : Exchange) (report : ParamReport) : Bool × Exchange :=
  match exchange.holder? report.name with
  | none => (false, exchange)
  | some number =>
      (true, exchange.alter number fun call =>
        { call with slot := call.slot <|> some (.ofReport report) })

/-- The steps that calls and the reader take. -/
inductive Step where
  | start (target : Identity) (request : ParamRequest)
  | register (number : Nat)
  | sent (number : Nat) (outcome : Except Fault Unit)
  | conclude (number : Nat)
  | leave (number : Nat)
  | resolve (report : ParamReport)

/-- One step; a call takes no step that is not its next. -/
def step (exchange : Exchange) : Step → Exchange
  | .start target request => (exchange.start target request).2
  | .register number => exchange.register number
  | .sent number outcome => exchange.sent number outcome
  | .conclude number => exchange.conclude number
  | .leave number => exchange.leave number
  | .resolve report => (exchange.resolve report).2

/-- Several steps. -/
def run (exchange : Exchange) (steps : List Step) : Exchange := steps.foldl step exchange

/-- The result of a call that has returned. -/
def result? (exchange : Exchange) (number : Nat) : Option (Except Fault ParamValue) :=
  match exchange.call? number with
  | some { stage := .returned result, .. } => some result
  | _ => none

end Exchange

/-- Surroundings in which a call runs from start to end. -/
structure Surroundings (σ : Type) where
  exchange : σ → Exchange
  put : Exchange → σ → σ
  /-- Send a frame; anything may happen meanwhile. -/
  send : Bytes → σ → Except Fault Unit × σ
  /-- Let happen what happens until the time is up. -/
  wait : σ → σ

namespace Surroundings

variable {σ : Type}

/-- Change the exchange. -/
def modify (around : Surroundings σ) (change : Exchange → Exchange) (s : σ) : σ :=
  around.put (change (around.exchange s)) s

/-- Send the frame of a registered call, wait, and leave. -/
def await (around : Surroundings σ) (number : Nat) (frame : Bytes) (s : σ) : σ :=
  let (outcome, s) := around.send frame s
  let s := around.modify (·.sent number outcome) s
  let s := match outcome with
    | .ok () => around.modify (·.conclude number) (around.wait s)
    | .error _ => s
  around.modify (·.leave number) s

/-- A whole call. -/
def perform (around : Surroundings σ) (target : Identity) (request : ParamRequest) (s : σ) :
    Except Fault ParamValue × σ :=
  match (around.exchange s).start target request with
  | (.error fault, exchange) => (.error fault, around.put exchange s)
  | (.ok number, exchange) =>
      let exchange := exchange.register number
      let s := around.put exchange s
      let s := match exchange.call? number with
        | some { stage := .registered, frame, .. } => around.await number frame s
        | _ => s
      (((around.exchange s).result? number).getD (.error (.paramTimeout request.name)), s)

/-- Read a parameter. -/
def read (around : Surroundings σ) (target : Identity) (name : String) (s : σ) :
    Except Fault ParamValue × σ :=
  around.perform target (.read name) s

/-- Set a parameter, and verify the echo. -/
def write (around : Surroundings σ) (target : Identity) (name : String) (value : Binary64)
    (type : ParamType) (s : σ) : Except Fault WriteResult × σ :=
  let (result, s) := around.perform target (.write name value type) s
  (result.map (.ofEcho value type), s)

end Surroundings

end MavBridge
