import MavBridge.Param.Exchange

/-!
Several requests one after the other; one that fails does not stop the rest.

The report has the last result under each name, and apart from it the last error.
-/

namespace MavBridge

/-- The report of a batch. -/
structure BatchReport (α : Type) where
  success : Bool := true
  values : List (String × α) := []
  errors : List (String × String) := []
  deriving Repr

/-- An entry of a batch that sets parameters. -/
structure ParamAssignment where
  name : String
  value : Binary64
  type : ParamType
  deriving DecidableEq, Repr

namespace BatchReport

variable {α : Type}

/-- `value` under `key`, in place of what was there. -/
def put {β : Type} (key : String) (value : β) : List (String × β) → List (String × β)
  | [] => [(key, value)]
  | entry :: rest => if entry.1 = key then (key, value) :: rest else entry :: put key value rest

/-- Add the outcome of one entry. -/
def record (report : BatchReport α) (name : String) : Except Fault α → BatchReport α
  | .ok value => { report with values := put name value report.values }
  | .error fault =>
      { report with success := false, errors := put name fault.message report.errors }

/-- Run entries in order. -/
def collect {σ ε : Type} (name : ε → String) (run : ε → σ → Except Fault α × σ) :
    List ε → BatchReport α → σ → BatchReport α × σ
  | [], report, s => (report, s)
  | entry :: rest, report, s =>
      let (outcome, s) := run entry s
      collect name run rest (report.record (name entry) outcome) s

end BatchReport

namespace Surroundings

variable {σ : Type}

/-- Read parameters one after the other. -/
def readBatch (around : Surroundings σ) (target : Identity) (names : List String) (s : σ) :
    BatchReport ParamValue × σ :=
  BatchReport.collect id (fun name => around.read target name) names {} s

/-- Set parameters one after the other. -/
def writeBatch (around : Surroundings σ) (target : Identity) (entries : List ParamAssignment)
    (s : σ) : BatchReport WriteResult × σ :=
  BatchReport.collect (·.name)
    (fun entry => around.write target entry.name entry.value entry.type) entries {} s

end Surroundings

end MavBridge
