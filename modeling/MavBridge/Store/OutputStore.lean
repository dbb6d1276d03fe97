import MavBridge.Store.OutputFile

/-!
Where a list of outputs is kept.
-/

namespace MavBridge

inductive OutputStore where
  | memory (outputs : List OutputConfig)
  /-- Reading fails. -/
  | unreadable (outputs : List OutputConfig)
  /-- Writing fails. -/
  | unwritable (outputs : List OutputConfig)
  | file (path : FilePath) (files : FileSystem)
  deriving Repr, Inhabited

namespace OutputStore

def load : OutputStore → Except Fault (List OutputConfig)
  | memory outputs => .ok outputs
  | unreadable _ => .error (.other "get failed")
  | unwritable outputs => .ok outputs
  | file path files => OutputFile.load files path

def save (outputs : List OutputConfig) : OutputStore → Except Fault Unit × OutputStore
  | memory _ => (.ok (), memory outputs)
  | unreadable old => (.ok (), unreadable old)
  | unwritable old => (.error (.other "set failed"), unwritable old)
  | file path files => (OutputFile.save {} path outputs files).map id (file path)

end OutputStore

end MavBridge
