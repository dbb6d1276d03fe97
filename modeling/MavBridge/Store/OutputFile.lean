import MavBridge.Json.Writer
import MavBridge.Output.Config
import MavBridge.Store.FileSystem
import MavBridge.Text.Utf8

/-!
The list of outputs in a file.

A file that is not there is an empty list, and an entry that is no configuration is passed over. The
list is written to a file of its own first, which then takes the place of the old one.
-/

namespace MavBridge.OutputFile

/-- The entries of a list of outputs; none for one that is no configuration. -/
def ofText? (text : List Char) : Option (List (Option OutputConfig)) :=
  match Json.parse? text with
  | some (.arr items) => some (items.map fun item => OutputConfig.ofJson? item.lastWins)
  | _ => none

/-- The text of a list of outputs. -/
def text (outputs : List OutputConfig) : String :=
  (Json.arr (outputs.map (·.toJson))).render .pretty

/-- The entries of the file. -/
def entries (files : FileSystem) (path : FilePath) : Except Fault (List (Option OutputConfig)) :=
  match files.readText path with
  | .error (.io .notFound _) => .ok []
  | .error fault => .error fault
  | .ok text =>
      match ofText? text with
      | none => .error .json
      | some found => .ok found

/-- The outputs in the file. -/
def load (files : FileSystem) (path : FilePath) : Except Fault (List OutputConfig) :=
  (entries files path).map fun found => found.filterMap id

/-- Where the list is written first. -/
def temporary (path : FilePath) : FilePath := path.withExtension "json.tmp"

/-- Steps that fail although the files would allow them. -/
structure Mishap where
  directories : Option Fault := none
  text : Option Fault := none
  /-- Writing fails after some bytes, or before the file is opened. -/
  write : Option (Fault × Option Nat) := none
  rename : Option Fault := none
  deriving Repr

variable (mishap : Mishap) (path : FilePath)

/-- Make the directory of the file. -/
def prepare (files : FileSystem) : Except Fault Unit × FileSystem :=
  match mishap.directories with
  | some fault => (.error fault, files)
  | none =>
      ((files.createDirectories [] path.parent).1.mapError Fault.ofSystem,
        (files.createDirectories [] path.parent).2)

/-- Write the list beside the file. -/
def stage (outputs : List OutputConfig) (files : FileSystem) : Except Fault Unit × FileSystem :=
  let content := Utf8.encode (text outputs).toList
  match mishap.text, mishap.write with
  | some fault, _ => (.error fault, files)
  | none, some (fault, none) => (.error fault, files)
  | none, some (fault, some count) =>
      (.error fault, (files.write (temporary path) (content.take count)).2)
  | none, none =>
      ((files.write (temporary path) content).1.mapError Fault.ofSystem,
        (files.write (temporary path) content).2)

/-- Let what was written take the place of the file. -/
def commit (files : FileSystem) : Except Fault Unit × FileSystem :=
  match mishap.rename with
  | some fault => (.error fault, files)
  | none =>
      ((files.rename (temporary path) path).1.mapError Fault.ofSystem,
        (files.rename (temporary path) path).2)

/-- Replace the list in the file. -/
def save (outputs : List OutputConfig) (files : FileSystem) : Except Fault Unit × FileSystem :=
  match prepare mishap path files with
  | (.error fault, files) => (.error fault, files)
  | (.ok (), files) =>
      match stage mishap path outputs files with
      | (.error fault, files) => (.error fault, files)
      | (.ok (), files) => commit mishap path files

end MavBridge.OutputFile
