import MavBridge.Bytes
import MavBridge.Fault
import MavBridge.Text.Utf8

/-!
Directories and files in one tree, with the causes for which operations on them fail.

A path is the list of its names from the root, those of the working directory among them. `..` leads
to the directory above, and the root is above itself; a `.` stays, and at the end it stands for a
slash there, which only the path of a directory has. Everything but the last name has to be a
directory. The empty path names nothing. There are no links, so that the place a path leads to
depends on its names only.
-/

namespace MavBridge

abbrev FilePath := List String

namespace FilePath

/-- Where a name leads from a directory. -/
def enter (base : FilePath) (name : String) : FilePath :=
  if name = ".." then base.dropLast else if name = "." then base else base ++ [name]

/-- Where names lead one after the other. -/
def follow (base names : FilePath) : FilePath := names.foldl enter base

/-- Where a path leads: the names of the directories down to it, and its own. -/
def place (path : FilePath) : FilePath := follow [] path

/-- The path without slashes at its end. -/
def trimmed (path : FilePath) : FilePath := (path.reverse.dropWhile (· == ".")).reverse

/-- The path without its last name. -/
def parent (path : FilePath) : FilePath := path.trimmed.dropLast

/-- The last name; none if the path ends in the directory above. -/
def fileName? (path : FilePath) : Option String := path.trimmed.getLast?.filter (· ≠ "..")

/-- The names of a path that is written with slashes. -/
def ofText (text : String) : FilePath :=
  let names := text.splitOn "/"
  let slash := text ≠ "" ∧ (names.getLast? = some "" ∨ names.getLast? = some ".")
  names.filter (fun name => name ≠ "" ∧ name ≠ ".") ++ if slash then ["."] else []

/-- The text before the last dot, if there is such a dot after the first character. -/
def stem (name : List Char) : List Char :=
  let before := (name.reverse.dropWhile (· ≠ '.')).drop 1
  if before.isEmpty then name else before.reverse

/-- The path with another extension; a path that ends in no name stays as it is. -/
def withExtension (path : FilePath) (extension : String) : FilePath :=
  match path.fileName? with
  | none => path
  | some name => path.parent ++ [String.ofList (stem name.toList ++ '.' :: extension.toList)]

end FilePath

inductive FileNode where
  | directory
  | file (content : Bytes)
  deriving DecidableEq, Repr

/-- What stands at each place; the root is always there. -/
structure FileSystem where
  nodes : List (FilePath × FileNode) := []
  deriving DecidableEq, Repr

namespace FileSystem

/-- Bytes that a name may have. -/
def nameLimit : Nat := 255

/-- What stands at a place. -/
def node? (files : FileSystem) (place : FilePath) : Option FileNode :=
  if place.isEmpty then some .directory
  else (files.nodes.find? fun entry => entry.1 == place).map (·.2)

/-- Put something at a place, instead of what was there. -/
def put (files : FileSystem) (place : FilePath) (node : FileNode) : FileSystem :=
  ⟨(place, node) :: files.nodes.filter fun entry => entry.1 != place⟩

def remove (files : FileSystem) (place : FilePath) : FileSystem :=
  ⟨files.nodes.filter fun entry => entry.1 != place⟩

/-- A name leads from a directory to a directory. -/
def pass (files : FileSystem) (base : FilePath) (name : String) : Except IoKind Unit :=
  if nameLimit < name.utf8ByteSize then .error .invalidFilename
  else
    match files.node? (base.enter name) with
    | some .directory => .ok ()
    | some (.file _) => .error .notADirectory
    | none => .error .notFound

/-- Names lead one after the other from a directory to directories. -/
def walk (files : FileSystem) (base : FilePath) : FilePath → Except IoKind Unit
  | [] => .ok ()
  | name :: rest =>
      match files.pass base name with
      | .error kind => .error kind
      | .ok () => walk files (base.enter name) rest

/-- A path can be followed: it names something, and its directories are there. -/
def check (files : FileSystem) (path : FilePath) : Except IoKind Unit :=
  match path.getLast? with
  | none => .error .notFound
  | some name =>
      match files.walk [] path.dropLast with
      | .error kind => .error kind
      | .ok () => if nameLimit < name.utf8ByteSize then .error .invalidFilename else .ok ()

/-- The content of a file. -/
def read (files : FileSystem) (path : FilePath) : Except IoKind Bytes :=
  match files.check path with
  | .error kind => .error kind
  | .ok () =>
      match files.node? path.place with
      | some (.file content) => .ok content
      | some .directory => .error .isADirectory
      | none => .error .notFound

/-- The content of a file of text. -/
def readText (files : FileSystem) (path : FilePath) : Except Fault (List Char) :=
  match files.read path with
  | .error kind => .error (.ofSystem kind)
  | .ok content =>
      match Utf8.decode? content with
      | none => .error .notUtf8
      | some text => .ok text

/-- A file can be put where a path leads; `slash` is the cause against a slash at its end. -/
def checkFile (files : FileSystem) (path : FilePath) (slash : IoKind) : Except IoKind Unit :=
  if path.trimmed ≠ path then
    match files.walk [] path.parent with
    | .error kind => .error kind
    | .ok () => .error slash
  else
    match files.check path with
    | .error kind => .error kind
    | .ok () => if files.node? path.place = some .directory then .error .isADirectory else .ok ()

/-- Replace the content of a file, which need not be there yet. -/
def write (files : FileSystem) (path : FilePath) (content : Bytes) :
    Except IoKind Unit × FileSystem :=
  match files.checkFile path .isADirectory with
  | .error kind => (.error kind, files)
  | .ok () => (.ok (), files.put path.place (.file content))

/-- Make the directories that names lead to and that are not there yet; `made` says whether one has
been made before. A file in the place of the last one, or of one after the first that is made, is
found by making it. -/
def makeDirectories (made : Bool) (files : FileSystem) (base : FilePath) :
    FilePath → Except IoKind Unit × FileSystem
  | [] => (.ok (), files)
  | name :: rest =>
      if nameLimit < name.utf8ByteSize then (.error .invalidFilename, files)
      else
        match files.node? (base.enter name) with
        | some .directory => makeDirectories made files (base.enter name) rest
        | some (.file _) =>
            (.error (if made || rest.isEmpty then .alreadyExists else .notADirectory), files)
        | none =>
            makeDirectories true (files.put (base.enter name) .directory) (base.enter name) rest

/-- Make the directories of a path that are not there yet; `base` is where it starts. -/
def createDirectories (files : FileSystem) (base path : FilePath) :
    Except IoKind Unit × FileSystem :=
  files.makeDirectories false base path

/-- The files with one more, in directories that are made for it. -/
def withFile (files : FileSystem) (path : FilePath) (content : Bytes) : FileSystem :=
  ((files.createDirectories [] path.parent).2.write path content).2

/-- Give a file another path, in place of the file that was there. -/
def rename (files : FileSystem) (source target : FilePath) : Except IoKind Unit × FileSystem :=
  match files.read source, files.checkFile target .notADirectory with
  | .error kind, _ => (.error kind, files)
  | .ok _, .error kind => (.error kind, files)
  | .ok content, .ok () =>
      (.ok (), (files.remove source.place).put target.place (.file content))

/-- The names in a directory, in order. -/
def names (files : FileSystem) (directory : FilePath) : List String :=
  let found := files.nodes.filterMap fun entry =>
    if entry.1.dropLast = directory.place then entry.1.getLast? else none
  found.mergeSort fun a b => decide (a ≤ b)

end FileSystem

end MavBridge
