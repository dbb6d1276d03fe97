import MavBridge.Number.Binary

/-!
The values of a TOML text, and its tables while they are being filled.

A table remembers how it came to be, because that decides who may still add to it: a header may
define a table that so far was only implied by the headers of its children, and dotted keys may add
only to a table that dotted keys have made.
-/

namespace MavBridge

/-- How a table came to be. -/
inductive TableOrigin where
  /-- By a header of its own. -/
  | header
  /-- By the header of a table inside it. -/
  | implied
  /-- By dotted keys. -/
  | dotted
  /-- As a value between braces. -/
  | braces
  deriving DecidableEq, Repr, Inhabited

inductive Toml where
  | str (value : String)
  | int (value : Int)
  | real (value : Binary64)
  | bool (value : Bool)
  /-- A date, a time, or both. -/
  | moment
  | arr (items : List Toml)
  | table (origin : TableOrigin) (entries : List (String × Toml))
  /-- Tables with one header, the last one first. -/
  | tables (items : List (List (String × Toml)))
  deriving Repr, Inhabited

namespace Toml

/-- The entries of a table. -/
abbrev Entries := List (String × Toml)

def lookup? (entries : Entries) (key : String) : Option Toml :=
  (entries.find? fun entry => entry.1 == key).map (·.2)

/-- Put a value under a key, in place of what is there. -/
def put (key : String) (value : Toml) : Entries → Entries
  | [] => [(key, value)]
  | entry :: rest =>
      if entry.1 = key then (key, value) :: rest else entry :: put key value rest

/-- Add a value under a new key. -/
def add? (key : String) (value : Toml) (entries : Entries) : Option Entries :=
  if (lookup? entries key).isSome then none else some (entries ++ [(key, value)])

/-- Add a value under a dotted key, of which `path` is all but the last part. The last table on the
way must have been made by dotted keys, unless there is none on the way. -/
def addDotted? (mayEnd : Bool) : (path : List String) → (key : String) → Toml → Entries →
    Option Entries
  | [], key, value, entries => if mayEnd then add? key value entries else none
  | name :: path, key, value, entries =>
      match lookup? entries name with
      | none =>
          (addDotted? true path key value []).map fun inner =>
            entries ++ [(name, .table .dotted inner)]
      | some (.table .dotted inner) =>
          (addDotted? true path key value inner).map fun inner =>
            put name (.table .dotted inner) entries
      | some (.table .implied inner) =>
          (addDotted? false path key value inner).map fun inner =>
            put name (.table .implied inner) entries
      | some (.tables (last :: before)) =>
          (addDotted? false path key value last).map fun last =>
            put name (.tables (last :: before)) entries
      | _ => none

/-- Change the table that a header's path leads to; tables that are missing on the way are implied,
and of tables with one header the last is meant. -/
def alterAt? (change : Entries → Option Entries) : (path : List String) → Entries → Option Entries
  | [], entries => change entries
  | name :: path, entries =>
      match lookup? entries name with
      | none =>
          (alterAt? change path []).map fun inner => entries ++ [(name, .table .implied inner)]
      | some (.table .braces _) => none
      | some (.table origin inner) =>
          (alterAt? change path inner).map fun inner => put name (.table origin inner) entries
      | some (.tables (last :: before)) =>
          (alterAt? change path last).map fun last => put name (.tables (last :: before)) entries
      | _ => none

/-- Define the table under a key by its header. -/
def define? (key : String) (entries : Entries) : Option Entries :=
  match lookup? entries key with
  | none => some (entries ++ [(key, .table .header [])])
  | some (.table .implied inner) => some (put key (.table .header inner) entries)
  | _ => none

/-- Begin a further table under a key, with a header in double brackets. -/
def append? (key : String) (entries : Entries) : Option Entries :=
  match lookup? entries key with
  | none => some (entries ++ [(key, .tables [[]])])
  | some (.tables items) => some (put key (.tables ([] :: items)) entries)
  | _ => none

/-- A key, perhaps dotted: all but the last part, and the last part. -/
structure Path where
  before : List String
  last : String
  deriving DecidableEq, Repr, Inhabited

def Path.parts (path : Path) : List String := path.before ++ [path.last]

/-- A line of a text that says something. -/
inductive Statement where
  | entry (path : Path) (value : Toml)
  | header (path : Path)
  | furtherHeader (path : Path)
  deriving Repr, Inhabited

/-- The entries so far, and the path of the table to which the next line adds. -/
structure Draft where
  entries : Entries := []
  current : List String := []
  deriving Repr, Inhabited

/-- Let a line take effect. -/
def Draft.apply? (draft : Draft) : Statement → Option Draft
  | .entry path value =>
      (alterAt? (addDotted? true path.before path.last value) draft.current draft.entries).map
        fun entries => { draft with entries }
  | .header path =>
      (alterAt? (define? path.last) path.before draft.entries).map fun entries =>
        ⟨entries, path.parts⟩
  | .furtherHeader path =>
      (alterAt? (append? path.last) path.before draft.entries).map fun entries =>
        ⟨entries, path.parts⟩

/-- The entries that lines write. -/
def ofStatements? (statements : List Statement) : Option Entries :=
  (statements.foldlM Draft.apply? {}).map (·.entries)

end Toml

end MavBridge
