import MavBridge.Text.Blank
import MavBridge.Text.Pattern

/-!
What is told to the operator, and what of it is let through.

A filter is a list of directives with commas between them: a level, or the start of a module path,
an equals sign and a level. The directive with the longest start that fits a module decides; a
directive without one fits all. After a slash stands a pattern that every message has to contain a
match of.
-/

namespace MavBridge

inductive LogLevel where
  | error
  | warn
  | info
  | debug
  | trace
  deriving DecidableEq, Repr

/-- A message, with the module that it comes from. -/
structure LogEntry where
  level : LogLevel
  module : String
  message : String
  deriving DecidableEq, Repr

namespace LogLevel

def rank : LogLevel → Nat
  | error => 1
  | warn => 2
  | info => 3
  | debug => 4
  | trace => 5

def name : LogLevel → String
  | error => "ERROR"
  | warn => "WARN"
  | info => "INFO"
  | debug => "DEBUG"
  | trace => "TRACE"

/-- The highest rank that a level's name lets through; none does for `off`. -/
def rankOf? (text : List Char) : Option Nat :=
  let upper := String.ofList (text.map Char.toUpper)
  if upper = "OFF" then some 0
  else ([error, warn, info, debug, trace].find? fun level => level.name == upper).map rank

end LogLevel

/-- Up to which rank the messages of some modules are let through. -/
structure LogDirective where
  /-- How the path of the modules starts; all modules if there is nothing. -/
  start : Option (List Char)
  rank : Nat
  deriving DecidableEq, Repr

/-- How much of a module's path a directive fits. -/
def LogDirective.fit? (directive : LogDirective) (module : List Char) : Option Nat :=
  match directive.start with
  | none => some 0
  | some start => if start.isPrefixOf module then some start.length else none

structure LogFilter where
  directives : List LogDirective
  /-- What every message has to contain a match of. -/
  required : Option Pattern := none
  deriving DecidableEq, Repr

namespace LogFilter

/-- The parts of a text between the places of a character. -/
def splitAt (separator : Char) (text : List Char) : List (List Char) :=
  text.foldr (fun char parts =>
    if char = separator then [] :: parts
    else
      match parts with
      | part :: rest => (char :: part) :: rest
      | [] => [[char]]) [[]]

/-- The directive that a text writes, or what is wrong with it. -/
def readDirective (text : List Char) : Except (List Char) LogDirective :=
  match splitAt '=' text with
  | [whole] =>
      .ok (match LogLevel.rankOf? whole with
        | some rank => ⟨none, rank⟩
        | none => ⟨some whole, LogLevel.trace.rank⟩)
  | [start, level] =>
      if (Text.trim level).isEmpty then .ok ⟨some start, LogLevel.trace.rank⟩
      else
        match LogLevel.rankOf? (Text.trim level) with
        | some rank => .ok ⟨some start, rank⟩
        | none => .error (Text.trim level)
  | _ => .error text

/-- Add a directive, in place of one for the same modules. -/
def insert (directive : LogDirective) : List LogDirective → List LogDirective
  | [] => [directive]
  | other :: rest =>
      if other.start = directive.start then directive :: rest else other :: insert directive rest

def warning (complaint : String) : String := "warning: " ++ complaint ++ ", ignoring it"

def invalidSpec (text : List Char) : String :=
  "invalid logging spec '" ++ String.ofList text ++ "'"

/-- The first line of the warning about a pattern. -/
def patternWarning : String := "warning: invalid regex filter - regex parse error:"

/-- The pattern after a slash, if there is one, and a warning if it is none. -/
def readRequired : List (List Char) → List String × Option Pattern
  | [] => ([], none)
  | text :: _ =>
      match Pattern.read? text with
      | some pattern => ([], some pattern)
      | none => ([patternWarning], none)

/-- The filter that a text writes, and warnings about what is wrong with it. -/
def read (text : String) : List String × LogFilter :=
  let otherwise : List LogDirective := [⟨none, LogLevel.error.rank⟩]
  let build (directives : List LogDirective) := if directives.isEmpty then otherwise else directives
  match splitAt '/' text.toList with
  | first :: rest =>
      if 1 < rest.length then
        ([warning (invalidSpec text.toList ++ " (too many '/'s)")], ⟨otherwise, none⟩)
      else
        let parts := ((splitAt ',' first).map Text.trim).filter fun part => !part.isEmpty
        let read := parts.map readDirective
        let wrong := read.filterMap fun
          | .error wrong => some (warning (invalidSpec wrong))
          | .ok _ => none
        let directives := (read.filterMap (·.toOption)).foldl (fun all one => insert one all) []
        let (more, required) := readRequired rest
        (wrong ++ more, { directives := build directives, required })
  | [] => ([], ⟨otherwise, none⟩)

/-- The highest rank that is let through for a module. -/
def rankFor (filter : LogFilter) (module : String) : Nat :=
  (filter.directives.foldl (fun best directive =>
    match directive.fit? module.toList, best with
    | some fit, some (bestFit, rank) =>
        if bestFit ≤ fit then some (fit, directive.rank) else some (bestFit, rank)
    | some fit, none => some (fit, directive.rank)
    | none, best => best) (none : Option (Nat × Nat))).elim 0 (·.2)

def admits (filter : LogFilter) (entry : LogEntry) : Bool :=
  decide (entry.level.rank ≤ filter.rankFor entry.module)
    && filter.required.all (·.occursIn entry.message.toList)

end LogFilter

end MavBridge
