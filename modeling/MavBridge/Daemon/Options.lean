/-!
The options of the command line.

They are read in order. An option that takes a value takes it from behind an equals sign, a short
one also from the rest of its word, or else from the next word, unless that word is an option
itself. The value is judged only when the next option is read, or at the end; a word that is no
option is refused before that.
-/

namespace MavBridge

/-- The options that take a value. -/
inductive ValueOption where
  | config
  | port
  | baud
  deriving DecidableEq, Repr

/-- What a command line asks for. -/
structure Options where
  config : Option String := none
  port : Option String := none
  baudRate : Option UInt32 := none
  legacy : Bool := false
  deriving DecidableEq, Repr

/-- Why a command line asks for something else, or for nothing. -/
inductive OptionsEnd where
  | version
  | help
  | unexpected (word : String)
  | missingValue (option : ValueOption)
  | unexpectedValue (value flag : String)
  | repeated (option : String)
  | invalidBaud (value reason : String)
  deriving DecidableEq, Repr

namespace ValueOption

def ofLong? : String → Option ValueOption
  | "config" => some .config
  | "port" => some .port
  | "baud" => some .baud
  | _ => none

/-- The option as messages name it. -/
def title : ValueOption → String
  | config => "--config <CONFIG>"
  | port => "--port <PORT>"
  | baud => "--baud <BAUD>"

end ValueOption

namespace OptionsEnd

/-- The first line that the user reads. -/
def message : OptionsEnd → String
  | version => "setu-io 0.1.0"
  | help => "Serial protocol bridge and router"
  | unexpected word => "error: unexpected argument '" ++ word ++ "' found"
  | missingValue option =>
      "error: a value is required for '" ++ option.title ++ "' but none was supplied"
  | unexpectedValue value flag =>
      "error: unexpected value '" ++ value ++ "' for '" ++ flag ++ "' found; no more were expected"
  | repeated option => "error: the argument '" ++ option ++ "' cannot be used multiple times"
  | invalidBaud value reason =>
      "error: invalid value '" ++ value ++ "' for '" ++ ValueOption.baud.title ++ "': " ++ reason

/-- The command line was in order, and asked to be told something. -/
def isAnswer : OptionsEnd → Bool
  | version => true
  | help => true
  | _ => false

end OptionsEnd

namespace Options

/-! ## Values -/

/-- The magnitude that digits write, while it stays below a bound. -/
def magnitude (bound : Nat) (tooFar : String) : Nat → List Char → Except String Nat
  | value, [] => .ok value
  | value, char :: rest =>
      if !char.isDigit then .error "invalid digit found in string"
      else
        let value := 10 * value + (char.toNat - '0'.toNat)
        if bound ≤ value then .error tooFar else magnitude bound tooFar value rest

/-- The whole number that a text writes, of 64 bits with a sign. -/
def integer (text : List Char) : Except String Int :=
  let invalid := "invalid digit found in string"
  let large := "number too large to fit in target type"
  match text with
  | [] => .error "cannot parse integer from empty string"
  | ['+'] => .error invalid
  | ['-'] => .error invalid
  | '+' :: digits => (magnitude 0x8000000000000000 large 0 digits).map Int.ofNat
  | '-' :: digits =>
      (magnitude 0x8000000000000001 "number too small to fit in target type" 0 digits).map
        fun value => -Int.ofNat value
  | digits => (magnitude 0x8000000000000000 large 0 digits).map Int.ofNat

def baudOf (text : String) : Except OptionsEnd UInt32 :=
  match integer text.toList with
  | .error reason => .error (.invalidBaud text reason)
  | .ok value =>
      if 0 ≤ value ∧ value < 0x100000000 then .ok (UInt32.ofNat value.toNat)
      else .error (.invalidBaud text (toString value ++ " is not in 0..=4294967295"))

/-- Judge a value and keep it. -/
def store (options : Options) (option : ValueOption) (value : String) : Except OptionsEnd Options :=
  match option with
  | .config =>
      if options.config.isSome then .error (.repeated option.title)
      else if value.isEmpty then .error (.missingValue option)
      else .ok { options with config := some value }
  | .port =>
      if options.port.isSome then .error (.repeated option.title)
      else .ok { options with port := some value }
  | .baud =>
      if options.baudRate.isSome then .error (.repeated option.title)
      else (baudOf value).map fun rate => { options with baudRate := some rate }

/-! ## Words -/

/-- How far the words have been read. -/
structure Progress where
  options : Options := {}
  /-- An option that was read last, and its value if that has come. -/
  pending : Option (ValueOption × Option String) := none
  /-- After a double dash nothing is an option. -/
  isClosed : Bool := false
  deriving Repr

namespace Progress

/-- Judge the value of the option that was read last. -/
def settle (progress : Progress) : Except OptionsEnd Progress :=
  match progress.pending with
  | none => .ok progress
  | some (option, none) => .error (.missingValue option)
  | some (option, some value) =>
      (progress.options.store option value).map fun options =>
        { progress with options, pending := none }

/-- An option with its value, or with one to come. -/
def expect (progress : Progress) (option : ValueOption) (value : Option String) :
    Except OptionsEnd Progress := do
  let progress ← progress.settle
  match value with
  | none => return { progress with pending := some (option, none) }
  | some value => return { progress with options := ← progress.options.store option value }

/-- An option that ends the reading. -/
def finish {α : Type} (progress : Progress) (how : OptionsEnd) : Except OptionsEnd α := do
  let _ ← progress.settle
  .error how

def setLegacy (progress : Progress) : Except OptionsEnd Progress := do
  let progress ← progress.settle
  if progress.options.legacy then .error (.repeated "--legacy")
  else return { progress with options := { progress.options with legacy := true } }

/-- A word that starts with two dashes, which are left out here. -/
def readLong (progress : Progress) (word : List Char) : Except OptionsEnd Progress :=
  let name := String.ofList (word.takeWhile (· ≠ '='))
  let value := match word.dropWhile (· ≠ '=') with
    | [] => none
    | _ :: rest => some (String.ofList rest)
  match ValueOption.ofLong? name with
  | some option => progress.expect option value
  | none =>
      if name = "legacy" ∨ name = "version" ∨ name = "help" then
        match value with
        | some value => .error (.unexpectedValue value ("--" ++ name))
        | none =>
            if name = "legacy" then progress.setLegacy
            else progress.finish (if name = "version" then .version else .help)
      else .error (.unexpected ("--" ++ name))

/-- A word that starts with one dash, which is left out here. -/
def readShort (progress : Progress) : List Char → Except OptionsEnd Progress
  | [] => .ok progress
  | 'c' :: rest =>
      progress.expect .config (match rest with
        | [] => none
        | '=' :: value => some (String.ofList value)
        | value => some (String.ofList value))
  | 'V' :: _ => progress.finish .version
  | 'h' :: _ => progress.finish .help
  | char :: _ => .error (.unexpected (String.ofList ['-', char]))

def read (progress : Progress) (word : String) : Except OptionsEnd Progress :=
  if progress.isClosed then .error (.unexpected word)
  else
    match word.toList with
    | ['-', '-'] => .ok { progress with isClosed := true }
    | '-' :: '-' :: rest => progress.readLong rest
    | '-' :: char :: rest => progress.readShort (char :: rest)
    | _ =>
        match progress.pending with
        | some (option, none) => .ok { progress with pending := some (option, some word) }
        | _ => .error (.unexpected word)

end Progress

/-- What a command line asks for. -/
def read (words : List String) : Except OptionsEnd Options := do
  let progress ← words.foldlM Progress.read {}
  return (← progress.settle).options

end Options

end MavBridge
