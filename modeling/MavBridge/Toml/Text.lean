import MavBridge.Text.Hex

/-!
Texts in TOML: four ways to quote, each read back, and the one in which a text is written.

Between single quotes a text stands as it is; between double quotes a backslash starts an escape.
Three quotes let a text go over several lines, and then up to two quotes in a row may stand in it,
also at its end.
-/

namespace MavBridge.Toml

/-- A way to quote. -/
structure Quoting where
  quote : Char
  /-- Three quotes, and line breaks in the text. -/
  isBlock : Bool
  /-- A backslash starts an escape. -/
  escapes : Bool
  deriving DecidableEq, Repr

namespace Quoting

def basic : Quoting := ⟨'"', false, true⟩
def literal : Quoting := ⟨'\'', false, false⟩
def basicBlock : Quoting := ⟨'"', true, true⟩
def literalBlock : Quoting := ⟨'\'', true, false⟩

def delimiter (quoting : Quoting) : List Char :=
  List.replicate (if quoting.isBlock then 3 else 1) quoting.quote

end Quoting

/-- Control characters other than the tab. -/
def isControl (char : Char) : Bool := (char.toNat < 0x20 && char != '\t') || char.toNat == 0x7F

/-- Spaces and tabs. -/
def isSpace (char : Char) : Bool := char == ' ' || char == '\t'

/-- Drop spaces, tabs and line breaks. -/
def dropBlank : List Char → List Char
  | [] => []
  | char :: rest =>
      if isSpace char ∨ char = '\n' then dropBlank rest
      else if char = '\r' ∧ rest.head? = some '\n' then dropBlank rest
      else char :: rest

/-- What follows a line break at the front, if there is one. -/
def afterLineBreak? : List Char → Option (List Char)
  | '\n' :: rest => some rest
  | '\r' :: '\n' :: rest => some rest
  | _ => none

/-- The end of a text: the quotes that still belong to it, and what follows its closing ones. -/
def close? (quoting : Quoting) (chars : List Char) : Option (List Char × List Char) :=
  let run := (chars.takeWhile (· = quoting.quote)).length
  if quoting.isBlock then
    if run < 3 then none
    else
      some (List.replicate (min (run - 3) 2) quoting.quote, chars.drop (min run 5))
  else if run = 0 then none
  else some ([], chars.drop 1)

/-- The character of a code point in hexadecimal digits. -/
def codePoint? (digits : List Char) : Option Char :=
  (Hex.number? digits).bind fun value =>
    if h : value.isValidChar then some (Char.ofNatAux value h) else none

/-- What an escape of one letter stands for. -/
def escaped? (letter : Char) : Option Char :=
  match letter with
  | 'b' => some (Char.ofNat 8)
  | 't' => some '\t'
  | 'n' => some '\n'
  | 'f' => some (Char.ofNat 12)
  | 'r' => some '\r'
  | '"' => some '"'
  | '\\' => some '\\'
  | _ => none

/-- What an escape stands for, after its backslash. A backslash at the end of a line stands for
nothing, and takes the blanks after it along. -/
def escape? (quoting : Quoting) (chars : List Char) : Option (List Char × List Char) :=
  if quoting.isBlock ∧ (afterLineBreak? (chars.dropWhile isSpace)).isSome then
    some ([], dropBlank chars)
  else
    match chars with
    | 'u' :: rest =>
        if rest.length < 4 then none
        else (codePoint? (rest.take 4)).map fun char => ([char], rest.drop 4)
    | 'U' :: rest =>
        if rest.length < 8 then none
        else (codePoint? (rest.take 8)).map fun char => ([char], rest.drop 8)
    | letter :: rest => (escaped? letter).map fun char => ([char], rest)
    | [] => none

/-- The next piece of a text that does not end here. -/
def piece? (quoting : Quoting) : List Char → Option (List Char × List Char)
  | [] => none
  | '\\' :: rest => if quoting.escapes then escape? quoting rest else some (['\\'], rest)
  | char :: rest =>
      if isControl char then
        if quoting.isBlock then (afterLineBreak? (char :: rest)).map fun rest => (['\n'], rest)
        else none
      else some ([char], rest)

/-- A text up to its closing quotes; every piece takes a character at least, which `fuel` counts. -/
def readBody (quoting : Quoting) : (fuel : Nat) → List Char → Option (List Char × List Char)
  | 0, _ => none
  | fuel + 1, chars =>
      match close? quoting chars with
      | some found => some found
      | none =>
          match piece? quoting chars with
          | none => none
          | some (piece, rest) =>
              (readBody quoting fuel rest).map fun (text, after) => (piece ++ text, after)

/-- A text in one way to quote, after its opening quotes. A line break right after three quotes does
not belong to it. -/
def readQuoted (quoting : Quoting) (chars : List Char) : Option (List Char × List Char) :=
  let start := if quoting.isBlock then (afterLineBreak? chars).getD chars else chars
  readBody quoting start.length start

/-- A text. -/
def readText : List Char → Option (List Char × List Char)
  | '"' :: '"' :: '"' :: rest => readQuoted .basicBlock rest
  | '"' :: rest => readQuoted .basic rest
  | '\'' :: '\'' :: '\'' :: rest => readQuoted .literalBlock rest
  | '\'' :: rest => readQuoted .literal rest
  | _ => none

/-! ## Writing -/

/-- The length of the longest run of a character. -/
def longestRun (char : Char) (text : List Char) : Nat :=
  (text.foldl
    (fun (longest, run) c => if c = char then (max longest (run + 1), run + 1) else (longest, 0))
    (0, 0)).1

/-- How a text is quoted: in the first way that does not need escapes for anything but tabs, else
with escapes. -/
def quoting (text : List Char) : Quoting :=
  let hasBreak := text.contains '\n'
  let hasControl := text.any fun char => isControl char && char != '\n'
  let hasBackslash := text.contains '\\'
  let doubles := longestRun '"' text
  let singles := longestRun '\'' text
  if !hasControl && !hasBackslash && !hasBreak && doubles == 0 then .basic
  else if !hasControl && !hasBreak && singles == 0 then .literal
  else if !hasControl && !hasBackslash && decide (doubles ≤ 2) then .basicBlock
  else if !hasControl && decide (singles ≤ 2) then .literalBlock
  else if hasBreak then .basicBlock
  else .basic

/-- A character that does not stand for itself between double quotes; `run` counts the quotes right
before it. -/
def escapedForm? (isBlock : Bool) (run : Nat) (char : Char) : Option (List Char) :=
  if char = '"' then if run < (if isBlock then 2 else 0) then none else some ['\\', '"']
  else if char = '\\' then some ['\\', '\\']
  else if char = '\t' then some ['\\', 't']
  else if char = '\n' then if isBlock then none else some ['\\', 'n']
  else if char = '\r' then some ['\\', 'r']
  else if char.toNat = 8 then some ['\\', 'b']
  else if char.toNat = 12 then some ['\\', 'f']
  else if isControl char then
    some ('\\' :: 'u' :: (Hex.digits 4 char.toNat).map Char.toUpper)
  else none

/-- A text between double quotes. -/
def escapeBody (isBlock : Bool) : (run : Nat) → List Char → List Char
  | _, [] => []
  | run, char :: rest =>
      match escapedForm? isBlock run char with
      | some form => form ++ escapeBody isBlock 0 rest
      | none => char :: escapeBody isBlock (if char = '"' then run + 1 else 0) rest

/-- A text with its quotes. A line break follows three quotes if there is one in the text. -/
def quote (text : List Char) : List Char :=
  let q := quoting text
  q.delimiter
    ++ (if q.isBlock ∧ '\n' ∈ text then ['\n'] else [])
    ++ (if q.escapes then escapeBody q.isBlock 0 text else text)
    ++ q.delimiter

end MavBridge.Toml
