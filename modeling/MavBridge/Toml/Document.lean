import MavBridge.Toml.Scalar

/-!
TOML texts: the values they write, and the texts of tables.
-/

namespace MavBridge.Toml

/-- Values may be nested this deep, and dotted keys have fewer parts than one more. -/
def depthLimit : Nat := 79

/-- Characters of a comment. -/
def isComment (char : Char) : Bool := !isControl char

/-- Drop blanks, line breaks and comments. -/
def dropFill (inComment : Bool) : List Char → List Char
  | [] => []
  | char :: rest =>
      if inComment ∧ isComment char then dropFill true rest
      else if isSpace char ∨ char = '\n' then dropFill false rest
      else if char = '#' then dropFill true rest
      else if char = '\r' ∧ rest.head? = some '\n' then dropFill false rest
      else char :: rest

/-! ## Keys -/

def isBare (char : Char) : Bool := char.isAlphanum || char == '_' || char == '-'

/-- One part of a key. -/
def readPart : List Char → Option (String × List Char)
  | '"' :: rest => (readQuoted .basic rest).map fun (text, rest) => (String.ofList text, rest)
  | '\'' :: rest => (readQuoted .literal rest).map fun (text, rest) => (String.ofList text, rest)
  | chars =>
      if (chars.takeWhile isBare).isEmpty then none
      else some (String.ofList (chars.takeWhile isBare), chars.dropWhile isBare)

/-- The parts of a key with points between them; every part takes at least one character, which
`fuel` counts. -/
def readParts : (fuel : Nat) → List Char → Option (List String × List Char)
  | 0, _ => none
  | fuel + 1, chars =>
      match readPart (chars.dropWhile isSpace) with
      | none => none
      | some (part, rest) =>
          match rest.dropWhile isSpace with
          | '.' :: rest => (readParts fuel rest).map fun (parts, rest) => (part :: parts, rest)
          | rest => some ([part], rest)

/-- A key, and what follows the spaces after it. -/
def readPath (chars : List Char) : Option (Path × List Char) :=
  (readParts chars.length chars).bind fun (parts, rest) =>
    if depthLimit < parts.length then none
    else parts.getLast?.map fun last => (⟨parts.dropLast, last⟩, rest)

/-! ## Values -/

/-- The items of an array after its bracket or a comma; every item takes at least one character,
which `fuel` counts. -/
def readItems (item : List Char → Option (Toml × List Char)) :
    (fuel : Nat) → List Char → Option (List Toml × List Char)
  | 0, _ => none
  | fuel + 1, chars =>
      match dropFill false chars with
      | ']' :: rest => some ([], rest)
      | chars =>
          match item chars with
          | none => none
          | some (value, rest) =>
              match dropFill false rest with
              | ',' :: rest =>
                  (readItems item fuel rest).map fun (values, rest) => (value :: values, rest)
              | ']' :: rest => some ([value], rest)
              | _ => none

/-- A key and its value, and what follows the spaces after it. -/
def readEntry (item : List Char → Option (Toml × List Char)) (chars : List Char) :
    Option (Path × Toml × List Char) := do
  let (path, rest) ← readPath chars
  let rest ← expect '=' rest
  let (value, rest) ← item (rest.dropWhile isSpace)
  return (path, value, rest.dropWhile isSpace)

/-- The entries of a table between braces, after its brace or a comma. -/
def readEntries (item : List Char → Option (Toml × List Char)) :
    (fuel : Nat) → List Char → Option (List (Path × Toml) × List Char)
  | 0, _ => none
  | fuel + 1, chars =>
      match readEntry item chars with
      | some (path, value, ',' :: rest) =>
          (readEntries item fuel rest).map fun (entries, rest) => ((path, value) :: entries, rest)
      | some (path, value, '}' :: rest) => some ([(path, value)], rest)
      | _ => none

/-- A table between braces. -/
def tableOf? (entries : List (Path × Toml)) : Option Toml :=
  (entries.foldlM (fun table entry => addDotted? true entry.1.before entry.1.last entry.2 table)
    []).map (.table .braces)

/-- A value, in which others may be nested so deep. -/
def readValue : (depth : Nat) → List Char → Option (Toml × List Char)
  | depth + 1, '[' :: rest =>
      (readItems (readValue depth) rest.length rest).map fun (items, rest) => (.arr items, rest)
  | depth + 1, '{' :: rest =>
      match rest.dropWhile isSpace with
      | '}' :: rest => some (.table .braces [], rest)
      | rest =>
          (readEntries (readValue depth) rest.length rest).bind fun (entries, rest) =>
            (tableOf? entries).map fun table => (table, rest)
  | _, chars => readScalar chars

/-! ## Lines -/

/-- What follows the end of a line: spaces, a comment, and a line break unless the text ends. -/
def afterLine? (chars : List Char) : Option (List Char) :=
  let rest := match chars.dropWhile isSpace with
    | '#' :: rest => rest.dropWhile isComment
    | rest => rest
  if rest.isEmpty then some [] else afterLineBreak? rest

/-- A line, from its first character that is no space, and what follows it; an empty line says
nothing. -/
def readLine (chars : List Char) : Option (Option Statement × List Char) :=
  match chars with
  | '[' :: '[' :: rest => do
      let (path, rest) ← readPath rest
      let rest ← afterLine? (← expect ']' (← expect ']' rest))
      return (some (.furtherHeader path), rest)
  | '[' :: rest => do
      let (path, rest) ← readPath rest
      let rest ← afterLine? (← expect ']' rest)
      return (some (.header path), rest)
  | chars =>
      match afterLine? chars with
      | some rest => some (none, rest)
      | none => do
          let (path, value, rest) ← readEntry (readValue depthLimit) chars
          return (some (.entry path value), ← afterLine? rest)

/-- The lines of a text; every line takes at least one character, which `fuel` counts. -/
def readLines : (fuel : Nat) → List Char → Option (List Statement)
  | 0, _ => none
  | fuel + 1, chars =>
      match chars.dropWhile isSpace with
      | [] => some []
      | chars =>
          match readLine chars with
          | none => none
          | some (statement, rest) =>
              (readLines fuel rest).map fun statements => statement.toList ++ statements

/-- The entries that a text writes; a mark of the byte order at its start is passed over. -/
def parse? (text : List Char) : Option Entries :=
  let text := match text with
    | char :: rest => if char.toNat = 0xFEFF then rest else char :: rest
    | [] => []
  (readLines (text.length + 1) text).bind ofStatements?

/-! ## Writing -/

/-- The text of a scalar; there is none for what stands in no settings, or for whole numbers that
exceed 64 bits. -/
def scalarText? : Toml → Option (List Char)
  | .str value => some (quote value.toList)
  | .int value =>
      (integer? value).map fun _ =>
        (if value < 0 then ['-'] else []) ++ Nat.toDigits 10 value.natAbs
  | .bool true => some "true".toList
  | .bool false => some "false".toList
  | _ => none

/-- A line with a key and its value. -/
def entryLine? (entry : String × Toml) : Option (List Char) :=
  (scalarText? entry.2).map fun text => entry.1.toList ++ " = ".toList ++ text ++ ['\n']

/-- A header and the lines below it. -/
def sectionText? (table : String × Entries) : Option (List Char) :=
  (table.2.mapM entryLine?).map fun lines =>
    '[' :: table.1.toList ++ ']' :: '\n' :: lines.flatten

/-- Tables of scalars, with an empty line between them. -/
def render? (sections : List (String × Entries)) : Option (List Char) :=
  (sections.mapM sectionText?).map fun texts => ['\n'].intercalate texts

end MavBridge.Toml
