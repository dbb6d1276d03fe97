import MavBridge.Json.Basic
import MavBridge.Text.Hex

/-!
The words of a JSON text. White space between them is dropped; a number is taken as far as its
grammar goes, and a text up to its closing quote with its escapes resolved.
-/

namespace MavBridge.Json

inductive Token where
  | leftBrace
  | rightBrace
  | leftBracket
  | rightBracket
  | colon
  | comma
  /-- A number or one of the three names. -/
  | scalar (value : Json)
  /-- A text, or `none` when it holds half of a surrogate pair. -/
  | text (value : Option String)
  deriving Repr, Inhabited

namespace Token

def isSpace (char : Char) : Bool := char == ' ' || char == '\n' || char == '\r' || char == '\t'

def isDigit (char : Char) : Bool := '0' ≤ char && char ≤ '9'

def digitValue (char : Char) : Nat := char.toNat - '0'.toNat

/-- The number that decimal digits write. -/
def naturalOf (digits : List Char) : Nat :=
  digits.foldl (fun value char => 10 * value + digitValue char) 0

/-- What an escape of one letter stands for. -/
def escaped? : Char → Option Char
  | '"' => some '"'
  | '\\' => some '\\'
  | '/' => some '/'
  | 'b' => some (Char.ofNat 8)
  | 'f' => some (Char.ofNat 12)
  | 'n' => some '\n'
  | 'r' => some '\r'
  | 't' => some '\t'
  | _ => none

/-- The code units of a text after its opening quote, and what follows its closing one. -/
def readText : List Char → Option (List Nat × List Char)
  | [] => none
  | '"' :: rest => some ([], rest)
  | '\\' :: 'u' :: a :: b :: c :: d :: rest =>
      match Hex.number? [a, b, c, d], readText rest with
      | some unit, some (units, after) => some (unit :: units, after)
      | _, _ => none
  | '\\' :: letter :: rest =>
      match escaped? letter, readText rest with
      | some char, some (units, after) => some (char.toNat :: units, after)
      | _, _ => none
  | char :: rest =>
      if char.toNat < 0x20 then none
      else
        match readText rest with
        | some (units, after) => some (char.toNat :: units, after)
        | none => none

section Steps

variable {char letter : Char} {rest : List Char}

theorem readText_letter (escapes : escaped? letter = some char) :
    readText ('\\' :: letter :: rest) =
      (readText rest).map fun (units, after) => (char.toNat :: units, after) := by
  have isLetter : letter ≠ 'u' := by
    rintro rfl
    cases escapes
  rw [readText]
  · rw [escapes]
    cases readText rest <;> rfl
  · intro a b c d later isUnit
    exact absurd isUnit isLetter

theorem readText_unit {a b c d : Char} {unit : Nat}
    (written : Hex.number? [a, b, c, d] = some unit) :
    readText ('\\' :: 'u' :: a :: b :: c :: d :: rest) =
      (readText rest).map fun (units, after) => (unit :: units, after) := by
  rw [readText, written]
  cases readText rest <;> rfl

theorem readText_plain (notQuote : char ≠ '"') (notEscape : char ≠ '\\')
    (isPrinted : ¬ char.toNat < 0x20) :
    readText (char :: rest) =
      (readText rest).map fun (units, after) => (char.toNat :: units, after) := by
  rw [readText, if_neg isPrinted]
  · cases readText rest <;> rfl
  · exact notQuote
  · intro a b c d later isEscape
    exact absurd isEscape notEscape
  · intro other later isEscape
    exact absurd isEscape notEscape

end Steps

def isHighSurrogate (unit : Nat) : Bool := 0xD800 ≤ unit && unit ≤ 0xDBFF

def isLowSurrogate (unit : Nat) : Bool := 0xDC00 ≤ unit && unit ≤ 0xDFFF

/-- The characters of code units; a surrogate counts only as half of a pair. -/
def joinUnits : List Nat → Option (List Char)
  | [] => some []
  | unit :: rest =>
      if isHighSurrogate unit then
        match rest with
        | low :: after =>
            if isLowSurrogate low then
              (joinUnits after).map
                (Char.ofNat (0x10000 + (unit - 0xD800) * 0x400 + (low - 0xDC00)) :: ·)
            else none
        | [] => none
      else if isLowSurrogate unit then none
      else (joinUnits rest).map (Char.ofNat unit :: ·)

/-- The value of a whole number: -0 and what exceeds 64 bits are real. -/
def integerValue (negative : Bool) (magnitude : Nat) : Json :=
  if negative then
    if magnitude = 0 ∨ 0x8000000000000000 < magnitude then realOf true magnitude 0
    else .int (-magnitude)
  else if magnitude < 0x10000000000000000 then .int magnitude
  else realOf false magnitude 0
where
  realOf (negative : Bool) (digits : Nat) (exponent : Int) : Json :=
    let value := Binary64.ofDecimal negative digits exponent
    if value.isFinite then .real value else .malformed

/-- The digits after a point, if there is one. -/
def readFraction : List Char → Option (Option (List Char) × List Char)
  | '.' :: rest =>
      if (rest.takeWhile isDigit).isEmpty then none
      else some (some (rest.takeWhile isDigit), rest.dropWhile isDigit)
  | rest => some (none, rest)

/-- The digits of an exponent with its sign. -/
def readPower (negative : Bool) (chars : List Char) : Option (Option Int × List Char) :=
  if (chars.takeWhile isDigit).isEmpty then none
  else
    let power : Int := naturalOf (chars.takeWhile isDigit)
    some (some (if negative then -power else power), chars.dropWhile isDigit)

/-- An exponent, if there is one. -/
def readExponent : List Char → Option (Option Int × List Char)
  | [] => some (none, [])
  | char :: rest =>
      if char = 'e' ∨ char = 'E' then
        match rest with
        | '+' :: rest => readPower false rest
        | '-' :: rest => readPower true rest
        | rest => readPower false rest
      else some (none, char :: rest)

/-- The digits before the point: a zero stands alone. -/
def readWhole : List Char → Option (List Char × List Char)
  | [] => none
  | char :: rest =>
      if char = '0' then some ([char], rest)
      else if isDigit char then some (char :: rest.takeWhile isDigit, rest.dropWhile isDigit)
      else none

/-- The value of a number from its parts. -/
def numberValue (negative : Bool) (whole : List Char) :
    Option (List Char) → Option Int → Json
  | none, none => integerValue negative (naturalOf whole)
  | fraction, exponent =>
      let places := fraction.getD []
      integerValue.realOf negative (naturalOf (whole ++ places))
        (exponent.getD 0 - places.length)

/-- A number without its sign. -/
def readUnsigned (negative : Bool) (chars : List Char) : Option (Json × List Char) := do
  let (whole, chars) ← readWhole chars
  let (fraction, chars) ← readFraction chars
  let (exponent, chars) ← readExponent chars
  return (numberValue negative whole fraction exponent, chars)

def readNumber : List Char → Option (Json × List Char)
  | '-' :: rest => readUnsigned true rest
  | chars => readUnsigned false chars

/-- The word that starts at a character other than a space. -/
def read? : List Char → Option (Token × List Char)
  | [] => none
  | '{' :: rest => some (.leftBrace, rest)
  | '}' :: rest => some (.rightBrace, rest)
  | '[' :: rest => some (.leftBracket, rest)
  | ']' :: rest => some (.rightBracket, rest)
  | ':' :: rest => some (.colon, rest)
  | ',' :: rest => some (.comma, rest)
  | '"' :: rest =>
      (readText rest).map fun (units, after) =>
        (.text ((joinUnits units).map String.ofList), after)
  | 'n' :: 'u' :: 'l' :: 'l' :: rest => some (.scalar .null, rest)
  | 't' :: 'r' :: 'u' :: 'e' :: rest => some (.scalar (.bool true), rest)
  | 'f' :: 'a' :: 'l' :: 's' :: 'e' :: rest => some (.scalar (.bool false), rest)
  | chars => (readNumber chars).map fun (value, after) => (.scalar value, after)

/-- No other word starts as a number does. -/
theorem read?_number {char : Char} (starts : isDigit char = true ∨ char = '-') (rest : List Char) :
    read? (char :: rest) =
      (readNumber (char :: rest)).map fun (value, after) => (.scalar value, after) := by
  unfold read?
  split
  case h_12 => rfl
  all_goals
    rename_i isOther
    cases isOther <;> exact absurd starts (by decide)

end Token

/-- The words of a text; every step takes at least one character, which `fuel` counts. -/
def tokensWith : (fuel : Nat) → List Char → Option (List Token)
  | _, [] => some []
  | 0, _ :: _ => none
  | fuel + 1, char :: rest =>
      if Token.isSpace char then tokensWith fuel rest
      else
        match Token.read? (char :: rest) with
        | none => none
        | some (token, after) => (tokensWith fuel after).map (token :: ·)

/-- The words of a text, if it has only words. -/
def tokens? (text : List Char) : Option (List Token) := tokensWith text.length text

end MavBridge.Json
