import MavBridge.Toml.Basic
import MavBridge.Toml.Text

/-!
The scalar values of a TOML text: texts, numbers, truth values, dates and times.

Whole numbers have 64 bits. Digits may be grouped with underscores, each between two digits.
-/

namespace MavBridge.Toml

/-- The value of a digit in a base. -/
def digitValue? (base : Nat) (char : Char) : Option Nat := (Hex.value? char).filter (· < base)

def isDigit (base : Nat) (char : Char) : Bool := (digitValue? base char).isSome

/-- The digits at the front, without the underscores between them, and the rest. -/
def readDigits (base : Nat) : List Char → Option (List Nat × List Char)
  | [] => none
  | char :: rest =>
      match digitValue? base char with
      | none => none
      | some value =>
          match rest with
          | '_' :: after =>
              (readDigits base after).map fun (values, rest) => (value :: values, rest)
          | next :: after =>
              if isDigit base next then
                (readDigits base (next :: after)).map fun (values, rest) => (value :: values, rest)
              else some ([value], next :: after)
          | [] => some ([value], [])

def ofDigits (base : Nat) (values : List Nat) : Nat :=
  values.foldl (fun number value => base * number + value) 0

/-- The digits of a decimal number before its point: a zero stands alone. -/
def readWhole : List Char → Option (List Nat × List Char)
  | '0' :: rest => some ([0], rest)
  | chars => readDigits 10 chars

def integer? (value : Int) : Option Toml :=
  if -0x8000000000000000 ≤ value ∧ value < 0x8000000000000000 then some (.int value) else none

/-- A number in a base other than ten, after its mark. -/
def readBased (base : Nat) (chars : List Char) : Option (Toml × List Char) :=
  (readDigits base chars).bind fun (values, rest) =>
    (integer? (ofDigits base values)).map fun value => (value, rest)

/-- The digits after a point, if there is one. -/
def readFraction : List Char → Option (List Nat × List Char)
  | '.' :: rest => readDigits 10 rest
  | rest => some ([], rest)

/-- An exponent, if there is one. -/
def readPower : List Char → Option (Int × List Char)
  | [] => some (0, [])
  | char :: rest =>
      if char = 'e' ∨ char = 'E' then
        match rest with
        | '-' :: rest =>
            (readDigits 10 rest).map fun (values, rest) => (-(ofDigits 10 values : Int), rest)
        | '+' :: rest =>
            (readDigits 10 rest).map fun (values, rest) => ((ofDigits 10 values : Int), rest)
        | rest => (readDigits 10 rest).map fun (values, rest) => ((ofDigits 10 values : Int), rest)
      else some (0, char :: rest)

/-- A number is real when it has a point or an exponent. -/
def isReal : List Char → Bool
  | char :: _ => char == '.' || char == 'e' || char == 'E'
  | [] => false

/-- A decimal number after its sign; one that exceeds every double is refused if it is positive. -/
def readDecimal (negative : Bool) (chars : List Char) : Option (Toml × List Char) := do
  let (whole, rest) ← readWhole chars
  if isReal rest then
    let (places, rest) ← readFraction rest
    let (power, rest) ← readPower rest
    let value := Binary64.ofDecimal negative (ofDigits 10 (whole ++ places)) (power - places.length)
    if value.isFinite || negative then some (.real value, rest) else none
  else
    let magnitude : Int := ofDigits 10 whole
    let value ← integer? (if negative then -magnitude else magnitude)
    some (value, rest)

/-- A number after its sign, or a name for a number that is not finite. -/
def readSigned (negative : Bool) : List Char → Option (Toml × List Char)
  | 'i' :: 'n' :: 'f' :: rest =>
      some (.real ⟨if negative then 0xFFF0000000000000 else 0x7FF0000000000000⟩, rest)
  | 'n' :: 'a' :: 'n' :: rest => some (.real .nan, rest)
  | chars => readDecimal negative chars

/-! ## Dates and times -/

/-- A number of just so many digits. -/
def readFixed (count : Nat) (chars : List Char) : Option (Nat × List Char) :=
  let digits := (chars.take count).filterMap (digitValue? 10)
  if digits.length = count then some (ofDigits 10 digits, chars.drop count) else none

def isLeapYear (year : Nat) : Bool := year % 4 == 0 && (year % 100 != 0 || year % 400 == 0)

def daysInMonth (year month : Nat) : Nat :=
  if month = 2 then if isLeapYear year then 29 else 28
  else if month = 4 ∨ month = 6 ∨ month = 9 ∨ month = 11 then 30
  else 31

/-- What follows a character that has to stand at the front. -/
def expect (char : Char) : List Char → Option (List Char)
  | [] => none
  | first :: rest => if first = char then some rest else none

/-- What follows a date. -/
def skipDate (chars : List Char) : Option (List Char) := do
  let (year, rest) ← readFixed 4 chars
  let (month, rest) ← readFixed 2 (← expect '-' rest)
  let (day, rest) ← readFixed 2 (← expect '-' rest)
  if 1 ≤ month ∧ month ≤ 12 ∧ 1 ≤ day ∧ day ≤ daysInMonth year month then some rest else none

/-- What follows the fraction of a second, if there is one. -/
def skipFraction : List Char → List Char
  | '.' :: rest => if rest.head?.any (isDigit 10) then rest.dropWhile (isDigit 10) else '.' :: rest
  | rest => rest

/-- What follows a time of day. -/
def skipTime (chars : List Char) : Option (List Char) := do
  let (hour, rest) ← readFixed 2 chars
  let (minute, rest) ← readFixed 2 (← expect ':' rest)
  let (second, rest) ← readFixed 2 (← expect ':' rest)
  if hour ≤ 23 ∧ minute ≤ 59 ∧ second ≤ 60 then some (skipFraction rest) else none

/-- What follows the offset of a time from the universal one, if there is one. -/
def skipOffset : List Char → Option (List Char)
  | [] => some []
  | char :: rest =>
      if char = 'Z' ∨ char = 'z' then some rest
      else if char = '+' ∨ char = '-' then do
        let (hour, rest) ← readFixed 2 rest
        let (minute, rest) ← readFixed 2 (← expect ':' rest)
        if hour ≤ 23 ∧ minute ≤ 59 then some rest else none
      else some (char :: rest)

/-- What follows a date and perhaps a time with its offset. After a space, only a digit can start a
time. -/
def skipMoment (chars : List Char) : Option (List Char) := do
  let rest ← skipDate chars
  match rest with
  | 'T' :: rest => skipOffset (← skipTime rest)
  | 't' :: rest => skipOffset (← skipTime rest)
  | ' ' :: next :: rest =>
      if isDigit 10 next then skipOffset (← skipTime (next :: rest)) else some (' ' :: next :: rest)
  | rest => some rest

def startsDate (chars : List Char) : Bool :=
  (chars.take 4).all (isDigit 10) && chars[4]? == some '-'

def startsTime (chars : List Char) : Bool :=
  (chars.take 2).all (isDigit 10) && chars[2]? == some ':'

/-! ## Scalars -/

/-- A scalar value at the front. -/
def readScalar (chars : List Char) : Option (Toml × List Char) :=
  match chars with
  | '"' :: _ => (readText chars).map fun (text, rest) => (.str (String.ofList text), rest)
  | '\'' :: _ => (readText chars).map fun (text, rest) => (.str (String.ofList text), rest)
  | 't' :: 'r' :: 'u' :: 'e' :: rest => some (.bool true, rest)
  | 'f' :: 'a' :: 'l' :: 's' :: 'e' :: rest => some (.bool false, rest)
  | '+' :: rest => readSigned false rest
  | '-' :: rest => readSigned true rest
  | '0' :: 'x' :: rest => readBased 16 rest
  | '0' :: 'o' :: rest => readBased 8 rest
  | '0' :: 'b' :: rest => readBased 2 rest
  | chars =>
      if startsDate chars then (skipMoment chars).map fun rest => (.moment, rest)
      else if startsTime chars then (skipTime chars).map fun rest => (.moment, rest)
      else readSigned false chars

end MavBridge.Toml
