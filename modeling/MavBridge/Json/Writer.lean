import MavBridge.Json.Basic
import MavBridge.Number.Shortest
import MavBridge.Text.Hex

/-!
Texts of JSON values, on one line or with a line for each item.
-/

namespace MavBridge.Json

/-- The choices of a text: line breaks, what follows a colon, and the forms of reals and of
characters in a text. -/
structure Style where
  /-- What stands before an item at a depth. -/
  lineBreak : Nat → List Char
  colon : List Char
  real : Binary64 → List Char
  char : Char → List Char

/-- A character by the number of its code unit. -/
def unitEscape (unit : Nat) : List Char :=
  '\\' :: 'u' :: Hex.digits 4 unit

/-- Quotes, backslashes and control characters are escaped, with a letter where there is one. -/
def escapeChar (char : Char) : List Char :=
  if char = '"' then ['\\', '"']
  else if char = '\\' then ['\\', '\\']
  else if char = '\n' then ['\\', 'n']
  else if char = '\r' then ['\\', 'r']
  else if char = '\t' then ['\\', 't']
  else if char.toNat = 8 then ['\\', 'b']
  else if char.toNat = 12 then ['\\', 'f']
  else if char.toNat < 0x20 then unitEscape char.toNat
  else [char]

/-- Everything on one line, without spaces. -/
def Style.compact : Style where
  lineBreak _ := []
  colon := [':']
  real := Shortest.text
  char := escapeChar

/-- A character in ASCII: a further one by the numbers of its UTF-16 code units. -/
def escapeToAscii (char : Char) : List Char :=
  if char.toNat < 0x7F then escapeChar char
  else if char.toNat < 0x10000 then unitEscape char.toNat
  else
    unitEscape (0xD800 + (char.toNat - 0x10000) / 0x400)
      ++ unitEscape (0xDC00 + (char.toNat - 0x10000) % 0x400)

/-- A line for each item, indented by two spaces a level. -/
def Style.pretty : Style :=
  { Style.compact with
    lineBreak := fun level => '\n' :: List.replicate (2 * level) ' '
    colon := [':', ' '] }

def quote (style : Style) (text : String) : List Char :=
  '"' :: text.toList.flatMap style.char ++ ['"']

def integer (value : Int) : List Char :=
  if value < 0 then '-' :: Nat.toDigits 10 value.natAbs else Nat.toDigits 10 value.natAbs

mutual

/-- The text of a value whose line is at `level`. What denotes nothing is written as null. -/
def write (style : Style) (level : Nat) : Json → List Char
  | null => ['n', 'u', 'l', 'l']
  | malformed => ['n', 'u', 'l', 'l']
  | bool true => ['t', 'r', 'u', 'e']
  | bool false => ['f', 'a', 'l', 's', 'e']
  | int value => integer value
  | real value => style.real value
  | str value => quote style value
  | arr [] => ['[', ']']
  | arr (item :: items) =>
      '[' :: style.lineBreak (level + 1) ++ write style (level + 1) item
        ++ writeItems style (level + 1) items ++ style.lineBreak level ++ [']']
  | obj [] => ['{', '}']
  | obj ((key, value) :: fields) =>
      '{' :: style.lineBreak (level + 1) ++ quote style key ++ style.colon
        ++ write style (level + 1) value ++ writeFields style (level + 1) fields
        ++ style.lineBreak level ++ ['}']

def writeItems (style : Style) (level : Nat) : List Json → List Char
  | [] => []
  | item :: items =>
      ',' :: style.lineBreak level ++ write style level item ++ writeItems style level items

def writeFields (style : Style) (level : Nat) : List (String × Json) → List Char
  | [] => []
  | (key, value) :: fields =>
      ',' :: style.lineBreak level ++ quote style key ++ style.colon ++ write style level value
        ++ writeFields style level fields

end

/-- The text of a value. -/
def render (style : Style) (value : Json) : String := String.ofList (value.write style 0)

end MavBridge.Json
