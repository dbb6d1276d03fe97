import MavBridge.Text.Blank

/-!
Patterns that a text may contain a match of.

`Pattern.read?` reads the usual notation: characters, a dot for any character of a line, sets in
brackets, groups, alternatives, `*`, `+`, `?` and the two anchors. Repetition by numbers, flags, and
sets or backslashes within sets are not read. `Pattern.ends` says where a match from a given place
may end, and a text contains a match if one begins anywhere in it.
-/

namespace MavBridge

/-- A set of characters, as closed intervals or as all others. -/
structure CharSet where
  ranges : List (Char × Char)
  isNegated : Bool := false
  deriving DecidableEq, Repr

namespace CharSet

def contains (set : CharSet) (char : Char) : Bool :=
  (set.ranges.any fun range => range.1 ≤ char && char ≤ range.2) != set.isNegated

def single (char : Char) : CharSet := ⟨[(char, char)], false⟩

/-- Any character but a line break. -/
def any : CharSet := ⟨[('\n', '\n')], true⟩

/-- The set that a letter stands for behind a backslash; only ASCII counts as digit or letter. -/
def ofLetter? (letter : Char) : Option CharSet :=
  let blanks := Text.blankRanges.map fun range => (Char.ofNat range.1, Char.ofNat range.2)
  let digits := [('0', '9')]
  let words := ('_', '_') :: ('a', 'z') :: ('A', 'Z') :: digits
  match letter with
  | 'd' => some ⟨digits, false⟩
  | 'D' => some ⟨digits, true⟩
  | 's' => some ⟨blanks, false⟩
  | 'S' => some ⟨blanks, true⟩
  | 'w' => some ⟨words, false⟩
  | 'W' => some ⟨words, true⟩
  | 'n' => some (single '\n')
  | 'r' => some (single '\r')
  | 't' => some (single '\t')
  | _ => if letter.isAlphanum ∨ 127 < letter.toNat then none else some (single letter)

end CharSet

inductive Pattern where
  | empty
  | start
  | finish
  | char (set : CharSet)
  | both (first second : Pattern)
  | either (first second : Pattern)
  | many (body : Pattern)
  deriving DecidableEq, Repr

namespace Pattern

/-- Places that steps lead to from `places`, these included. -/
def reach (step : Nat → List Nat) : (steps : Nat) → List Nat → List Nat
  | 0, places => places
  | steps + 1, places => reach step steps (places ++ places.flatMap step).eraseDups

/-- Where a match from a place may end. Every step of a repetition that leads anywhere takes at
least one character. -/
def ends (text : List Char) : Pattern → Nat → List Nat
  | empty, place => [place]
  | start, place => if place = 0 then [place] else []
  | finish, place => if place = text.length then [place] else []
  | char set, place => if (text[place]?).any set.contains then [place + 1] else []
  | both first second, place => ((ends text first place).flatMap (ends text second)).eraseDups
  | either first second, place => (ends text first place ++ ends text second place).eraseDups
  | many body, place => reach (ends text body) (text.length - place) [place]

/-- A text contains a match. -/
def occursIn (pattern : Pattern) (text : List Char) : Bool :=
  (List.range (text.length + 1)).any fun place => !(pattern.ends text place).isEmpty

/-! ## Reading -/

/-- A group being read: the alternatives before, and the items of the last one in reverse. -/
structure Group where
  before : Option Pattern := none
  items : List Pattern := []
  deriving Repr, Inhabited

namespace Group

def last (group : Group) : Pattern := group.items.foldl (fun rest item => both item rest) empty

def close (group : Group) : Pattern :=
  group.before.elim group.last fun before => either before group.last

def add (group : Group) (item : Pattern) : Group := { group with items := item :: group.items }

def alternate (group : Group) : Group := { before := some group.close }

/-- Change the last item; there has to be one. -/
def amend? (group : Group) (change : Pattern → Pattern) : Option Group :=
  match group.items with
  | [] => none
  | item :: items => some { group with items := change item :: items }

end Group

/-- What the next character is read as. -/
inductive Mode where
  | plain
  /-- After a repetition, of which a question mark changes nothing more. -/
  | repeated
  | escaped
  /-- After an opening parenthesis, and after a question mark behind it. -/
  | opened
  | marked
  /-- In a set: what it has, and the character that may begin an interval. -/
  | set (set : CharSet) (isFirst : Bool) (low : Option Char) (isInterval : Bool)
  deriving Repr, Inhabited

structure Reading where
  outer : List Group := []
  group : Group := {}
  mode : Mode := .plain
  deriving Repr, Inhabited

namespace Reading

def add (reading : Reading) (item : Pattern) : Reading :=
  { reading with group := reading.group.add item, mode := .plain }

def amend? (reading : Reading) (change : Pattern → Pattern) : Option Reading :=
  (reading.group.amend? change).map fun group => { reading with group, mode := .repeated }

def begin (reading : Reading) : Reading :=
  { outer := reading.group :: reading.outer, mode := .opened }

def readPlain (reading : Reading) : Char → Option Reading
  | '(' => some reading.begin
  | ')' =>
      match reading.outer with
      | [] => none
      | group :: outer => some { outer, group := group.add reading.group.close }
  | '|' => some { reading with group := reading.group.alternate, mode := .plain }
  | '*' => reading.amend? many
  | '+' => reading.amend? fun item => both item (many item)
  | '?' => reading.amend? (either empty)
  | '.' => some (reading.add (char .any))
  | '^' => some (reading.add start)
  | '$' => some (reading.add finish)
  | '[' => some { reading with mode := .set ⟨[], false⟩ true none false }
  | '\\' => some { reading with mode := .escaped }
  | '{' => none
  | other => some (reading.add (char (.single other)))

/-- Read a character of a set. -/
def readMember (reading : Reading) (set : CharSet) (isFirst : Bool) (low : Option Char)
    (isInterval : Bool) (next : Char) : Option Reading :=
  let collected := set.ranges ++ low.toList.map fun char => (char, char)
  if next = '^' ∧ isFirst ∧ !set.isNegated then
    some { reading with mode := .set { set with isNegated := true } true none false }
  else if next = ']' ∧ !isFirst then
    let ranges := collected ++ if isInterval then [('-', '-')] else []
    some (reading.add (char { set with ranges }))
  else if next = '[' ∨ next = '\\' then none
  else if next = '-' ∧ low.isSome ∧ !isInterval then
    some { reading with mode := .set set false low true }
  else
    match low, isInterval with
    | some low, true =>
        if next < low then none
        else
          let ranges := set.ranges ++ [(low, next)]
          some { reading with mode := .set { set with ranges } false none false }
    | _, _ => some { reading with mode := .set { set with ranges := collected } false next false }

/-- Read one character. -/
def step? (reading : Reading) (next : Char) : Option Reading :=
  match reading.mode with
  | .plain => reading.readPlain next
  | .repeated =>
      if next = '?' then some { reading with mode := .plain } else reading.readPlain next
  | .escaped =>
      match next with
      | 'A' => some (reading.add start)
      | 'z' => some (reading.add finish)
      | letter => (CharSet.ofLetter? letter).map fun set => reading.add (char set)
  | .opened => if next = '?' then some { reading with mode := .marked } else reading.readPlain next
  | .marked => if next = ':' then some { reading with mode := .plain } else none
  | .set set isFirst low isInterval => reading.readMember set isFirst low isInterval next

end Reading

/-- The pattern that a text writes. -/
def read? (text : List Char) : Option Pattern := do
  let reading ← text.foldlM Reading.step? {}
  match reading.outer, reading.mode with
  | [], .plain => some reading.group.close
  | [], .repeated => some reading.group.close
  | _, _ => none

end Pattern

end MavBridge
