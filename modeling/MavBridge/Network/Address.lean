import MavBridge.Text.Hex

/-!
Internet addresses, as text and with a port.

The text of an address of the sixth version leaves out the longest run of zero groups, the first of
several, and ends in dotted form when it stands for an address of the fourth version.
-/

namespace MavBridge

inductive IpAddress where
  | v4 (octets : List Nat)
  | v6 (groups : List Nat)
  deriving DecidableEq, Repr, Inhabited

/-- An address with a port. -/
structure Endpoint where
  ip : IpAddress
  port : Nat
  deriving DecidableEq, Repr, Inhabited

namespace IpAddress

def digitValue? (base : Nat) (char : Char) : Option Nat := (Hex.value? char).filter (· < base)

/-- A number of at most `places` digits at the front. -/
def readNumber (base places : Nat) (chars : List Char) : Option (List Nat × List Char) :=
  let digits := (chars.takeWhile fun char => (digitValue? base char).isSome).filterMap
    (digitValue? base)
  if digits.isEmpty ∨ places < digits.length then none
  else some (digits, chars.drop digits.length)

def ofDigits (base : Nat) (digits : List Nat) : Nat := digits.foldl (fun n d => base * n + d) 0

/-- A decimal octet, without leading zeros. -/
def readOctet (chars : List Char) : Option (Nat × List Char) :=
  match readNumber 10 3 chars with
  | none => none
  | some (digits, rest) =>
      if (digits.head? = some 0 ∧ 1 < digits.length) ∨ 255 < ofDigits 10 digits then none
      else some (ofDigits 10 digits, rest)

/-- `count` octets with points between them. -/
def readOctets : (count : Nat) → List Char → Option (List Nat × List Char)
  | 0, chars => some ([], chars)
  | count + 1, chars =>
      match readOctet chars with
      | none => none
      | some (octet, rest) =>
          if count = 0 then some ([octet], rest)
          else
            match rest with
            | '.' :: rest =>
                (readOctets count rest).map fun (octets, rest) => (octet :: octets, rest)
            | _ => none

/-- The characters after the colon before a group; the first group has none. -/
def afterColon (isFirst : Bool) (chars : List Char) : Option (List Char) :=
  if isFirst then some chars
  else
    match chars with
    | ':' :: rest => some rest
    | _ => none

/-- Up to `limit` groups with colons between them, the last two perhaps in dotted form: the groups,
whether they end in dotted form, and the rest. -/
def readGroups (isFirst : Bool) : (limit : Nat) → List Char → List Nat × Bool × List Char
  | 0, chars => ([], false, chars)
  | limit + 1, chars =>
      let dotted := if limit = 0 then none else (afterColon isFirst chars).bind (readOctets 4)
      match dotted with
      | some ([a, b, c, d], rest) => ([256 * a + b, 256 * c + d], true, rest)
      | _ =>
          match (afterColon isFirst chars).bind (readNumber 16 4) with
          | none => ([], false, chars)
          | some (digits, rest) =>
              let (groups, isDotted, rest) := readGroups false limit rest
              (ofDigits 16 digits :: groups, isDotted, rest)

/-- The eight groups at the front. -/
def readV6 (chars : List Char) : Option (List Nat × List Char) :=
  let (head, isDotted, rest) := readGroups true 8 chars
  if head.length = 8 then some (head, rest)
  else if isDotted then none
  else
    match rest with
    | ':' :: ':' :: rest =>
        let (tail, _, rest) := readGroups true (7 - head.length) rest
        some (head ++ List.replicate (8 - head.length - tail.length) 0 ++ tail, rest)
    | _ => none

/-- The address that a text writes. -/
def ofText? (text : List Char) : Option IpAddress :=
  match readOctets 4 text, readV6 text with
  | some (octets, []), _ => some (.v4 octets)
  | _, some (groups, []) => some (.v6 groups)
  | _, _ => none

/-- The longest run of zeros among groups numbered from `start`: where it begins, and its length. -/
def zeroRun (start : Nat) : List Nat → Nat × Nat
  | [] => (start, 0)
  | group :: rest =>
      let here := ((group :: rest).takeWhile (· = 0)).length
      let (begin, length) := zeroRun (start + 1) rest
      if length ≤ here then (start, here) else (begin, length)

def joined (groups : List Nat) : List Char :=
  [':'].intercalate (groups.map (Nat.toDigits 16))

def dotted (octets : List Nat) : List Char :=
  ['.'].intercalate (octets.map (Nat.toDigits 10))

def text : IpAddress → List Char
  | v4 octets => dotted octets
  | v6 [0, 0, 0, 0, 0, 0xFFFF, high, low] =>
      "::ffff:".toList ++ dotted [high / 256, high % 256, low / 256, low % 256]
  | v6 groups =>
      let (start, length) := zeroRun 0 groups
      if 1 < length then
        joined (groups.take start) ++ [':', ':'] ++ joined (groups.drop (start + length))
      else joined groups

end IpAddress

namespace Endpoint

def text (endpoint : Endpoint) : String :=
  let ip := match endpoint.ip with
    | .v4 _ => endpoint.ip.text
    | .v6 _ => '[' :: endpoint.ip.text ++ [']']
  String.ofList (ip ++ ':' :: Nat.toDigits 10 endpoint.port)

end Endpoint

end MavBridge
