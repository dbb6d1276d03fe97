import MavBridge.Bytes

/-!
UTF-8, read strictly and leniently.

`scan` cuts bytes into characters and maximal invalid pieces: an invalid piece is the longest start
of a well-formed sequence that its next byte breaks off, or a single byte that starts none. The
lenient reading puts one replacement character for each such piece.
-/

namespace MavBridge.Utf8

def isContinuation (byte : UInt8) : Bool := 0x80 ≤ byte && byte ≤ 0xBF

/-- The second bytes that may follow a lead byte of three or four bytes. -/
def admitsSecond (lead second : UInt8) : Bool :=
  if lead = 0xE0 then 0xA0 ≤ second && second ≤ 0xBF
  else if lead = 0xED then 0x80 ≤ second && second ≤ 0x9F
  else if lead = 0xF0 then 0x90 ≤ second && second ≤ 0xBF
  else if lead = 0xF4 then 0x80 ≤ second && second ≤ 0x8F
  else isContinuation second

/-- The payload bits of a continuation byte, appended to `high`. -/
def append (high : Nat) (byte : UInt8) : Nat := high * 64 + byte.toNat % 64

/-- The first character, or `none` for an invalid piece, and how many bytes follow `lead` in it. -/
def head (lead : UInt8) (rest : Bytes) : Option Char × Nat :=
  if lead < 0x80 then (some (Char.ofNat lead.toNat), 0)
  else if 0xC2 ≤ lead ∧ lead ≤ 0xDF then
    match rest with
    | b :: _ =>
        if isContinuation b then (some (Char.ofNat (append (lead.toNat % 32) b)), 1) else (none, 0)
    | [] => (none, 0)
  else if 0xE0 ≤ lead ∧ lead ≤ 0xEF then
    match rest with
    | b :: c :: _ =>
        if admitsSecond lead b then
          if isContinuation c then
            (some (Char.ofNat (append (append (lead.toNat % 16) b) c)), 2)
          else (none, 1)
        else (none, 0)
    | [b] => (none, if admitsSecond lead b then 1 else 0)
    | [] => (none, 0)
  else if 0xF0 ≤ lead ∧ lead ≤ 0xF4 then
    match rest with
    | b :: c :: d :: _ =>
        if admitsSecond lead b then
          if isContinuation c then
            if isContinuation d then
              (some (Char.ofNat (append (append (append (lead.toNat % 8) b) c) d)), 3)
            else (none, 2)
          else (none, 1)
        else (none, 0)
    | [b, c] =>
        (none, if admitsSecond lead b then if isContinuation c then 2 else 1 else 0)
    | [b] => (none, if admitsSecond lead b then 1 else 0)
    | [] => (none, 0)
  else (none, 0)

/-- The characters of `bytes`, with `none` for each invalid piece. -/
def scan : Bytes → List (Option Char)
  | [] => []
  | lead :: rest => (head lead rest).1 :: scan (rest.drop (head lead rest).2)
termination_by bytes => bytes.length
decreasing_by
  simp only [List.length_drop, List.length_cons]
  omega

/-- What stands for an invalid piece. -/
def replacement : Char := Char.ofNat 0xFFFD

/-- The lenient reading. -/
def decodeLossy (bytes : Bytes) : List Char := (scan bytes).map (·.getD replacement)

/-- The strict reading. -/
def decode? (bytes : Bytes) : Option (List Char) := (scan bytes).mapM id

def encode (text : List Char) : Bytes := text.flatMap String.utf8EncodeChar

end MavBridge.Utf8
