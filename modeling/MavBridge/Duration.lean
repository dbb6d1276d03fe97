/-!
Spans of time, and their texts: the largest of the units s, ms, µs and ns of which there is a whole
one, and then the exact decimal fraction.
-/

namespace MavBridge

structure Duration where
  nanoseconds : Nat
  deriving DecidableEq, Repr

namespace Duration

def ofMilliseconds (milliseconds : Nat) : Duration := ⟨milliseconds * 1000000⟩

def ofSeconds (seconds : Nat) : Duration := ⟨seconds * 1000000000⟩

def toMilliseconds (duration : Duration) : Nat := duration.nanoseconds / 1000000

/-- `value` in `places` digits, with zeros in front. -/
def padded (places value : Nat) : List Char :=
  let digits := Nat.toDigits 10 value
  List.replicate (places - digits.length) '0' ++ digits

/-- A whole number of units and a fraction of `places` digits, without trailing zeros. -/
def decimal (whole places fraction : Nat) : String :=
  let digits := ((padded places fraction).reverse.dropWhile (· == '0')).reverse
  String.ofList (Nat.toDigits 10 whole ++ if digits.isEmpty then [] else '.' :: digits)

def text (duration : Duration) : String :=
  let nanoseconds := duration.nanoseconds
  if 1000000000 ≤ nanoseconds then
    decimal (nanoseconds / 1000000000) 9 (nanoseconds % 1000000000) ++ "s"
  else if 1000000 ≤ nanoseconds then
    decimal (nanoseconds / 1000000) 6 (nanoseconds % 1000000) ++ "ms"
  else if 1000 ≤ nanoseconds then decimal (nanoseconds / 1000) 3 (nanoseconds % 1000) ++ "µs"
  else decimal nanoseconds 0 0 ++ "ns"

end Duration

end MavBridge
