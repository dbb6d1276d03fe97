import MavBridge.Number.Binary

/-!
The shortest decimal that reads back as a given double, and of those the nearest to it.

A positive double is the exact fraction `numerator / denominator`, and every decimal strictly
nearer to it than to its neighbours reads back. For a growing number of digits the two decimals
around the double are tried, so the first hit is a shortest one.
-/

namespace MavBridge.Shortest

/-- A number between `low` and `high` over `scale`, and whether these two read back as well. -/
structure Interval where
  low : Nat
  value : Nat
  high : Nat
  scale : Nat
  closed : Bool

/-- The decimals that read back as a positive double, over a common denominator. -/
def interval (x : Binary64) : Interval :=
  let below := if x.significand = 0x10000000000000 ∧ 1 < x.exponent then 1 else 2
  let up := Nat.pow 2 (x.scale - 2).toNat
  ⟨(4 * x.significand - below) * up, 4 * x.significand * up, (4 * x.significand + 2) * up,
    Nat.pow 2 (2 - x.scale).toNat, x.significand % 2 = 0⟩

def Interval.contains (i : Interval) (point : Nat) : Bool :=
  if i.closed then i.low ≤ point && point ≤ i.high else i.low < point && point < i.high

/-- The hit of `digits * 10 ^ power` in the interval, nearest to its value. -/
def hit? (i : Interval) (power : Int) : Option Nat :=
  let down := Nat.pow 10 (-power).toNat
  let unit := i.scale * Nat.pow 10 power.toNat
  let scaled : Interval := ⟨i.low * down, i.value * down, i.high * down, unit, i.closed⟩
  let digits := scaled.value / unit
  let below := scaled.contains (digits * unit)
  let above := scaled.contains ((digits + 1) * unit)
  let remainder := scaled.value % unit
  if below && (!above || 2 * remainder < unit || (2 * remainder == unit && digits % 2 == 0)) then
    some digits
  else if above then some (digits + 1)
  else none

/-- The decimal exponent of the leading digit. -/
def leading (i : Interval) : Int :=
  let guess : Int := (Nat.toDigits 10 i.value).length - (Nat.toDigits 10 i.scale).length
  if i.value * Nat.pow 10 (-guess).toNat < i.scale * Nat.pow 10 guess.toNat then guess - 1
  else guess

def search (i : Interval) (top : Int) : (fuel width : Nat) → Nat × Int
  | 0, width => ((hit? i (top - width)).getD 0, top - width)
  | fuel + 1, width =>
      match hit? i (top - width) with
      | some digits => (digits, top - width)
      | none => search i top fuel (width + 1)

/-- Digits and power of ten of a positive double; a hit one above a row of nines ends in zero. -/
def decimal (x : Binary64) : Nat × Int :=
  let (digits, power) := search (interval x) (leading (interval x)) 17 0
  if digits % 10 = 0 then (digits / 10, power + 1) else (digits, power)

/-- The positional text of digits with the point after `point` of them. -/
def positional (digits : List Char) (point : Int) : List Char :=
  if point ≤ 0 then ['0', '.'] ++ List.replicate (-point).toNat '0' ++ digits
  else if digits.length ≤ point.toNat then
    digits ++ List.replicate (point.toNat - digits.length) '0' ++ ['.', '0']
  else digits.take point.toNat ++ '.' :: digits.drop point.toNat

/-- The text of a double: positional from 1e-5 up to below 1e16, else with an exponent. -/
def text (x : Binary64) : List Char :=
  let sign := if x.sign then ['-'] else []
  if !x.isFinite then ['n', 'u', 'l', 'l']
  else if x.significand = 0 then sign ++ ['0', '.', '0']
  else
    let (value, power) := decimal x
    let digits := Nat.toDigits 10 value
    let point : Int := digits.length + power
    if -5 < point ∧ point ≤ 16 then sign ++ positional digits point
    else
      let fraction := if digits.length ≤ 1 then [] else '.' :: digits.drop 1
      sign ++ digits.take 1 ++ fraction ++ 'e' :: (toString (point - 1)).toList

end MavBridge.Shortest
