/-!
Floating-point numbers as the bits of the two IEEE interchange formats.

`Binary64.narrow` rounds a double to the nearest float, ties to even, and `Binary32.widen` is exact.
`Binary64.truncate` is the integer part of a finite double, read off its bits.
-/

namespace MavBridge

/-- A single-precision number. -/
structure Binary32 where
  bits : UInt32
  deriving DecidableEq, Repr

/-- A double-precision number. -/
structure Binary64 where
  bits : UInt64
  deriving DecidableEq, Repr

/-- `numerator / 2 ^ shift` to the nearest natural number, ties to even. -/
def roundShift (numerator shift : Nat) : Nat :=
  let quotient := numerator >>> shift
  let unit := Nat.pow 2 shift
  let remainder := numerator % unit
  if 2 * remainder > unit ∨ (2 * remainder = unit ∧ quotient % 2 = 1) then quotient + 1
  else quotient

namespace Binary64

def sign (x : Binary64) : Bool := x.bits >>> 63 == 1

/-- The biased exponent. -/
def exponent (x : Binary64) : Nat := (x.bits.toNat >>> 52) % 2048

def fraction (x : Binary64) : Nat := x.bits.toNat % 0x10000000000000

def isNaN (x : Binary64) : Bool := x.exponent == 2047 && x.fraction != 0

def isFinite (x : Binary64) : Bool := x.exponent != 2047

/-- A finite double is `significand * 2 ^ scale`, up to its sign. -/
def significand (x : Binary64) : Nat :=
  if x.exponent = 0 then x.fraction else x.fraction + 0x10000000000000

def scale (x : Binary64) : Int := (max x.exponent 1 : Nat) - 1075

/-- The integer part of the magnitude of a finite double. -/
def magnitude (x : Binary64) : Nat :=
  if 0 ≤ x.scale then x.significand * Nat.pow 2 x.scale.toNat
  else x.significand / Nat.pow 2 (-x.scale).toNat

/-- The integer part of a finite double, toward zero. -/
def truncate (x : Binary64) : Int := if x.sign then -(x.magnitude : Int) else x.magnitude

/-- Toward zero into 64 signed bits: what lies outside goes to the nearest end, NaN to zero. -/
def toInt64 (x : Binary64) : Int :=
  if x.isNaN then 0
  else if x.isFinite then max (-0x8000000000000000) (min 0x7FFFFFFFFFFFFFFF x.truncate)
  else if x.sign then -0x8000000000000000
  else 0x7FFFFFFFFFFFFFFF

/-- The nearest float, ties to even; no number stays none and keeps its leading bits. -/
def narrow (x : Binary64) : Binary32 :=
  let sign := if x.sign then 0x80000000 else 0
  let magnitude :=
    if x.exponent = 2047 then
      if x.fraction = 0 then 0x7F800000 else 0x7FC00000 ||| (x.fraction >>> 29)
    else
      let top : Int := x.scale + x.significand.log2
      let unit : Int := max (-149) (top - 23)
      let rounded := roundShift x.significand (unit - x.scale).toNat
      if rounded < 0x800000 then rounded
      else min 0x7F800000 (((unit + 150).toNat <<< 23) + (rounded - 0x800000))
  ⟨UInt32.ofNat (sign + magnitude)⟩

def ofFloat (x : Float) : Binary64 := ⟨x.toBits⟩

def toFloat (x : Binary64) : Float := Float.ofBits x.bits

def zero : Binary64 := ⟨0⟩

/-- The quiet pattern that stands for no number. -/
def nan : Binary64 := ⟨0x7FF8000000000000⟩

/-- The double nearest to `digits * 10 ^ exponent`. -/
def ofDecimal (negative : Bool) (digits : Nat) (exponent : Int) : Binary64 :=
  let places : Int := (Nat.toDigits 10 digits).length + exponent
  let magnitude : UInt64 :=
    if digits = 0 ∨ places < -400 then 0
    else if places > 400 then 0x7FF0000000000000
    else (Float.ofScientific digits (exponent < 0) exponent.natAbs).toBits
  ⟨if negative then magnitude ||| 0x8000000000000000 else magnitude⟩

end Binary64

namespace Binary32

/-- The double of the same value. -/
def widen (x : Binary32) : Binary64 :=
  let bits := x.bits.toNat
  let exponent := (bits >>> 23) % 256
  let fraction := bits % 0x800000
  let sign := if bits ≥ 0x80000000 then 0x8000000000000000 else 0
  let magnitude :=
    if exponent = 255 then
      if fraction = 0 then 0x7FF <<< 52
      else (0x7FF <<< 52) ||| (1 <<< 51) ||| (fraction <<< 29)
    else if exponent = 0 then
      if fraction = 0 then 0
      else
        ((fraction.log2 + 874) <<< 52)
          + ((fraction - Nat.pow 2 fraction.log2) <<< (52 - fraction.log2))
    else ((exponent + 896) <<< 52) + (fraction <<< 29)
  ⟨UInt64.ofNat (sign + magnitude)⟩

def isNaN (x : Binary32) : Bool := x.widen.isNaN

def ofFloat (x : Float32) : Binary32 := ⟨x.toBits⟩

def zero : Binary32 := ⟨0⟩

end Binary32

end MavBridge
