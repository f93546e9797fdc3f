/-
Binary64 numbers by their bits, so that they can be compared and taken apart exactly. A finite
number is `± significand · 2^exponent`.
-/

namespace ScriptLint

/-- A binary64 number, given by its bits. -/
structure Double where
  bits : UInt64
  deriving DecidableEq, Inhabited, Repr

namespace Double

/-- The number a floating point value holds. -/
def ofFloat (x : Float) : Double := ⟨x.toBits⟩

/-- The floating point value with these bits. -/
def toFloat (x : Double) : Float := Float.ofBits x.bits

/-- The double nearest to `± digits · 10^exponent`. -/
def ofDecimal (negative : Bool) (digits : Nat) (exponent : Int) : Double :=
  let x := if exponent < 0 then Float.ofScientific digits true exponent.natAbs
    else Float.ofScientific digits false exponent.natAbs
  ofFloat (if negative then -x else x)

/-- The double nearest to an integer. -/
def ofInt (n : Int) : Double := ofDecimal (n < 0) n.natAbs 0

def infinity : Double := ⟨0x7FF0000000000000⟩

def negInfinity : Double := ⟨0xFFF0000000000000⟩

def nan : Double := ⟨0x7FF8000000000000⟩

/-- One more than the greatest fraction, `2^52`. -/
def fractionSize : Nat := 0x10000000000000

/-- The sign bit. -/
def isNegative (x : Double) : Bool := decide (0x8000000000000000 ≤ x.bits.toNat)

/-- The eleven exponent bits. -/
def biased (x : Double) : Nat := x.bits.toNat / fractionSize % 2048

/-- The fifty-two fraction bits. -/
def fraction (x : Double) : Nat := x.bits.toNat % fractionSize

def isNaN (x : Double) : Bool := x.biased = 2047 && x.fraction ≠ 0

def isInfinite (x : Double) : Bool := x.biased = 2047 && x.fraction = 0

def isFinite (x : Double) : Bool := x.biased ≠ 2047

/-- The integer significand, the hidden bit included. -/
def significand (x : Double) : Nat :=
  if x.biased = 0 then x.fraction else fractionSize + x.fraction

/-- The power of two that scales the significand. -/
def exponent (x : Double) : Int :=
  if x.biased = 0 then -1074 else (x.biased : Int) - 1075

def isZero (x : Double) : Bool := x.biased = 0 && x.fraction = 0

/-- The integer part of the magnitude of a finite number. -/
def wholeMagnitude (x : Double) : Nat :=
  if x.exponent < 0 then x.significand / Nat.pow 2 x.exponent.natAbs
  else x.significand * Nat.pow 2 x.exponent.natAbs

/-- A finite number without a fractional part. -/
def isWhole (x : Double) : Bool :=
  x.isFinite && (0 ≤ x.exponent || x.significand % Nat.pow 2 x.exponent.natAbs = 0)

/-- The integer a finite number is cut to. -/
def toInt (x : Double) : Int :=
  if x.isNegative then -(x.wholeMagnitude : Int) else x.wholeMagnitude

theorem significand_lt (x : Double) : x.significand < 2 * fractionSize := by
  unfold significand fraction
  have : x.bits.toNat % fractionSize < fractionSize := Nat.mod_lt _ (by decide)
  split <;> omega

end Double

end ScriptLint
