import Mathlib

/-!
# Binary interchange formats, read from the bits

A number is its bit pattern: a sign bit, a biased exponent and a fraction. A finite number is an
integer multiple of the smallest subnormal of its format, so its exact value is that integer,
`scaled`, and the order of two numbers is the order of two integers. `unitsPerOne` is what the
number one scales to.
-/

namespace Driveflow.Library

/-- A number of a format of `width` bits, `fractionBits` of them fraction. -/
structure Binary (width fractionBits : Nat) where
  bits : BitVec width
  deriving DecidableEq, Repr

abbrev Binary32 := Binary 32 23

abbrev Binary64 := Binary 64 52

namespace Binary

variable {width fractionBits : Nat}

def sign (x : Binary width fractionBits) : Bool := x.bits.msb

/-- The bits of the exponent field. -/
def exponentBits (_ : Binary width fractionBits) : Nat := width - 1 - fractionBits

/-- The biased exponent. -/
def exponent (x : Binary width fractionBits) : Nat :=
  x.bits.toNat / 2 ^ fractionBits % 2 ^ x.exponentBits

def fraction (x : Binary width fractionBits) : Nat := x.bits.toNat % 2 ^ fractionBits

/-- Neither an infinity nor a NaN: the exponent is not all ones. -/
def isFinite (x : Binary width fractionBits) : Bool := x.exponent != 2 ^ x.exponentBits - 1

def isNaN (x : Binary width fractionBits) : Bool := !x.isFinite && x.fraction != 0

/-- The absolute value in multiples of the smallest subnormal. -/
def magnitude (x : Binary width fractionBits) : Nat :=
  if x.exponent = 0 then x.fraction else (2 ^ fractionBits + x.fraction) * 2 ^ (x.exponent - 1)

/-- The value in multiples of the smallest subnormal; both zeros are zero. -/
def scaled (x : Binary width fractionBits) : Int :=
  if x.sign then -(x.magnitude : Int) else x.magnitude

/-- What the number one scales to. -/
def unitsPerOne (x : Binary width fractionBits) : Int :=
  2 ^ (2 ^ (x.exponentBits - 1) - 1 + fractionBits - 1)

/-- The comparison `x < y`: never true of a NaN. -/
def lt (x y : Binary width fractionBits) : Bool :=
  !x.isNaN && !y.isNaN && decide (x.scaled < y.scaled)

/-- Between finite numbers the comparison is the order of the values. -/
theorem lt_eq_true_iff {x y : Binary width fractionBits} (hx : x.isFinite = true)
    (hy : y.isFinite = true) : x.lt y = true ↔ x.scaled < y.scaled := by
  simp only [lt, isNaN, hx, hy, Bool.not_true, Bool.false_and, Bool.not_false, Bool.true_and,
    decide_eq_true_eq]

end Binary

end Driveflow.Library
