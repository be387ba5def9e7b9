import Osc.Power

/-!
Binary floating point formats. All finite numbers of the formats used here are
whole multiples of one unit, 2 to the power -1074, so a value is an integer
number of units and every sum, difference and scaling by a power of two is exact
on integers; rounding happens once, at the end. The non-negative numbers of a
format are counted upward from zero; the place of a number in that order is its
ordinal, and the ordinal is also what its bit pattern spells after the sign.
-/

namespace Osc.Floating

/-- A format keeps `precision` significant bits; its least positive number is
2 to the power `step` units; ordinals have `width` bits, and the one after the
greatest finite number stands for infinity. -/
structure Format where
  precision : Nat
  step : Nat
  infinity : Nat
  width : Nat
  infinity_lt : infinity < 2 ^ width := by decide

/-- Eight bytes, 53 significant bits. -/
def Format.double : Format where
  precision := 53
  step := 0
  infinity := 2047 * 2 ^ 52
  width := 63

/-- Four bytes, 24 significant bits. -/
def Format.single : Format where
  precision := 24
  step := 925
  infinity := 255 * 2 ^ 23
  width := 31

/-- The ordinal of what is not a number and is quiet fits the format. -/
theorem Format.quiet_lt : double.infinity + 2 ^ 51 < 2 ^ double.width := by decide

/-- The power of two that makes one from units. -/
def unitsLog : Nat := 1074

/-- The value with a given ordinal, in units. -/
def Format.units (f : Format) (ordinal : Nat) : Nat :=
  let half := 2 ^ (f.precision - 1)
  let exponent := ordinal / half
  let fraction := ordinal % half
  if exponent = 0 then fraction * 2 ^ f.step
  else (half + fraction) * 2 ^ (f.step + (exponent - 1))

/-- Division by a power of two, rounded to the nearest integer, halves to the even one. -/
def roundShift (n shift : Nat) : Nat :=
  let quotient := n / 2 ^ shift
  let twice := 2 * (n % 2 ^ shift)
  if twice < 2 ^ shift || (twice == 2 ^ shift && quotient % 2 == 0) then quotient
  else quotient + 1

/-- The ordinal of the nearest number, the even ordinal between two equally near;
it may pass beyond the ordinal of infinity. -/
def Format.nearest (f : Format) (units : Nat) : Nat :=
  let shift := max f.step (units.log2 + 1 - f.precision)
  (shift - f.step) * 2 ^ (f.precision - 1) + roundShift units shift

end Osc.Floating
