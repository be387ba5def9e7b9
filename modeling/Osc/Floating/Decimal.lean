import Osc.Floating.Binary

/-!
The binary number nearest to a decimal one. The decimal is turned into a count of
quarter units; what is left over only decides that the count is not exact, which its
lowest bit records, so one more rounding gives the nearest number.
-/

namespace Osc.Floating

/-- The number of a format nearest to a count of quarter units. -/
def Format.nearestQuarter (f : Format) (quarters : Nat) : Nat :=
  { f with step := f.step + 2 }.nearest quarters

/-- A fraction in quarter units, made odd when it is not a whole number of them. -/
def quarterUnits (num den : Nat) : Nat :=
  let scaled := num * 2 ^ (unitsLog + 2)
  let whole := scaled / den
  if scaled % den = 0 then whole else whole / 2 * 2 + 1

/-- `digits` times ten to the power `exponent`, rounded; a number with more than 400
digits before the point is infinite and one with more than 400 zeros behind it is zero. -/
def Binary.ofDecimal (negative : Bool) (digits : Nat) (exponent : Int) : Binary64 :=
  let length : Int := (Nat.toDigits 10 digits).length
  let ordinal :=
    if digits = 0 || exponent + length < -400 then 0
    else if 400 < exponent + length then Format.double.infinity
    else
      match exponent with
      | .ofNat e => Format.double.nearestQuarter (quarterUnits (digits * 10 ^ e) 1)
      | .negSucc e => Format.double.nearestQuarter (quarterUnits digits (10 ^ (e + 1)))
  { negative
    ordinal := min ordinal Format.double.infinity
    ordinal_lt := Nat.lt_of_le_of_lt (Nat.min_le_right _ _) Format.double.infinity_lt }

end Osc.Floating
