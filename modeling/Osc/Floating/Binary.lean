import Osc.Floating.Format

/-!
The numbers of a format: a sign and an ordinal. Ordinals beyond infinity are the
values that are not numbers; their bits are kept, since they can be sent.
Conversions between the two formats, and between numbers and integers, are exact
or round once to nearest.
-/

namespace Osc.Floating

structure Binary (f : Format) where
  negative : Bool
  ordinal : Nat
  ordinal_lt : ordinal < 2 ^ f.width
deriving DecidableEq

/-- Exact values with the two infinities, in order. -/
inductive Extent where
  | least
  | units (n : Int)
  | greatest
deriving DecidableEq

def Extent.ofInt (n : Int) : Extent := .units (n * 2 ^ unitsLog)

def Extent.le : Extent → Extent → Bool
  | .least, _ => true
  | _, .greatest => true
  | .units a, .units b => a ≤ b
  | _, _ => false

abbrev Binary64 := Binary Format.double

abbrev Binary32 := Binary Format.single

namespace Binary

variable {f : Format}

/-- The bit pattern: the sign bit, then the ordinal. -/
def word (x : Binary f) : Nat := (if x.negative then 2 ^ f.width else 0) + x.ordinal

def ofWord (f : Format) (n : Nat) : Binary f where
  negative := n / 2 ^ f.width % 2 == 1
  ordinal := n % 2 ^ f.width
  ordinal_lt := Nat.mod_lt _ (Nat.two_pow_pos _)

def isNaN (x : Binary f) : Bool := f.infinity < x.ordinal

def isInfinite (x : Binary f) : Bool := x.ordinal == f.infinity

def isFinite (x : Binary f) : Bool := x.ordinal < f.infinity

def isZero (x : Binary f) : Bool := x.ordinal == 0

/-- The exact value of a finite number, in units. -/
def units (x : Binary f) : Int :=
  if x.negative then -(f.units x.ordinal : Int) else f.units x.ordinal

/-- The nearest number to an exact value; values too large give infinity. -/
def ofUnits (f : Format) (units : Int) : Binary f where
  negative := units < 0
  ordinal := min (f.nearest units.natAbs) f.infinity
  ordinal_lt := Nat.lt_of_le_of_lt (Nat.min_le_right _ _) f.infinity_lt

/-- The nearest number to an integer, `none` when the integer is too large. -/
def ofInt? (f : Format) (n : Int) : Option (Binary f) :=
  let x := ofUnits f (n * 2 ^ unitsLog)
  if x.isFinite then some x else none

/-- The integer part, toward zero. -/
def truncate (x : Binary f) : Int := x.units.tdiv (2 ^ unitsLog)

/-- The exact value of a number or an infinity; what is not a number has none. -/
def extent? (x : Binary f) : Option Extent :=
  if x.isNaN then none
  else if x.isInfinite then some (if x.negative then .least else .greatest)
  else some (.units x.units)

/-- Rounds to four bytes; `none` when a finite number would become infinite. The
payload of what is not a number keeps its high bits and becomes quiet. -/
def narrow? (x : Binary64) : Option Binary32 :=
  if x.isNaN then
    some {
      negative := x.negative
      ordinal := Format.single.infinity + (2 ^ 22 + x.ordinal / 2 ^ 29 % 2 ^ 22)
      ordinal_lt := by
        have h : x.ordinal / 2 ^ 29 % 2 ^ 22 < 2 ^ 22 := Nat.mod_lt _ (by decide)
        simp only [Format.single] at *
        omega }
  else if x.isInfinite then
    some {
      negative := x.negative
      ordinal := Format.single.infinity
      ordinal_lt := Format.single.infinity_lt }
  else
    let y := Format.single.nearest (Format.double.units x.ordinal)
    if h : y < Format.single.infinity then
      some {
        negative := x.negative
        ordinal := y
        ordinal_lt := Nat.lt_trans h Format.single.infinity_lt }
    else none

/-- Every number of four bytes is one of eight; what is not a number becomes quiet. -/
def widen (x : Binary32) : Binary64 :=
  if x.isNaN then {
    negative := x.negative
    ordinal := Format.double.infinity + (2 ^ 51 + x.ordinal % 2 ^ 22 * 2 ^ 29)
    ordinal_lt := by
      have h : x.ordinal % 2 ^ 22 < 2 ^ 22 := Nat.mod_lt _ (by decide)
      simp only [Format.double] at *
      omega }
  else if x.isInfinite then
    { negative := x.negative, ordinal := Format.double.infinity
      ordinal_lt := Format.double.infinity_lt }
  else { ofUnits .double x.units with negative := x.negative }

end Binary

end Osc.Floating
