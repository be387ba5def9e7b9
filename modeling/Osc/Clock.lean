import Osc.Packet
import Osc.Value.Integer

/-!
Time tags and the seconds since 1970. The whole part is cut toward zero and the
fraction taken in units of 2 to the power -32, both in double precision; back again,
the difference in seconds is exact and the fraction is rounded once, before the sum is.
-/

namespace Osc

open Floating (Binary Binary64)

/-- The seconds from the start of 1900 to the start of 1970. -/
def epochOffset : Int := 2208988800

/-- A number less its whole part, in units of 2 to the power -32, cut toward zero. -/
def fractionOf (x : Binary64) : Int :=
  let rest : Binary64 := .ofUnits .double (x.units - x.truncate * 2 ^ Floating.unitsLog)
  let scaled : Binary64 := .ofUnits .double (rest.units * 2 ^ 32)
  scaled.truncate

/-- The time tag of a finite number of seconds. A negative fraction wraps around. -/
def TimeTag.ofSeconds (x : Binary64) : TimeTag :=
  ⟨x.truncate + epochOffset, fractionOf x % 2 ^ 32⟩

def TimeTag.ofUnix (v : Value) : Except Fault TimeTag := do
  let whole ← v.toInteger
  match v with
  | .float x => return .ofSeconds x
  | .text _ | .bytes .. => .error (.type (.noOperator "-" v.typeName "int"))
  | _ => return ⟨whole + epochOffset, 0⟩

namespace Floating.Binary

def notANumber : Binary64 where
  negative := false
  ordinal := Format.double.infinity + 2 ^ 51
  ordinal_lt := Format.quiet_lt

/-- The sum, rounded once. Only two negative zeros make a negative zero. -/
def add (x y : Binary64) : Binary64 :=
  if x.isNaN || y.isNaN then notANumber
  else if x.isInfinite then
    if y.isInfinite && x.negative != y.negative then notANumber else x
  else if y.isInfinite then y
  else if x.isZero && y.isZero then { x with negative := x.negative && y.negative }
  else ofUnits .double (x.units + y.units)

/-- The quotient by 2 to the power 32, rounded once. -/
def scaleDown (x : Binary64) : Binary64 :=
  if x.isFinite then
    { ofUnits .double (roundShift (Format.double.units x.ordinal) 32) with negative := x.negative }
  else x

end Floating.Binary

/-- The quotient of an integer by 2 to the power 32, rounded once. -/
def quotient (n : Int) : Except Fault Binary64 :=
  let x : Binary64 := .ofUnits .double (n * 2 ^ (Floating.unitsLog - 32))
  if x.isFinite then .ok x else .error (.overflow .quotient)

/-- A number in floating point; of a complex one only the kind is kept. -/
inductive Approximate where
  | real (x : Binary64)
  | complex

def Approximate.toValue : Approximate → Value
  | .real x => .float x
  | .complex => .foreign .complex

def Approximate.add : Approximate → Approximate → Approximate
  | .real x, .real y => .real (x.add y)
  | .complex, _ | _, .complex => .complex

/-- The integer rounded, when there is a double near it. -/
def Approximate.ofInt (n : Int) : Except Fault Approximate :=
  (Binary.ofInt? .double n).elim (.error (.overflow .intToDouble)) fun x => .ok (.real x)

/-- The seconds of a time tag counted from 1970 on, where an integer stays exact. -/
def sinceEpoch (v : Value) : Except Fault (Int ⊕ Approximate) :=
  match v.integer?, v with
  | some n, _ => .ok (.inl (n - epochOffset))
  | none, .float x =>
    .ok (.inr (.real (x.add (.ofUnits .double (-epochOffset * 2 ^ Floating.unitsLog)))))
  | none, .foreign .complex => .ok (.inr .complex)
  | none, v => .error (.type (.noOperator "-" v.typeName "int"))

/-- The fraction of a time tag in seconds. -/
def fractionInSeconds (v : Value) : Except Fault Approximate :=
  match v.integer?, v with
  | some n, _ => .real <$> quotient n
  | none, .float x => .ok (.real x.scaleDown)
  | none, .foreign .complex => .ok .complex
  | none, v => .error (.type (.noOperator "/" v.typeName "int"))

/-- The seconds since 1970 of a time tag with any fields: the whole seconds stay an
integer until the fraction is added. -/
def toUnix (seconds fractional : Value) : Except Fault Value := do
  let whole ← sinceEpoch seconds
  let part ← fractionInSeconds fractional
  let rounded ← match whole with
    | .inl n => Approximate.ofInt n
    | .inr x => pure x
  return (rounded.add part).toValue

end Osc
