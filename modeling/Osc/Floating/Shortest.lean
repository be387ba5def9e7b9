import Osc.Floating.Binary
import Osc.Text

/-!
The shortest decimal text of a binary number: the fewest significant digits that
read back as the same number and, of those, the digits nearest to it. Digits are
written with a point while the decimal exponent is at least -4 and below 16, and
with an exponent of at least two digits otherwise.
-/

namespace Osc.Floating

/-- A positive rational as two naturals. -/
structure Ratio where
  num : Nat
  den : Nat

/-- `numerator / denominator` times ten to the power `exponent`. -/
def Ratio.scaled (num den : Nat) (exponent : Int) : Ratio :=
  match exponent with
  | .ofNat e => ⟨num * 10 ^ e, den⟩
  | .negSucc e => ⟨num, den * 10 ^ (e + 1)⟩

def Ratio.le (x y : Ratio) : Bool := x.num * y.den ≤ y.num * x.den

/-- The greatest power of ten that is not above the value; the estimate from the
binary logarithm is at most one too large or too small. -/
def decimalExponent (x : Ratio) : Int :=
  let estimate := Int.fdiv (((x.num.log2 : Int) - x.den.log2) * 30103) 100000
  if (Ratio.scaled 1 1 (estimate + 1)).le x then estimate + 1
  else if (Ratio.scaled 1 1 estimate).le x then estimate
  else estimate - 1

/-- The values that round to a number, in halves of a unit: from the middle below it
to the middle above it, the ends included when its ordinal is even. -/
structure Interval where
  low : Nat
  high : Nat
  closed : Bool

def Format.interval (f : Format) (ordinal : Nat) : Interval :=
  let here := f.units ordinal
  ⟨f.units (ordinal - 1) + here, here + f.units (ordinal + 1), ordinal % 2 == 0⟩

def Interval.contains (i : Interval) (x : Ratio) : Bool :=
  let n := x.num * 2 ^ (unitsLog + 1)
  if i.closed then i.low * x.den ≤ n && n ≤ i.high * x.den
  else i.low * x.den < n && n < i.high * x.den

/-- Of the two decimals of `count` digits around the value the nearer one, the even one of
two equally near, or else the other, as an integer of that many digits; `none` when neither
lies in the interval. -/
def candidate? (i : Interval) (value : Ratio) (exponent : Int) (count : Nat) : Option Nat :=
  let grid := exponent - (count - 1 : Nat)
  let scaled := Ratio.scaled value.num value.den (-grid)
  let below := scaled.num / scaled.den
  let fits (n : Nat) : Bool := i.contains (Ratio.scaled n 1 grid)
  let twice := 2 * (scaled.num % scaled.den)
  let nearBelow := twice < scaled.den || (twice == scaled.den && below % 2 == 0)
  let nearest := if nearBelow then below else below + 1
  let other := if nearBelow then below + 1 else below
  if fits nearest then some nearest else if fits other then some other else none

/-- The first count of digits that has a candidate, with that candidate. Seventeen
digits always have one. -/
def shortestFrom (i : Interval) (value : Ratio) (exponent : Int) (count : Nat) :
    Nat → Nat × Nat
  | 0 => (count, 0)
  | fuel + 1 =>
    match candidate? i value exponent count with
    | some n => (count, n)
    | none => shortestFrom i value exponent (count + 1) fuel

/-- The digits of a positive number, without zeros at the end, and the decimal
exponent of the first of them. A candidate that is a power of ten one above its
count of digits moves the exponent up by one. -/
def shortest (f : Format) (ordinal : Nat) : List Char × Int :=
  let value : Ratio := ⟨f.units ordinal, 2 ^ unitsLog⟩
  let exponent := decimalExponent value
  let (count, n) := shortestFrom (f.interval ordinal) value exponent 1 17
  let digits := Nat.toDigits 10 n
  ((digits.reverse.dropWhile (· == '0')).reverse, exponent + (digits.length - count : Nat))

def positional (digits : List Char) (exponent : Int) : List Char :=
  match exponent with
  | .ofNat e =>
    let whole := digits.take (e + 1)
    let rest := digits.drop (e + 1)
    whole ++ List.replicate (e + 1 - whole.length) '0' ++ ['.'] ++ (if rest.isEmpty then ['0'] else rest)
  | .negSucc e => ['0', '.'] ++ List.replicate e '0' ++ digits

def scientific (digits : List Char) (exponent : Int) : List Char :=
  let power := Nat.toDigits 10 exponent.natAbs
  let power := List.replicate (2 - power.length) '0' ++ power
  digits.take 1 ++ (if digits.length = 1 then [] else '.' :: digits.drop 1) ++
    ['e', if exponent < 0 then '-' else '+'] ++ power

def Binary.characters {f : Format} (x : Binary f) : List Char :=
  if x.isNaN then ['n', 'a', 'n']
  else
    let sign := if x.negative then ['-'] else []
    if x.isInfinite then sign ++ ['i', 'n', 'f']
    else if x.isZero then sign ++ ['0', '.', '0']
    else
      let (digits, exponent) := shortest f x.ordinal
      sign ++ (if -4 ≤ exponent && exponent < 16 then positional digits exponent
        else scientific digits exponent)

def Binary.text {f : Format} (x : Binary f) : Text := x.characters.map CodePoint.ofChar

end Osc.Floating
