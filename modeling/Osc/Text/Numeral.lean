import Osc.Text.Digit

/-!
Reading whole numbers from text: blanks around, an optional sign, then decimal
digits of any script with single underscores between them. A numeral of more than
4300 digits is refused with its length.
-/

namespace Osc.Numeral

def maxDigits : Nat := 4300

inductive Refusal where
  | malformed
  | tooLong (digits : Nat)

def underscore : CodePoint := CodePoint.ofChar '_'

/-- Digits with single underscores between them, up to the first character that is
neither, most significant first; `none` for an underscore with no digit on both sides. -/
def digits (afterDigit : Bool) : Text → Option (List Nat × Text)
  | [] => if afterDigit then some ([], []) else none
  | c :: rest =>
    match c.decimalValue? with
    | some v => (digits true rest).map fun (vs, rest) => (v :: vs, rest)
    | none =>
      if !afterDigit then none
      else if c = underscore then digits false rest
      else some ([], c :: rest)

def value (digits : List Nat) : Nat := digits.foldl (fun n d => 10 * n + d) 0

def sign : Text → Bool × Text
  | [] => (false, [])
  | c :: rest =>
    if c = CodePoint.ofChar '-' then (true, rest)
    else if c = CodePoint.ofChar '+' then (false, rest)
    else (false, c :: rest)

def read (t : Text) : Except Refusal Int :=
  let (negative, body) := sign (t.dropWhile CodePoint.isBlank)
  match digits false body with
  | none => .error .malformed
  | some (ds, rest) =>
    if ds.length > maxDigits then .error (.tooLong ds.length)
    else if rest.all CodePoint.isBlank then
      .ok (if negative then -(value ds : Int) else value ds)
    else .error .malformed

end Osc.Numeral
