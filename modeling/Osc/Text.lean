import Osc.Power

/-!
Text is a list of Unicode code points. Surrogate code points are allowed, since
a text value may hold them without being writable as UTF-8. This module only
builds text: from string literals, from numbers and by joining.
-/

namespace Osc

abbrev Bytes := List UInt8

abbrev CodePoint := Fin 0x110000

instance CodePoint.neZero : @NeZero Nat Zero.ofOfNat0 0x110000 := ⟨Nat.succ_ne_zero _⟩

abbrev Text := List CodePoint

def CodePoint.ofNat (n : Nat) : CodePoint := Fin.ofNat 0x110000 n

def CodePoint.ofByte (b : UInt8) : CodePoint := CodePoint.ofNat b.toNat

def CodePoint.ofChar (c : Char) : CodePoint := CodePoint.ofNat c.toNat

/-- Surrogates stand for half a character in UTF-16 and for nothing in UTF-8. -/
def CodePoint.isSurrogate (c : CodePoint) : Bool := 0xD800 ≤ c.val && c.val ≤ 0xDFFF

namespace Text

def ofString (s : String) : Text := s.toList.map CodePoint.ofChar

def ofNat (n : Nat) : Text := (Nat.toDigits 10 n).map CodePoint.ofChar

def ofInt : Int → Text
  | .ofNat n => ofNat n
  | .negSucc n => CodePoint.ofChar '-' :: ofNat (n + 1)

/-- Lower case hexadecimal, with zeros in front up to `width` digits. -/
def hex (width n : Nat) : Text :=
  let digits := (Nat.toDigits 16 n).map CodePoint.ofChar
  List.replicate (width - digits.length) (CodePoint.ofChar '0') ++ digits

def join (separator : Text) : List Text → Text
  | [] => []
  | [t] => t
  | t :: rest => t ++ separator ++ join separator rest

def hasSurrogate (t : Text) : Bool := t.any CodePoint.isSurrogate

/-- Order by code point, the shorter of two texts first when it starts the other. -/
def before : Text → Text → Bool
  | [], _ => true
  | _ :: _, [] => false
  | a :: s, b :: t => a.val < b.val || (a.val == b.val && before s t)

def startsWith : Text → Text → Bool
  | [], _ => true
  | _ :: _, [] => false
  | a :: start, b :: t => a == b && startsWith start t

/-- The text as a string, when it holds no surrogate. -/
def toString? (t : Text) : Option String :=
  if t.hasSurrogate then none else some (String.ofList (t.map fun c => Char.ofNat c.val))

end Text

end Osc
