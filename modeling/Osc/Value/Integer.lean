import Osc.Fault
import Osc.Text.Numeral

/-!
The whole number that a value stands for: numbers lose what is after the point, and
texts and byte strings are read as numerals.
-/

namespace Osc.Value

def readNumeral (t shown : Text) : Except Fault Int :=
  match Numeral.read t with
  | .ok n => .ok n
  | .error .malformed => .error (.value (.notNumeral shown))
  | .error (.tooLong digits) => .error (.value (.numeralTooLong digits))

/-- Bytes beyond ASCII are part of no numeral. -/
def asciiText (data : Bytes) : Text :=
  data.map fun b => if b < 128 then CodePoint.ofByte b else CodePoint.ofChar '?'

def toInteger (v : Value) : Except Fault Int :=
  match v with
  | .float x =>
    if x.isNaN then .error (.value .nanToInt)
    else if x.isInfinite then .error (.overflow .infiniteToInt)
    else .ok x.truncate
  | .text t => readNumeral t (Quoted.text t)
  | .bytes _ data => readNumeral (asciiText data) (Quoted.bytes (data.take maxShown))
  | v =>
    match v.integer? with
    | some n => .ok n
    | Option.none => .error (.type (.notNumber v.typeName))

end Osc.Value
