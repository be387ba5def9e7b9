import Osc.Value.Build

/-!
Conversion of plain values into arguments and packets. What is an argument already is
left alone, whatever its fields hold. A whole number becomes the short integer when it
fits in 32 bits, a list becomes an array, and at the top a list or tuple is a group of
arguments and any other value a single one.
-/

namespace Osc.Value

def isArgument : Value → Bool
  | .scalar .. | .quad .. | .blob _ | .nil | .infinitum | .array _ => true
  | _ => false

def ofInteger (n : Int) : Value :=
  if -2 ^ 31 ≤ n && n < 2 ^ 31 then .scalar .int (.int n) else .scalar .long (.int n)

mutual

def toArgument : Value → Except Fault Value
  | .bool b => .ok (.scalar .bool (.bool b))
  | .int n => .ok (ofInteger n)
  | .float x => .ok (ofBinary64 x)
  | .text t => .ok (.scalar .string (.text t))
  | .bytes _ data => .ok (.blob data)
  | .none => .ok .nil
  | .time seconds fractional => .ok (.scalar .time (.time seconds fractional))
  | .list items => .array <$> toArgumentAll items
  | v =>
    if v.isArgument then .ok v
    else .error (.type (.notConvertible v.bareTypeName "OSC argument"))

def toArgumentAll : List Value → Except Fault (List Value)
  | [] => .ok []
  | v :: rest => do
    let first ← v.toArgument
    let more ← toArgumentAll rest
    return first :: more

end

def toArguments : Value → Except Fault (List Value)
  | .list items | .tuple items => toArgumentAll items
  | v => do return [← v.toArgument]

/-- Messages stay as they are; a pair of an address and arguments becomes one. -/
def toMessage (v : Value) : Except Fault Value :=
  match v with
  | .message .. => .ok v
  | .list [.text address, arguments] | .tuple [.text address, arguments] =>
    .message (.text address) <$> arguments.toArguments
  | v => .error (.type (.notConvertible v.bareTypeName "OSC message"))

def toPacket (v : Value) : Except Fault Value :=
  match v with
  | .message .. | .bundle .. => .ok v
  | v => v.toMessage

/-- A message from plain values, the address being taken as text. -/
def newMessage (address arguments : Value) : Except Fault Value :=
  .message (.text address.asText) <$> arguments.toArguments

end Osc.Value
