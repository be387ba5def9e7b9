import Osc.Value

/-!
Packets with fields of their declared types: a message is an address with arguments,
a bundle is a time tag with packets. Numbers are not yet bounded and texts are any
texts; which packets can be sent is for the wire format to say.
-/

namespace Osc

open Floating (Binary64)

/-- Seconds since the start of 1900 and a fraction in units of 2 to the power -32. -/
structure TimeTag where
  seconds : Int
  fractional : Int
deriving DecidableEq

/-- The time tag that asks for a bundle to be performed on arrival. -/
def TimeTag.immediately : TimeTag := ⟨0, 1⟩

inductive Argument where
  | int (n : Int)
  | float (x : Binary64)
  | string (t : Text)
  | blob (data : Bytes)
  | time (tag : TimeTag)
  | long (n : Int)
  | double (x : Binary64)
  | char (t : Text)
  | color (red green blue alpha : Int)
  | midi (port status data1 data2 : Int)
  | bool (b : Bool)
  | nil
  | infinitum
  | array (items : List Argument)

inductive Packet where
  | message (address : Text) (arguments : List Argument)
  | bundle (timetag : TimeTag) (content : List Packet)

def TimeTag.toValue (tag : TimeTag) : Value := .time (.int tag.seconds) (.int tag.fractional)

mutual

def Argument.toValue : Argument → Value
  | .int n => .scalar .int (.int n)
  | .float x => .scalar .float (.float x)
  | .string t => .scalar .string (.text t)
  | .blob data => .blob data
  | .time tag => .scalar .time tag.toValue
  | .long n => .scalar .long (.int n)
  | .double x => .scalar .double (.float x)
  | .char t => .scalar .char (.text t)
  | .color red green blue alpha => .quad .color (.int red) (.int green) (.int blue) (.int alpha)
  | .midi port status data1 data2 =>
    .quad .midi (.int port) (.int status) (.int data1) (.int data2)
  | .bool b => .scalar .bool (.bool b)
  | .nil => .nil
  | .infinitum => .infinitum
  | .array items => .array (Argument.toValues items)

def Argument.toValues : List Argument → List Value
  | [] => []
  | a :: rest => a.toValue :: Argument.toValues rest

end

mutual

def Packet.toValue : Packet → Value
  | .message address arguments => .message (.text address) (Argument.toValues arguments)
  | .bundle timetag content => .bundle timetag.toValue (Packet.toValues content)

def Packet.toValues : List Packet → List Value
  | [] => []
  | p :: rest => p.toValue :: Packet.toValues rest

end

end Osc
