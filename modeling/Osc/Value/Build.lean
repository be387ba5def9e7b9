import Osc.Allocation
import Osc.Packet

/-!
Building packets and arguments from the values of their fields. A float is rounded to
single precision when it is built, so that it equals the one read back from the wire;
one that is too large stays as it is and is refused when it is encoded, but a whole
number that is too large is refused at once. A blob is made of anything that bytes can be
made of, and items, arguments and content of anything that can be walked through. No
other field is looked at.
-/

namespace Osc.Value

open Floating (Binary Binary64)

def buildFloat (v : Value) : Except Fault Value :=
  match v.real? with
  | Option.none => .error (.pack .notReal)
  | some x =>
    match x.narrow? with
    | some y => .ok (.scalar .float (.float y.widen))
    | Option.none =>
      if v.integer?.isSome then .error (.pack .intTooLarge) else .ok (.scalar .float v)

/-- The argument that holds a number in single precision. -/
def ofBinary64 (x : Binary64) : Value :=
  .scalar .float (.float (match x.narrow? with
    | some y => y.widen
    | Option.none => x))

/-- The byte that an item of a blob stands for. -/
def byte (v : Value) : Except Fault UInt8 :=
  match v.integer? with
  | Option.none => .error (.type (.notIndex v.typeName))
  | some n =>
    if 0 ≤ n && n < 256 then .ok (UInt8.ofNat n.toNat) else .error (.value .byteRange)

/-- The largest size of a byte string, whose header counts too. -/
def maxBytes : Int := 2 ^ 63 - 34

/-- The bytes that a value stands for; a number asks the memory for that many zeros. -/
def toBytes (memory : Nat) (v : Value) : Except Fault Bytes :=
  match v with
  | .text _ => .error (.type .textWithoutEncoding)
  | .bytes _ data => .ok data
  | v =>
    match v.integer?, v.items? with
    | some n, _ =>
      if maxBytes < n && n < 2 ^ 63 then .error (.overflow .bytesTooLong)
      else do return List.replicate (← allocation memory n) 0
    | Option.none, some items => items.mapM byte
    | Option.none, Option.none => .error (.type (.notBytes v.typeName))

def walk (v : Value) : Except Fault (List Value) :=
  match v.items? with
  | some items => .ok items
  | Option.none => .error (.type (.notIterable v.typeName))

/-- What can be built, by name. -/
inductive Form where
  | scalar (kind : ScalarKind)
  | quad (kind : QuadKind)
  | blob
  | nil
  | infinitum
  | array
  | time
  | message
  | bundle

namespace Form

def all : List Form :=
  [.scalar .int, .scalar .float, .scalar .string, .scalar .time, .scalar .long, .scalar .double,
    .scalar .char, .scalar .bool, .quad .color, .quad .midi, .blob, .nil, .infinitum, .array,
    .time, .message, .bundle]

def name : Form → String
  | .scalar kind => kind.name
  | .quad kind => kind.name
  | .blob => "Blob"
  | .nil => "Nil"
  | .infinitum => "Inf"
  | .array => "Array"
  | .time => "OscTime"
  | .message => "OscMessage"
  | .bundle => "OscBundle"

def ofName? (name : String) : Option Form := all.find? fun form => form.name == name

/-- The names of the fields, those that must be given and those that may be left out. -/
def fields : Form → List String × List String
  | .scalar _ => (["value"], [])
  | .quad kind => let (a, b, c, d) := kind.fieldNames; ([a, b, c, d], [])
  | .blob => (["data"], [])
  | .nil | .infinitum => ([], [])
  | .array => (["items"], [])
  | .time => (["seconds", "fractional"], [])
  | .message => (["addr"], ["args"])
  | .bundle => (["timetag"], ["content"])

/-- Builds from the fields that are given, in a memory of so many bytes. -/
def buildIn (memory : Nat) (form : Form) (given : List Value) : Except Fault Value :=
  match form, given with
  | .scalar .float, [v] => buildFloat v
  | .scalar kind, [v] => .ok (.scalar kind v)
  | .quad kind, [a, b, c, d] => .ok (.quad kind a b c d)
  | .blob, [v] => .blob <$> v.toBytes memory
  | .nil, [] => .ok .nil
  | .infinitum, [] => .ok .infinitum
  | .array, [v] => .array <$> v.walk
  | .time, [seconds, fractional] => .ok (.time seconds fractional)
  | .message, [address] => .ok (.message address [])
  | .message, [address, arguments] => .message address <$> arguments.walk
  | .bundle, [timetag] => .ok (.bundle timetag [])
  | .bundle, [timetag, content] => .bundle timetag <$> content.walk
  | form, given =>
    let (needed, optional) := form.fields
    let most := needed.length + optional.length
    if given.length < needed.length then
      .error (.type (.missingFields form.name (needed.drop given.length)))
    else .error (.type (.tooManyFields form.name needed.length most given.length))

def build (form : Form) (given : List Value) : Except Fault Value :=
  form.buildIn ampleMemory given

end Form

end Osc.Value
