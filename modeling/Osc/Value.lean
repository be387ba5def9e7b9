import Osc.Floating.Binary
import Osc.Text

/-!
Values as callers hand them over, before anything is known about their types: plain
values, and packets and arguments whose fields may hold any value at all. A typed
packet is one of these values; the reverse is what encoding and conversion check.
-/

namespace Osc

open Floating (Binary64)

/-- The three kinds of byte string; they are read alike and named apart. -/
inductive ByteForm where
  | fixed
  | growing
  | view
deriving DecidableEq

/-- Types of which only the name, the emptiness and the items matter here. -/
inductive Foreign where
  | mapping
  | set
  | frozenSet
  | complex
  | object
  | range
  | date
  | localDateTime
  | offsetDateTime
  | timeOfDay
deriving DecidableEq

/-- Arguments with one field that may hold anything. -/
inductive ScalarKind where
  | int
  | float
  | string
  | time
  | long
  | double
  | char
  | bool
deriving DecidableEq

/-- Arguments with four fields of one byte each. -/
inductive QuadKind where
  | color
  | midi
deriving DecidableEq

inductive Value where
  | none
  | bool (b : Bool)
  | int (n : Int)
  | float (x : Binary64)
  | text (t : Text)
  | bytes (form : ByteForm) (data : Bytes)
  | list (items : List Value)
  | tuple (items : List Value)
  | foreign (kind : Foreign)
  | scalar (kind : ScalarKind) (value : Value)
  | quad (kind : QuadKind) (first second third fourth : Value)
  | blob (data : Bytes)
  | nil
  | infinitum
  | array (items : List Value)
  | time (seconds fractional : Value)
  | message (address : Value) (arguments : List Value)
  | bundle (timetag : Value) (content : List Value)

instance : Inhabited Value := ⟨.none⟩

def ByteForm.name : ByteForm → String
  | .fixed => "bytes"
  | .growing => "bytearray"
  | .view => "memoryview"

def Foreign.name : Foreign → String
  | .mapping => "dict"
  | .set => "set"
  | .frozenSet => "frozenset"
  | .complex => "complex"
  | .object => "object"
  | .range => "range"
  | .date => "datetime.date"
  | .localDateTime | .offsetDateTime => "datetime.datetime"
  | .timeOfDay => "datetime.time"

/-- The name without the module that the type is from. -/
def Foreign.bareName : Foreign → String
  | .date => "date"
  | .localDateTime | .offsetDateTime => "datetime"
  | .timeOfDay => "time"
  | kind => kind.name

def ScalarKind.name : ScalarKind → String
  | .int => "Int"
  | .float => "Float"
  | .string => "String"
  | .time => "Time"
  | .long => "Long"
  | .double => "Double"
  | .char => "Char"
  | .bool => "Bool"

def QuadKind.name : QuadKind → String
  | .color => "Color"
  | .midi => "Midi"

def QuadKind.fieldNames : QuadKind → String × String × String × String
  | .color => ("red", "green", "blue", "alpha")
  | .midi => ("port", "status", "data1", "data2")

namespace Value

/-- The name of the type of a value, as messages give it. -/
def typeName : Value → String
  | .none => "NoneType"
  | .bool _ => "bool"
  | .int _ => "int"
  | .float _ => "float"
  | .text _ => "str"
  | .bytes form _ => form.name
  | .list _ => "list"
  | .tuple _ => "tuple"
  | .foreign kind => kind.name
  | .scalar kind _ => kind.name
  | .quad kind .. => kind.name
  | .blob _ => "Blob"
  | .nil => "Nil"
  | .infinitum => "Inf"
  | .array _ => "Array"
  | .time .. => "OscTime"
  | .message .. => "OscMessage"
  | .bundle .. => "OscBundle"

/-- The name of the type alone, as the messages of this library give it. -/
def bareTypeName : Value → String
  | .foreign kind => kind.bareName
  | v => v.typeName

/-- Whole numbers, the two truth values counting as one and zero. -/
def integer? : Value → Option Int
  | .bool b => some (if b then 1 else 0)
  | .int n => some n
  | _ => Option.none

/-- Real numbers, integers being rounded to the nearest one that exists. -/
def real? : Value → Option Binary64
  | .float x => some x
  | v => v.integer?.bind (Floating.Binary.ofInt? .double)

/-- The items of a value that can be walked through. -/
def items? : Value → Option (List Value)
  | .list items | .tuple items => some items
  | .text t => some (t.map fun c => .text [c])
  | .bytes _ data => some (data.map fun b => .int b.toNat)
  | .foreign .mapping | .foreign .set | .foreign .frozenSet => some []
  | .foreign .range => some [.int 0, .int 1, .int 2]
  | _ => Option.none

/-- The size of a value that has one. -/
def length? (v : Value) : Option Nat := v.items?.map List.length

/-- Nothing, zero and what is empty count as false. -/
def truth : Value → Bool
  | .none => false
  | .bool b => b
  | .int n => n != 0
  | .float x => !x.isZero
  | v => v.length? != some 0

end Value

end Osc
