import Osc.Fault

/-!
The settings of a socket. Each may hold a value of any type; all that is checked is that
the size of the receive buffer compares as positive.
-/

namespace Osc

open Floating (Extent)

structure Settings where
  maxDatagramSize : Value
  rejectTruncated : Value
  reuseAddress : Value

namespace Settings

def defaultMaxDatagramSize : Nat := 64 * 1024

def default : Settings where
  maxDatagramSize := .int defaultMaxDatagramSize
  rejectTruncated := .bool true
  reuseAddress := .bool false

def names : List Text :=
  [Text.ofString "max_datagram_size", Text.ofString "reject_truncated",
    Text.ofString "reuse_address"]

/-- Whether a number is zero or below; what has no order is a fault. -/
def isNotPositive (v : Value) : Except Fault Bool :=
  match v.integer?, v with
  | some n, _ => .ok (n ≤ 0)
  | none, .float x =>
    match x.extent? with
    | some e => .ok (e.le (Extent.ofInt 0))
    | none => .ok false
  | none, v => .error (.type (.notOrdered v.typeName "int"))

def check (s : Settings) : Except Fault Settings := do
  if ← isNotPositive s.maxDatagramSize then
    .error (.value (.datagramSize s.maxDatagramSize))
  else return s

/-- The settings with those given by name; a name that is no setting is refused. -/
def assign (s : Settings) : List (Text × Value) → Except Fault Settings
  | [] => .ok s
  | (name, v) :: rest =>
    if name = Text.ofString "max_datagram_size" then assign { s with maxDatagramSize := v } rest
    else if name = Text.ofString "reject_truncated" then
      assign { s with rejectTruncated := v } rest
    else if name = Text.ofString "reuse_address" then assign { s with reuseAddress := v } rest
    else .error (.type (.unexpectedSetting name))

/-- The settings among some fields, whatever they hold; other names are passed over. -/
def pick (fields : List (Text × Value)) : Settings :=
  let named (name : String) (otherwise : Value) : Value :=
    (fields.lookup (Text.ofString name)).getD otherwise
  ⟨named "max_datagram_size" default.maxDatagramSize,
    named "reject_truncated" default.rejectTruncated,
    named "reuse_address" default.reuseAddress⟩

/-- The settings with the fields that are given, when they can be those of a socket. -/
def ofFields (fields : List (Text × Value)) : Except Fault Settings := do
  (← default.assign fields).check

end Settings

end Osc
