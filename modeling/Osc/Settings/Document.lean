import Osc.Settings
import Osc.Toml.Reader
import Osc.Value.Equality

/-!
The settings in a TOML document: the entry `socket`, which should be a table of known
settings. An entry of another type is treated as the collection of names that it is, if
it is one: a text of its characters, an array of its items.
-/

namespace Osc.Settings

open Floating (Extent)

/-- The value of a document item; of tables, dates and times only the type is kept. -/
def valueOf : Toml.Item → Value
  | .text t => .text t
  | .integer n => .int n
  | .float x => .float x
  | .boolean b => .bool b
  | .date => .foreign .date
  | .localDateTime => .foreign .localDateTime
  | .offsetDateTime => .foreign .offsetDateTime
  | .timeOfDay => .foreign .timeOfDay
  | .array items => .list (valuesOf items)
  | .table _ => .foreign .mapping
where
  valuesOf : List Toml.Item → List Value
    | [] => []
    | item :: rest => valueOf item :: valuesOf rest

/-- A list with an item put in before the first that does not come before it. -/
def insertName (t : Text) : List Text → List Text
  | [] => [t]
  | u :: rest =>
    if t = u then u :: rest else if Text.before t u then t :: u :: rest else u :: insertName t rest

/-- The names in order, each once, that are no settings. -/
def unknown (given : List Text) : List Text :=
  (given.filter fun t => !names.contains t).foldl (fun sorted t => insertName t sorted) []

def refuseUnknown (path : Text) (given : List Text) (otherwise : Except Fault Settings) :
    Except Fault Settings :=
  match unknown given with
  | [] => otherwise
  | some_ => .error (.value (.unknownSettings path some_))

def isHashable : Value → Bool
  | .list _ | .foreign .mapping => false
  | _ => true

/-- Why two dates or times have no order, if they have none: a date has none with a time
on a date, and of two such times either both or none must have a time zone. -/
def datesUnordered? (d e : Foreign) : Option TypeFault :=
  match d, e with
  | .date, .localDateTime | .date, .offsetDateTime => some .dateWithDateTime
  | .localDateTime, .date | .offsetDateTime, .date => some .dateWithDateTime
  | .localDateTime, .offsetDateTime | .offsetDateTime, .localDateTime => some .mixedOffsets
  | _, _ => none

def isNumber : Value → Bool
  | .float _ => true
  | v => v.integer?.isSome

/-- Why two values have no order, if they have none: values of different types have none,
numbers apart. -/
def unordered? (v w : Value) : Option TypeFault :=
  match v, w with
  | .foreign d, .foreign e =>
    (datesUnordered? d e).or
      (if d.name = e.name then none else some (.notSortable d.name e.name))
  | v, w =>
    if isNumber v && isNumber w || v.typeName = w.typeName then none
    else some (.notSortable v.typeName w.typeName)

/-- Whether a value comes before another in a sorted collection. Dates and times that can
be compared are not told apart. -/
def before (v w : Value) : Except Fault Bool :=
  match v, w, v.extent?, w.extent? with
  | .text s, .text t, _, _ => .ok (Text.before s t && s != t)
  | _, _, some x, some y => .ok (x.le y && x != y)
  | v, w, _, _ =>
    match unordered? v w with
    | some fault => .error (.type fault)
    | none => .ok false

/-- The first item of a collection in sorted order. -/
def least (v : Value) : List Value → Except Fault Value
  | [] => .ok v
  | w :: rest => do if ← before w v then least w rest else least v rest

/-- An array in the place of the table of settings is never accepted: its items are
taken for names, and at best none of them is unknown. -/
def refuseArray (path : Text) (items : List Value) : Except Fault Settings :=
  match items.find? fun v => !isHashable v with
  | some v => .error (.type (.unhashable v.typeName))
  | none =>
    let texts := items.filterMap fun
      | .text t => some t
      | _ => none
    let strange := items.filter fun
      | .text t => !names.contains t
      | _ => true
    if texts.length = items.length then
      refuseUnknown path texts (.error (.type (.notMapping "list")))
    else
      match strange with
      | [] => .error (.type (.notMapping "list"))
      | v :: rest => do .error (.type (.notTextItem 0 (← least v rest).typeName))

/-- The settings of a document read from a file with a given path. -/
def ofDocument (path : Text) (document : Toml.Table) : Except Fault Settings :=
  match document.lookup (Text.ofString "socket") with
  | none => .ok default
  | some (.table fields) =>
    refuseUnknown path (fields.map Prod.fst)
      (ofFields (fields.map fun (name, item) => (name, valueOf item)))
  | some (.text t) => refuseUnknown path (t.map fun c => [c]) (.error (.type (.notMapping "str")))
  | some (.array items) => refuseArray path (items.map valueOf)
  | some item => .error (.type (.notIterable (valueOf item).typeName))

end Osc.Settings
