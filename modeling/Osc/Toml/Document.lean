import Osc.Floating.Binary
import Osc.Text

/-!
TOML documents and how they grow. A document is a tree of tables; of each key path it
also remembers whether its table was declared and whether its value is closed, so that
nothing is declared twice and no inline table or array is extended.
-/

namespace Osc.Toml

open Floating (Binary64)

/-- Of dates and times only the kind is kept. -/
inductive Item where
  | text (t : Text)
  | integer (n : Int)
  | float (x : Binary64)
  | boolean (b : Bool)
  | date
  | localDateTime
  | offsetDateTime
  | timeOfDay
  | array (items : List Item)
  | table (fields : List (Text × Item))

abbrev Table := List (Text × Item)

abbrev Key := List Text

namespace Table

/-- The table with the value of a key replaced, in its place. -/
def replace (table : Table) (name : Text) (item : Item) : Table :=
  table.map fun (n, old) => if n == name then (n, item) else (n, old)

/-- Changes the table at the end of a key path, making the tables on the way that are
missing. An array on the way stands for its last table where `arrays` allows it. -/
def change (arrays : Bool) (f : Table → Option Table) : Key → Table → Option Table
  | [], table => f table
  | name :: key, table =>
    match table.lookup name with
    | none => do
      let inner ← change arrays f key []
      return table ++ [(name, .table inner)]
    | some (.table inner) => do
      let inner ← change arrays f key inner
      return replace table name (.table inner)
    | some (.array items) =>
      match arrays, items.getLast? with
      | true, some (.table inner) => do
        let inner ← change arrays f key inner
        return replace table name (.array (items.dropLast ++ [.table inner]))
      | _, _ => none
    | some _ => none

/-- Adds a key that must be new. -/
def add (name : Text) (item : Item) (table : Table) : Option Table :=
  if (table.lookup name).isSome then none else some (table ++ [(name, item)])

/-- Adds a value at a key path. -/
def insert (arrays : Bool) (key : Key) (item : Item) (table : Table) : Option Table :=
  match key.getLast? with
  | none => none
  | some name => change arrays (add name item) key.dropLast table

/-- Adds an empty table to the array of tables at a key path. -/
def append (key : Key) (table : Table) : Option Table :=
  match key.getLast? with
  | none => none
  | some name =>
    change true (fun parent =>
      match parent.lookup name with
      | none => some (parent ++ [(name, .array [.table []])])
      | some (.array items) => some (replace parent name (.array (items ++ [.table []])))
      | some _ => none) key.dropLast table

end Table

def Item.isContainer : Item → Bool
  | .array _ | .table _ => true
  | _ => false

/-- A document while it is read: the content, the paths of declared tables, those that
become declared with the next header, the paths that are closed, and the open header. -/
structure Document where
  content : Table
  declared : List Key
  pending : List Key
  closed : List Key
  header : Key

namespace Document

def empty : Document := ⟨[], [], [], [], []⟩

def isDeclared (d : Document) (key : Key) : Bool := d.declared.contains key

/-- A path is closed when it or a path above it is. -/
def isClosed (d : Document) (key : Key) : Bool := d.closed.any fun path => path.isPrefixOf key

def settle (d : Document) : Document :=
  { d with declared := d.declared ++ d.pending, pending := [] }

/-- A header for a table. -/
def openTable (d : Document) (key : Key) : Option Document := do
  let d := d.settle
  if d.isDeclared key || d.isClosed key then none
  else
    let content ← d.content.change true some key
    return { d with content, declared := key :: d.declared, header := key }

/-- A header for one more table of an array. What was declared below the previous one
does not count for it. -/
def openElement (d : Document) (key : Key) : Option Document := do
  let d := d.settle
  if d.isClosed key then none
  else
    let content ← d.content.append key
    let outside (path : Key) : Bool := !key.isPrefixOf path
    return {
      content
      declared := key :: d.declared.filter outside
      pending := d.pending
      closed := d.closed.filter outside
      header := key }

/-- A key with a value, below the open header. The tables that a dotted key passes
through must not have been declared. -/
def assign (d : Document) (key : Key) (item : Item) : Option Document := do
  let passed := (List.range (key.length - 1)).map fun n => d.header ++ key.take (n + 1)
  if passed.any d.isDeclared || d.isClosed (d.header ++ key.dropLast) then none
  else
    let content ← d.content.insert true (d.header ++ key) item
    return { d with
      content
      pending := d.pending ++ passed
      closed := if item.isContainer then (d.header ++ key) :: d.closed else d.closed }

end Document

end Osc.Toml
