import Osc.Address.Lookup
import Osc.Allocation
import Osc.Inbox

/-!
The world outside an endpoint, as data: the table of names, the memory, what has arrived,
which calls will fail or find the socket busy, and a record of all that was done.
-/

namespace Osc

/-- The calls that can be made to fail. -/
inductive Operation where
  | bind
  | connect
  | send
  | localAddress
deriving DecidableEq

/-- What was done with a datagram socket. Of an endpoint in memory only closing is noted. -/
inductive Call where
  | create (family : Int)
  | nonBlocking
  | reuseAddress
  | bind (address : Value)
  | connect (address : Value)
  | stalled (data : Bytes)
  | close

/-- `shortBy` is by how much too few each count of sent bytes is, `stalls` how many of the
next writes find the socket busy, and `failures` which calls will fail next. -/
structure Network where
  hosts : Hosts
  memory : Nat
  shortBy : Int
  stalls : Nat
  failures : List (Operation × OsError)
  inbox : Inbox
  sent : List (Bytes × Value)
  calls : List Call
  lookups : List LookupRecord

namespace Network

/-- A step that may fail; what was done before a failure stays done. -/
abbrev Op := ExceptT Fault (StateM Network)

/-- A world of so much memory in which nothing has happened. -/
def quietIn (memory : Nat) (hosts : Hosts) : Network where
  hosts := hosts
  memory := memory
  shortBy := 0
  stalls := 0
  failures := []
  inbox := .empty
  sent := []
  calls := []
  lookups := []

def quiet (hosts : Hosts) : Network := quietIn ampleMemory hosts

def note (call : Call) : Op Unit := modify fun n => { n with calls := n.calls ++ [call] }

def noteClose (n : Network) : Network := { n with calls := n.calls ++ [.close] }

def record (data : Bytes) (address : Value) : Op Unit :=
  modify fun n => { n with sent := n.sent ++ [(data, address)] }

/-- The first failure foreseen for an operation; it happens once. -/
def failure? (operation : Operation) : Op (Option OsError) := do
  let n ← get
  match n.failures.find? fun (o, _) => o = operation with
  | none => return none
  | some found =>
    set { n with failures := n.failures.eraseP fun (o, _) => o = operation }
    return some found.2

def failIfForeseen (operation : Operation) : Op Unit := do
  match ← failure? operation with
  | some error => throw (.os error)
  | none => return ()

/-- Whether the socket is busy for a write, which is then noted. -/
def stall (data : Bytes) : Op Bool := do
  let n ← get
  match n.stalls with
  | 0 => return false
  | left + 1 =>
    set { n with stalls := left }
    note (.stalled data)
    return true

def noteLookups (records : List LookupRecord) : Op Unit :=
  modify fun n => { n with lookups := n.lookups ++ records }

/-- The socket address that an address stands for. -/
def resolve (address : Value) (family : Int) : Op Value := do
  let (records, found) := Lookup.resolve (← get).hosts address family
  noteLookups records
  match found with
  | .ok target => return target
  | .error fault => throw fault

/-- The family and the socket address to bind to. -/
def lookup (address : Value) : Op (Int × Value) := do
  let (records, found) := Lookup.lookup (← get).hosts address AddressFamily.any
  noteLookups records
  match found with
  | .ok target => return target
  | .error fault => throw fault

end Network

end Osc
