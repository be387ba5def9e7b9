import Osc.Address.IpLiteral

/-!
Finding the numeric address of a host. Names are looked up in a table that stands for
the resolver; an address that is a tuple with a numeric host needs no lookup and is
used as it is. Every lookup is recorded.
-/

namespace Osc

open Text (ofString)

/-- The address families: any, version 4 and version 6, by number. -/
def AddressFamily.any : Int := 0

def AddressFamily.version4 : Int := 2

def AddressFamily.version6 : Int := 10

inductive HostEntry where
  | addresses (found : List (Int × Text))
  | failure (error : OsError)

abbrev Hosts := List (Text × HostEntry)

structure LookupRecord where
  host : Text
  port : Int
  family : Int

namespace Lookup

def unknownName : OsError := .numbered (-2) "Name or service not known"

/-- A socket address of a family. -/
def socketAddress (family : Int) (ip : Text) (port : Int) : Value :=
  if family = AddressFamily.version6 then .tuple [.text ip, .int port, .int 0, .int 0]
  else .tuple [.text ip, .int port]

def noAddress (host : Text) (port : Int) : OsError :=
  ⟨[.text (ofString "No address found for " ++ host ++ ofString ":" ++ Text.ofInt port)]⟩

/-- The first address of the family that a host has, with its own family. -/
def find (hosts : Hosts) (host : Text) (port family : Int) : Except Fault (Int × Value) :=
  match hosts.lookup host with
  | none => .error (.os unknownName)
  | some (.failure error) => .error (.os error)
  | some (.addresses found) =>
    match found.find? fun (f, _) => family == AddressFamily.any || f == family with
    | some (f, ip) => .ok (f, socketAddress f ip port)
    | none => .error (.os (noAddress host port))

/-- Splits an address and looks its host up. -/
def lookup (hosts : Hosts) (address : Value) (family : Int) :
    List LookupRecord × Except Fault (Int × Value) :=
  match Address.split address with
  | .error fault => ([], .error fault)
  | .ok (host, port) => ([⟨host, port, family⟩], find hosts host port family)

/-- Whether an address can be used without a lookup. -/
def isResolved (address : Value) : Except Fault Bool :=
  match address with
  | .tuple _ => do return IpLiteral.isLiteral (← Address.item address 0).asText
  | _ => .ok false

def resolve (hosts : Hosts) (address : Value) (family : Int) :
    List LookupRecord × Except Fault Value :=
  match isResolved address with
  | .error fault => ([], .error fault)
  | .ok true => ([], .ok address)
  | .ok false =>
    let (records, found) := lookup hosts address family
    (records, found.map Prod.snd)

end Lookup

end Osc
