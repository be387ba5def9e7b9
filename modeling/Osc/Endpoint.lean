import Osc.Network

/-!
Endpoints send and receive datagrams. One kind works in memory; the other is a
non-blocking datagram socket. A write that finds such a socket busy is to be tried again
when the socket is writable: all who wait for that share one latch, and one callback is
registered for the socket as long as the latch is closed.
-/

namespace Osc

open Text (ofString)

inductive Medium where
  | memory
  | socket (family : Int)

/-- The kind of a socket by its number; only datagram sockets can be used. -/
structure SocketKind where
  name : String
  number : Int

def SocketKind.datagram : SocketKind := ⟨"SOCK_DGRAM", 2⟩

def SocketKind.all : List SocketKind :=
  [⟨"SOCK_STREAM", 1⟩, .datagram, ⟨"SOCK_RAW", 3⟩, ⟨"SOCK_RDM", 4⟩, ⟨"SOCK_SEQPACKET", 5⟩,
    ⟨"SOCK_NONBLOCK", 2048⟩, ⟨"SOCK_CLOEXEC", 524288⟩]

/-- `latch` holds the tasks that wait until the socket is writable, in the order in which
they came; `watched` tells whether a callback is registered for that. -/
structure Endpoint where
  medium : Medium
  home : Value
  peer : Option Value
  closed : Bool
  latch : Option (List TaskId)
  watched : Bool
  network : Network

/-- The answer to one write. -/
inductive Attempt where
  | sent (count : Int)
  | busy

def OsError.badDescriptor : OsError := .numbered 9 "Bad file descriptor"

def OsError.noDestination : OsError := .numbered 89 "Destination address required"

def OsError.notConnected : OsError := .numbered 107 "Transport endpoint is not connected"

def Medium.typeName : Medium → String
  | .memory => "ScriptedEndpoint"
  | .socket _ => "UdpEndpoint"

namespace Endpoint

abbrev Op := ExceptT Fault (StateM Endpoint)

/-- A step in the network under the endpoint. -/
def onNetwork (step : Network.Op α) : Op α := do
  let e ← get
  let (answer, network) := step.run.run e.network
  set { e with network := network }
  match answer with
  | .ok a => return a
  | .error fault => throw fault

def inMemory (network : Network) : Endpoint where
  medium := .memory
  home := .tuple [.text (ofString "127.0.0.1"), .int 9000]
  peer := none
  closed := false
  latch := none
  watched := false
  network := network

def isSocket (e : Endpoint) : Bool :=
  match e.medium with
  | .memory => false
  | .socket _ => true

/-- Calls on a closed socket fail, whatever they are. -/
def failIfClosed : Op Unit := do
  let e ← get
  if e.isSocket && e.closed then throw (.os .badDescriptor)

/-- The socket address for an address, in the form that the medium takes. -/
def target (address : Value) : Op Value := do
  match (← get).medium with
  | .memory => return address
  | .socket family => onNetwork (Network.resolve address family)

def localAddress : Op Value := do
  failIfClosed
  onNetwork (Network.failIfForeseen .localAddress)
  return (← get).home

def peerAddress : Op Value := do
  failIfClosed
  match (← get).peer with
  | some peer => return peer
  | none => throw (.os .notConnected)

/-- Fixes the peer that later writes go to. A socket then looks at its own address, and
fails when that fails. -/
def connect (address : Value) : Op Unit := do
  let goal ← target address
  failIfClosed
  let e ← get
  if e.isSocket then onNetwork (Network.note (.connect goal))
  onNetwork (Network.failIfForeseen .connect)
  modify fun e => { e with peer := some goal }
  if e.isSocket then let _ ← localAddress

/-- Whether a write finds the socket busy; memory is never busy. -/
def isBusy (data : Bytes) : Op Bool := do
  if (← get).isSocket then onNetwork (Network.stall data) else return false

/-- Where a write goes: to a given socket address, or to the peer. -/
def destination (goal : Option Value) : Op Value := do
  match goal, (← get).peer with
  | some address, _ => return address
  | none, some peer => return peer
  | none, none => throw (.os .noDestination)

/-- Writes one datagram. -/
def attempt (data : Bytes) (goal : Option Value) : Op Attempt := do
  failIfClosed
  let address ← destination goal
  if ← isBusy data then return .busy
  match ← onNetwork (Network.failure? .send) with
  | some error =>
    if (← get).isSocket && error.isRetry then return .busy else throw (.os error)
  | none =>
    onNetwork (Network.record data address)
    return .sent (data.length - (← get).network.shortBy)

/-- Lets a task wait until the socket is writable. -/
def awaitWritable (e : Endpoint) (id : TaskId) : Endpoint :=
  match e.latch with
  | some tasks => { e with latch := some (tasks ++ [id]) }
  | none => { e with latch := some [id], watched := true }

/-- Takes a task out of those who wait; the latch and the callback stay. -/
def stopAwaiting (e : Endpoint) (id : TaskId) : Endpoint :=
  { e with latch := e.latch.map fun tasks => tasks.erase id }

/-- Opens the latch, and gives those who waited at it. -/
def openLatch (e : Endpoint) : Endpoint × List TaskId :=
  ({ e with latch := none, watched := false }, e.latch.getD [])

/-- Closes the endpoint. Tasks that waited to write are woken, to fail on it. -/
def close (e : Endpoint) : Endpoint × List TaskId :=
  let (opened, woken) := e.openLatch
  ({ opened with closed := true, network := e.network.noteClose }, woken)

end Endpoint

namespace Network

/-- A port that the system chooses when none is asked for. -/
def freePort : Int := 40000

/-- The address of a socket that was bound to a socket address. -/
def boundAddress : Value → Value
  | .tuple (host :: .int 0 :: rest) => .tuple (host :: .int freePort :: rest)
  | address => address

def unboundAddress : Value := .tuple [.text (ofString "0.0.0.0"), .int 0]

/-- Makes a socket that is bound to an address, and gives its family and its own address.
The socket looks at its own address once, and fails when that fails. -/
def bind (address reuse : Value) : Op (Int × Value) := do
  let (family, goal) ← lookup address
  note (.create family)
  if reuse.truth then note .reuseAddress
  note .nonBlocking
  note (.bind goal)
  match ← failure? .bind with
  | some error =>
    note .close
    throw (.os error)
  | none =>
    failIfForeseen .localAddress
    note .nonBlocking
    return (family, boundAddress goal)

/-- Takes over a new socket of a given kind. -/
def adopt (kind : SocketKind) (family : Int) : Op (Int × Value) := do
  note (.create family)
  if kind.number != SocketKind.datagram.number then
    throw (.value (.notDatagram kind.name kind.number))
  note .nonBlocking
  return (family, unboundAddress)

end Network

def Endpoint.ofSocket (family : Int) (home : Value) (network : Network) : Endpoint where
  medium := .socket family
  home := home
  peer := none
  closed := false
  latch := none
  watched := false
  network := network

end Osc
