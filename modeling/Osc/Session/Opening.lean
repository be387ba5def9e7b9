import Osc.Session

/-!
Building what a session is about: over an endpoint in memory when the session starts, and
over a datagram socket when one is opened.
-/

namespace Osc.Session

/-- The name that the socket has among the handles. -/
def socketName : Text := Text.ofString "socket"

def hasReceiver : Layer → Bool
  | .receiver | .stream | .socket => true
  | .shared | .endpoint => false

def hasReferences : Layer → Bool
  | .shared | .socket => true
  | .receiver | .stream | .endpoint => false

/-- A receiver with its first buffer. -/
def addReceiver (s : Session) : Except Fault Session := do
  let capacity := s.settings.maxDatagramSize
  let limit ← Receiver.limitOf s.network.memory capacity
  let receiver : Receiver := ⟨capacity, limit, .idle (some s.buffers.length), false⟩
  return { (s.newBuffer receiver.bufferSize).1 with receiver := some receiver }

/-- Builds the session's layer over an endpoint. -/
def attach (s : Session) (settings : Settings) (endpoint : Endpoint) : Except Fault Session :=
  let s := { s with
    settings := settings
    link := .up endpoint
    references := if hasReferences s.layer then some 1 else none
    handles := if s.layer = .socket then [⟨socketName, false⟩] else [] }
  if hasReceiver s.layer then s.addReceiver else .ok s

/-- A session in which nothing was built yet. -/
def bare (layer : Layer) (codec : Codec) (settings : Except Fault Settings) (hosts : Hosts) :
    Session where
  layer := layer
  codec := codec
  settings := .default
  link := .down (.quiet hosts) settings
  buffers := []
  handed := []
  receives := []
  receiver := none
  references := none
  handles := []
  tasks := []
  ready := []
  finished := []
  warnings := []

/-- A session over a socket that is not open yet. A socket of the library is opened with
its own codec. -/
def unopened (layer : Layer) (codec : Codec) (settings : Except Fault Settings) (hosts : Hosts) :
    Session :=
  bare layer (if layer = .socket then .osc else codec) settings hosts

/-- A session over an endpoint in a memory of so many bytes. -/
def inMemoryOf (memory : Nat) (layer : Layer) (codec : Codec) (settings : Except Fault Settings)
    (hosts : Hosts) : Except Fault Session := do
  (bare layer codec settings hosts).attach (← settings) (.inMemory (.quietIn memory hosts))

/-- A session over an endpoint in memory. -/
def inMemory (layer : Layer) (codec : Codec) (settings : Except Fault Settings) (hosts : Hosts) :
    Except Fault Session :=
  inMemoryOf ampleMemory layer codec settings hosts

/-- The settings that a socket is opened with. -/
def openingSettings (s : Session) : Except Fault Settings :=
  match s.link with
  | .down _ settings => settings
  | .up _ => .ok s.settings

/-- Opens a socket in the network. A socket of the library takes its own settings, sees
failures to bind as its own, and looks at its address once it is bound. -/
def openSocket (layer : Layer) (settings : Settings) : Opening → Network.Op (Int × Value)
  | .adopt kind family => Network.adopt kind family
  | .bind address reuse => do
    if layer != .socket then Network.bind address reuse
    else
      let made ← tryCatch (Network.bind address settings.reuseAddress) fun fault =>
        throw (fault.wrapOs (.bind address))
      Network.failIfForeseen .localAddress
      return made

/-- What opening a socket gives. -/
def openingResult : Opening → Result
  | .bind .. => .nothing
  | .adopt .. => .sameSocket

/-- Opens a socket and builds the session over it. -/
def openAs (s : Session) (settings : Settings) (how : Opening) : Session × Outcome :=
  let (made, network) := (openSocket s.layer settings how).run.run s.network
  let s := s.mapNetwork fun _ => network
  match made with
  | .error fault => (s, .fault fault)
  | .ok (family, home) =>
    match s.attach settings (.ofSocket family home network) with
    | .error fault => (s, .fault fault)
    | .ok s => (s, .value (openingResult how))

/-- Opens a socket when its settings and its address can be had. -/
def openWith (s : Session) (how : Except Fault Opening) : Session × Outcome :=
  match s.openingSettings, how with
  | .error fault, _ | .ok _, .error fault => (s, .fault fault)
  | .ok settings, .ok how => s.openAs settings how

end Osc.Session
