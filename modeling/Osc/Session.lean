import Osc.Session.Task

/-!
The state of a session: an endpoint with all that was built over it, the tasks that use
it, and the queue of those whose turn it is. A turn is given to the first in the queue,
and who becomes ready goes to its end.
-/

namespace Osc

/-- A session over a socket has no endpoint before it is opened, which takes settings. -/
inductive Link where
  | down (network : Network) (settings : Except Fault Settings)
  | up (endpoint : Endpoint)

/-- Turns: a task starts or goes on, a task is told of the end of what it watches, a
receive operation starts or goes on. -/
inductive Turn where
  | resume (task : TaskId)
  | signal (task : TaskId)
  | receive (id : ReceiveId)
deriving DecidableEq

/-- `handed` lists the buffers that the endpoint was ever given, in the order of their
first use; `finished` lists the tasks in the order in which they ended. -/
structure Session where
  layer : Layer
  codec : Codec
  settings : Settings
  link : Link
  buffers : List Buffer
  handed : List BufferId
  receives : List Receive
  receiver : Option Receiver
  references : Option Nat
  handles : List Handle
  tasks : List Task
  ready : List Turn
  finished : List TaskId
  warnings : List CutWarning

namespace Session

def network (s : Session) : Network :=
  match s.link with
  | .down network _ => network
  | .up endpoint => endpoint.network

def mapNetwork (s : Session) (f : Network → Network) : Session :=
  match s.link with
  | .down network settings => { s with link := .down (f network) settings }
  | .up endpoint => { s with link := .up { endpoint with network := f endpoint.network } }

def endpoint? (s : Session) : Option Endpoint :=
  match s.link with
  | .down .. => none
  | .up endpoint => some endpoint

def setInbox (s : Session) (inbox : Inbox) : Session :=
  s.mapNetwork fun n => { n with inbox := inbox }

/-- A step of the endpoint; without an endpoint it fails as on a closed one. -/
def onEndpoint (s : Session) (step : Endpoint.Op α) : Session × Except Fault α :=
  match s.link with
  | .down .. => (s, .error (.os .badDescriptor))
  | .up endpoint =>
    let (answer, endpoint) := step.run.run endpoint
    ({ s with link := .up endpoint }, answer)

/-- Whether there is an endpoint and it is closed. -/
def isEndpointClosed (s : Session) : Bool := s.endpoint?.any Endpoint.closed

def task? (s : Session) (id : TaskId) : Option Task := s.tasks[id]?

def receive? (s : Session) (id : ReceiveId) : Option Receive := s.receives[id]?

def setStatus (s : Session) (id : TaskId) (status : TaskStatus) : Session :=
  { s with tasks := s.tasks.modify id fun t => { t with status := status } }

def setReceive (s : Session) (id : ReceiveId) (status : ReceiveStatus) : Session :=
  { s with receives := s.receives.modify id fun r => { r with status := status } }

def setReceiver (s : Session) (f : Receiver → Receiver) : Session :=
  { s with receiver := s.receiver.map f }

def queue (s : Session) (turns : List Turn) : Session := { s with ready := s.ready ++ turns }

/-- The buffer that a receive or a task is given for an arrival. -/
def hand (s : Session) (buffer : BufferId) : Session :=
  if buffer ∈ s.handed then s else { s with handed := s.handed ++ [buffer] }

def newBuffer (s : Session) (size : Nat) : Session × BufferId :=
  ({ s with buffers := s.buffers ++ [Buffer.empty size] }, s.buffers.length)

def buffer (s : Session) (id : BufferId) : Buffer := s.buffers.getD id (Buffer.empty 0)

/-- The handle of the socket itself. -/
def socketHandle : HandleId := 0

/-- The latest handle of a name. -/
def handleId? (s : Session) (name : Text) : Option HandleId :=
  (s.handles.zipIdx.reverse.find? fun (h, _) => h.name = name).map Prod.snd

def isHandleClosed (s : Session) (id : HandleId) : Bool := s.handles[id]?.any Handle.closed

/-- The latest task of a name. -/
def taskId? (s : Session) (name : Text) : Option TaskId :=
  (s.tasks.zipIdx.reverse.find? fun (t, _) => t.name = name).map Prod.snd

end Session

end Osc
