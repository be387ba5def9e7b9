import Osc.Session.Opening
import Osc.Session.Pull
import Osc.Session.Write

/-!
What tasks do in a turn: the part of each action up to its end or its first wait, and how
it goes on after a wait.
-/

namespace Osc

open Text (ofString)

namespace Session

/-- Looks a handle up; an unknown one is a fault. -/
def withHandle (s : Session) (name : Text) (use : HandleId → Session × Progress) :
    Session × Progress :=
  match s.handleId? name with
  | some handle => use handle
  | none => (s, .finished (.fault (.unknownKey (.text name))))

/-- The end of a task that only asked the endpoint. -/
def answered (result : α → Result) : Session × Except Fault α → Session × Progress
  | (s, answer) => (s, .finished (.ofAnswer result answer))

/-- Calls on handles fail when the handle is closed, and see failures of the system as
failures of transport. -/
def onHandle (s : Session) (handle : HandleId) (closed : TransportFault)
    (wrap : OsError → TransportFault) (result : α → Result) (step : Endpoint.Op α) :
    Session × Progress :=
  if s.isHandleClosed handle then (s, .finished (.fault (.transport closed)))
  else
    let (s, answer) := s.onEndpoint step
    answered result (s, answer.mapError (Fault.wrapOs wrap))

/-- Makes another handle that holds a reference of its own. -/
def cloneHandle (s : Session) (handle : HandleId) (name : Text) (result : Result) :
    Session × Progress :=
  if s.isHandleClosed handle then (s, .finished (.fault (.transport .senderClosed)))
  else
    match s.acquire with
    | (s, .error fault) => (s, .finished (.fault fault))
    | (s, .ok ()) =>
      ({ s with handles := s.handles ++ [⟨name, false⟩] }, .finished (.value result))

/-- The type of the socket under an endpoint. -/
def socketTypeName : String := "FakeSocket"

def socketType (s : Session) : Outcome :=
  match s.endpoint? with
  | none => .unopened
  | some endpoint =>
    if endpoint.isSocket then .value (.socketType socketTypeName)
    else .fault (.noSocket endpoint.medium.typeName)

def shown (s : Session) : Outcome :=
  match s.endpoint? with
  | none => .unopened
  | some endpoint =>
    .value (.shown (ofString (endpoint.medium.typeName ++ "(" ++ socketTypeName ++ ")")))

/-- Starts a receive by a task itself, into a buffer of its own. -/
def receiveInto (s : Session) (id : TaskId) (buffer : BufferId) : Session × Progress :=
  match s.takeArrival buffer with
  | (s, some (.arrived count peer)) =>
    (s, .finished (.value (.received count peer (s.buffer buffer).bytes)))
  | (s, some (.failed error)) => (s, .finished (.fault (.os error)))
  | (s, some .cancelled) => (s, .finished .cancelled)
  | (s, none) => (s.setInbox (s.network.inbox.wait (.task id)), .blocked (.taking buffer))

/-- Goes on with a receive. One that is cancelled leaves its turn to the next. -/
def resumeReceive (s : Session) (id : TaskId) (buffer : BufferId) : Wake → Session × Progress
  | .due => s.receiveInto id buffer
  | .dueCancelled => (s.passTurn, .finished .cancelled)
  | .cancelled => (s, .finished .cancelled)

def pullUse (layer : Layer) (use : ItemUse) : PullUse :=
  if layer = .receiver then .datagram else .stream use

def follow (s : Session) (script : Script) : Session :=
  s.mapNetwork fun n => { n with
    shortBy := script.shortBy.getD n.shortBy
    stalls := n.stalls + script.stalls
    failures := n.failures ++ script.failures }

/-- The fault of cloning the socket itself, since only senders have clones. -/
def noClone : Fault := .field (.attribute "OscSocket" "clone")

/-- The part of an action up to its end or its first wait, on an endpoint. -/
def perform (s : Session) (id : TaskId) : Action → Session × Progress
  | .feed arrival => (s.feed arrival, .finished (.value .nothing))
  | .script (.ok script) => (s.follow script, .finished (.value .nothing))
  | .script (.error fault) => (s, .finished (.fault fault))
  | .cancel name =>
    match s.taskId? name with
    | none => (s, .finished (.fault (.unknownKey (.text name))))
    | some target =>
      let (s, effective) := s.cancelTask target
      (s, .finished (.value (.cancelled effective)))
  | .closeEndpoint => (s.closeEndpoint, .finished (.value .nothing))
  | .writable =>
    let (s, fired) := s.reportWritable
    (s, .finished (.value (.fired fired)))
  | .acquire => answered (fun _ => .acquired) s.acquire
  | .release => answered (fun _ => .nothing) s.release
  | .next patience => s.pull id ⟨pullUse s.layer .item, patience⟩
  | .iterate most patience => s.pull id ⟨pullUse s.layer (.items [] most), patience⟩
  | .recv patience => s.pull id ⟨.stream .packet, patience⟩
  | .cancelReceive =>
    let (s, found) := s.cancelReceiver
    (s, .finished (.value (.receiveCancelled found.isSome)))
  | .connect address =>
    if s.layer = .socket then
      s.onHandle socketHandle .socketClosed (.connect address) (fun _ => .nothing)
        (Endpoint.connect address)
    else answered (fun _ => .nothing) (s.onEndpoint (Endpoint.connect address))
  | .write data address => s.startWrite id data address .count
  | .send handle parcel =>
    s.withHandle handle fun h =>
      match parcel with
      | .ok parcel => s.send id h parcel (.packet parcel.address)
      | .error fault => (s, .finished (.fault fault))
  | .sendWithin handle parcel =>
    s.withHandle handle fun h =>
      match parcel with
      | .ok parcel => s.send id h parcel (.packetThenClose parcel.address h)
      | .error fault => s.closeHandle id h (.fault fault)
  | .receive size =>
    match allocation s.network.memory size with
    | .ok room =>
      let (s, buffer) := s.newBuffer room
      (s.hand buffer).receiveInto id buffer
    | .error fault => (s, .finished (.fault fault))
  | .sender name => s.cloneHandle socketHandle name .sameEndpoint
  | .clone handle name =>
    s.withHandle handle fun h =>
      if h = socketHandle then (s, .finished (.fault noClone))
      else s.cloneHandle h name .nothing
  | .close handle => s.withHandle handle fun h => s.closeHandle id h (.value .nothing)
  | .localAddress handle =>
    if s.layer = .socket then
      s.withHandle handle fun h =>
        s.onHandle h .senderClosed .localAddress .address Endpoint.localAddress
    else answered .address (s.onEndpoint Endpoint.localAddress)
  | .peerAddress =>
    if s.layer = .socket then
      s.onHandle socketHandle .socketClosed .peerAddress .address Endpoint.peerAddress
    else answered .address (s.onEndpoint Endpoint.peerAddress)
  | .socketType => (s, .finished s.socketType)
  | .settings => (s, .finished (.value (.settings s.settings)))
  | .shown => (s, .finished s.shown)
  | .opening how =>
    let (s, outcome) := s.openWith how
    (s, .finished outcome)
  | .refuse fault => (s, .finished (.fault fault))

/-- Without an endpoint only the network can be prepared and a socket be opened. -/
def begin (s : Session) (id : TaskId) (action : Action) : Session × Progress :=
  match s.link, action with
  | .down .., .script _ | .down .., .opening _ => s.perform id action
  | .down .., _ => (s, .finished .unopened)
  | .up _, _ => s.perform id action

/-- Goes on after a wait. -/
def proceed (s : Session) (id : TaskId) (wake : Wake) : Wait → Session × Progress
  | .pulling receive pull => s.resumePull id receive pull wake
  | .writing write => s.resumeWrite id write wake
  | .closing _ cancelled outcome => s.resumeClose cancelled outcome wake
  | .taking buffer => s.resumeReceive id buffer wake

end Session

end Osc
