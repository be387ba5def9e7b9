import Osc.Session.Receiving

/-!
Pulls: what a task does to get the next datagram or the next item of a stream. A pull
joins the receive operation that is under way or starts one, and waits for its end. A
pull that is cancelled leaves the operation running, so that the next pull finds what it
brought.
-/

namespace Osc.Session

/-- What a pull ends with before it waits for anything: the stream has ended, or another
task is inside a pull. -/
def refusePull (s : Session) (pull : Pull) : Session × Option Outcome :=
  if s.layer = .socket && s.isHandleClosed socketHandle then (s, some pull.use.stopped)
  else if s.isEndpointClosed then (s.cancelReceiver.1, some pull.use.stopped)
  else if s.receiver.any Receiver.waiting then
    (s, some (.fault (.runtime .alreadyReceiving)))
  else (s, none)

/-- The buffer for the next receive operation. -/
def receiveBuffer (s : Session) (r : Receiver) : Session × BufferId :=
  match r.state with
  | .idle (some buffer) => (s, buffer)
  | .idle none | .receiving _ => s.newBuffer r.bufferSize

/-- The operation that is under way, or a new one. -/
def startReceive (s : Session) (r : Receiver) : Session × ReceiveId :=
  match r.state with
  | .receiving id => (s, id)
  | .idle _ =>
    let (s, buffer) := s.receiveBuffer r
    let id := s.receives.length
    ({ s with receives := s.receives ++ [Receive.start buffer] }.setReceiver
      (fun r => { r with state := .receiving id }) |>.queue [.receive id], id)

/-- Waits for the receive operation. -/
def joinReceive (s : Session) (id : TaskId) (pull : Pull) : Session × Progress :=
  match s.receiver with
  | none => (s, .finished .unopened)
  | some r =>
    let (s, receive) := s.startReceive r
    ((s.setReceiver fun r => { r with waiting := true }).watch receive id,
      .blocked (.pulling receive pull))

/-- A pull that does not find an operation that has already ended. -/
def pullAgain (s : Session) (id : TaskId) (pull : Pull) : Session × Progress :=
  match s.refusePull pull with
  | (s, some outcome) => (s, .finished outcome)
  | (s, none) => s.joinReceive id pull

/-- Uses an item of the stream, and pulls again when more are wanted. -/
def useItem (s : Session) (id : TaskId) (patience : Nat) (use : ItemUse) (item : Item) :
    Session × Progress :=
  match use.take item with
  | .inl outcome => (s, .finished outcome)
  | .inr more => s.pullAgain id ⟨.stream more, patience⟩

/-- Uses a datagram; a stream decodes it. -/
def useDatagram (s : Session) (id : TaskId) (pull : Pull) (r : Receiver) (datagram : Datagram) :
    Session × Progress :=
  match pull.use with
  | .datagram => (s, .finished (.value (.datagram (some datagram))))
  | .stream use =>
    let reject := s.settings.rejectTruncated.truth
    let s := { s with
      warnings := s.warnings ++ (CutWarning.ofDatagram? r.limit reject datagram).toList }
    match Item.ofDatagram s.codec r.capacity reject datagram with
    | .ok item => s.useItem id pull.patience use item
    | .error fault => (s, .finished (.fault fault))

/-- Uses a failure to receive, which for a stream is an item. -/
def useFailure (s : Session) (id : TaskId) (pull : Pull) (error : OsError) :
    Session × Progress :=
  match pull.use with
  | .datagram => (s, .finished (.fault (.transport (.receive error))))
  | .stream use => s.useItem id pull.patience use (.receiveFailed (.receive error))

def cancelRequests (s : Session) (id : TaskId) : Nat :=
  ((s.task? id).map Task.cancelRequests).getD 0

/-- The outcome of a pull whose receive operation was cancelled: the end of the stream, or
a cancellation when the task was ever asked to stop. -/
def pullCancelled (s : Session) (id : TaskId) (pull : Pull) : Outcome :=
  if s.cancelRequests id = 0 then pull.use.stopped else .cancelled

/-- Takes what a receive operation has brought. After a failure the buffer is given up. -/
def collect (s : Session) (id : TaskId) (pull : Pull) (receive : Receive) :
    Session × Progress :=
  match s.receiver, receive.outcome? with
  | some r, some (.arrived count peer) =>
    let datagram := Datagram.ofBuffer r.limit (s.buffer receive.buffer) count peer
    (s.setReceiver fun r => { r with state := .idle (some receive.buffer) }).useDatagram id pull r
      datagram
  | some _, some (.failed error) =>
    (s.setReceiver fun r => { r with state := .idle none }).useFailure id pull error
  | _, _ => (s, .finished (s.pullCancelled id pull))

/-- The receive operation that has ended and whose result was not taken. -/
def uncollected? (s : Session) : Option Receive :=
  match s.receiver.map Receiver.state with
  | some (.receiving id) => (s.receive? id).filter Receive.isFinished
  | _ => none

/-- Pulls: takes at once what an earlier pull has left, or waits. -/
def pull (s : Session) (id : TaskId) (pull : Pull) : Session × Progress :=
  match s.refusePull pull with
  | (s, some outcome) => (s, .finished outcome)
  | (s, none) =>
    match s.uncollected? with
    | some receive => s.collect id pull receive
    | none => s.joinReceive id pull

/-- Whether a wait for a receive operation ended with a cancellation: that of the task, or
that of the operation when the task was ever asked to stop. -/
def isInterrupted (s : Session) (id : TaskId) (receive : Receive) (wake : Wake) : Bool :=
  wake.isCancelled || receive.isCancelled && s.cancelRequests id != 0

/-- Goes on after the wait for a receive operation. When the task was cancelled, what the
operation brought stays for the next pull. -/
def resumePull (s : Session) (id : TaskId) (receive : ReceiveId) (pull : Pull) (wake : Wake) :
    Session × Progress :=
  let s := s.setReceiver fun r => { r with waiting := false }
  match s.receive? receive with
  | none => (s, .finished .cancelled)
  | some r =>
    if s.isInterrupted id r wake then
      match pull.patience with
      | 0 => (s, .finished .cancelled)
      | left + 1 => s.pull id { pull with patience := left }
    else s.collect id pull r

end Osc.Session
