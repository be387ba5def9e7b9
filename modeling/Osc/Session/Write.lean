import Osc.Session.Receiving

/-!
Writes and closing. A write that finds the socket busy waits until it is writable and
tries again. Closing the socket stops its receive operation, waits for the end of that,
and only then gives back the reference to the endpoint.
-/

namespace Osc.Session

/-- Closes the endpoint and wakes the tasks that wait to write to it. -/
def closeEndpoint (s : Session) : Session :=
  match s.link with
  | .down .. => s
  | .up endpoint =>
    let (endpoint, woken) := endpoint.close
    { s with link := .up endpoint }.signalAll woken

/-- Reports that the socket is writable, and tells whether anyone had asked. -/
def reportWritable (s : Session) : Session × Bool :=
  match s.link with
  | .down .. => (s, false)
  | .up endpoint =>
    if endpoint.watched then
      let (endpoint, woken) := endpoint.openLatch
      ({ s with link := .up endpoint }.signalAll woken, true)
    else (s, false)

def awaitWritable (s : Session) (id : TaskId) : Session :=
  match s.link with
  | .down .. => s
  | .up endpoint => { s with link := .up (endpoint.awaitWritable id) }

def acquire (s : Session) : Session × Except Fault Unit :=
  match References.acquire (s.references.getD 0) with
  | .ok count => ({ s with references := some count }, .ok ())
  | .error fault => (s, .error (.runtime fault))

/-- Gives back one reference; the last one closes the endpoint. -/
def release (s : Session) : Session × Except Fault Unit :=
  match References.release (s.references.getD 0) with
  | .error fault => (s, .error (.runtime fault))
  | .ok 0 => ({ s with references := some 0 }.closeEndpoint, .ok ())
  | .ok count => ({ s with references := some count }, .ok ())

/-- Closes a handle: a closed one stays as it is, any other gives back its reference. -/
def releaseHandle (s : Session) (handle : HandleId) : Session × Except Fault Unit :=
  if s.isHandleClosed handle then (s, .ok ())
  else
    { s with handles := s.handles.modify handle fun h => { h with closed := true } }.release

/-- Ends with an outcome that stood before a handle was closed, unless closing failed. -/
def concludeClose (outcome : Outcome) : Session × Except Fault Unit → Session × Progress
  | (s, .ok ()) => (s, .finished outcome)
  | (s, .error fault) => (s, .finished (.fault fault))

/-- Closes a handle and then ends with an outcome. For the socket this first waits for the
end of the receive operation. -/
def closeHandle (s : Session) (id : TaskId) (handle : HandleId) (outcome : Outcome) :
    Session × Progress :=
  if handle = socketHandle && !s.isHandleClosed handle then
    match s.cancelReceiver with
    | (s, some receive) => (s.watch receive id, .blocked (.closing receive false outcome))
    | (s, none) => concludeClose outcome (s.releaseHandle handle)
  else concludeClose outcome (s.releaseHandle handle)

/-- Goes on with closing the socket. A task that was cancelled leaves it open. -/
def resumeClose (s : Session) (cancelled : Bool) (outcome : Outcome) (wake : Wake) :
    Session × Progress :=
  if cancelled || wake.isCancelled then (s, .finished .cancelled)
  else concludeClose outcome (s.releaseHandle socketHandle)

/-- Ends a write with what the endpoint answered. -/
def concludeWrite (s : Session) (id : TaskId) (size : Nat) (use : WriteUse)
    (answer : Except Fault Int) : Session × Progress :=
  let sent (address : Option Value) : Outcome :=
    .ofAnswer (fun _ => .nothing) (Sender.conclude address size answer)
  match use with
  | .count => (s, .finished (.ofAnswer .sent answer))
  | .packet address => (s, .finished (sent address))
  | .packetThenClose address handle => s.closeHandle id handle (sent address)

/-- Tries a write, and waits when the socket is busy. -/
def write (s : Session) (id : TaskId) (w : Write) : Session × Progress :=
  match s.onEndpoint (Endpoint.attempt w.data w.goal) with
  | (s, .ok .busy) => (s.awaitWritable id, .blocked (.writing w))
  | (s, .ok (.sent count)) => s.concludeWrite id w.data.length w.use (.ok count)
  | (s, .error fault) => s.concludeWrite id w.data.length w.use (.error fault)

/-- Starts a write to the peer or to an address. -/
def startWrite (s : Session) (id : TaskId) (data : Bytes) (address : Option Value)
    (use : WriteUse) : Session × Progress :=
  match address with
  | none => s.write id ⟨data, none, use⟩
  | some a =>
    match s.onEndpoint (Endpoint.target a) with
    | (s, .ok goal) => s.write id ⟨data, some goal, use⟩
    | (s, .error fault) => s.concludeWrite id data.length use (.error fault)

/-- Goes on with a write once the socket is writable. -/
def resumeWrite (s : Session) (id : TaskId) (w : Write) (wake : Wake) : Session × Progress :=
  if wake.isCancelled then
    match w.use with
    | .count | .packet _ => (s, .finished .cancelled)
    | .packetThenClose _ handle => s.closeHandle id handle .cancelled
  else s.write id w

/-- Ends a send that was refused before it reached the endpoint. -/
def refuseSend (s : Session) (id : TaskId) (use : WriteUse) (fault : Fault) :
    Session × Progress :=
  match use with
  | .count | .packet _ => (s, .finished (.fault fault))
  | .packetThenClose _ handle => s.closeHandle id handle (.fault fault)

/-- Sends a parcel through a handle. -/
def send (s : Session) (id : TaskId) (handle : HandleId) (parcel : Parcel) (use : WriteUse) :
    Session × Progress :=
  match Sender.data s.codec parcel.packet with
  | .error fault => s.refuseSend id use fault
  | .ok data =>
    if s.isHandleClosed handle then s.refuseSend id use (.transport .senderClosed)
    else s.startWrite id data parcel.address use

end Osc.Session
