import Osc.Session

/-!
Arrivals and those who wait for them: feeding the inbox, the turns of receive operations,
and cancelling them. Whoever is woken looks again whether there is an arrival, since
another may have taken it in the meantime.
-/

namespace Osc.Session

/-- Wakes one who waits in the inbox. -/
def wakeTaker (s : Session) : Option Taker → Session
  | none => s
  | some (.task id) =>
    match (s.task? id).map Task.status with
    | some (.blocked wait) => (s.setStatus id (.woken wait .due)).queue [.resume id]
    | _ => s
  | some (.receive id) => (s.setReceive id (.woken .due)).queue [.receive id]

def feed (s : Session) (arrival : Arrival) : Session :=
  let (inbox, taker) := s.network.inbox.put arrival
  (s.setInbox inbox).wakeTaker taker

/-- Gives up a turn that was meant for taking an arrival. -/
def passTurn (s : Session) : Session :=
  let (inbox, taker) := s.network.inbox.pass
  (s.setInbox inbox).wakeTaker taker

/-- Takes the next arrival into a buffer. -/
def takeArrival (s : Session) (buffer : BufferId) : Session × Option ReceiveOutcome :=
  match s.network.inbox.take? with
  | none => (s, none)
  | some (.failure error, inbox) => (s.setInbox inbox, some (.failed error))
  | some (.datagram data peer, inbox) =>
    ({ s.setInbox inbox with buffers := s.buffers.modify buffer fun b => b.fill data },
      some (.arrived ((s.buffer buffer).room data) peer))

/-- Ends a receive operation; those who watch it are told, in the order in which they asked. -/
def finishReceive (s : Session) (id : ReceiveId) (outcome : ReceiveOutcome) : Session :=
  let watchers := ((s.receive? id).map Receive.watchers).getD []
  { s with receives := s.receives.modify id fun r =>
      { r with status := .finished outcome, watchers := [] } }.queue (watchers.map .signal)

/-- Takes an arrival for a receive operation, or lets it wait. -/
def takeOrWait (s : Session) (id : ReceiveId) (buffer : BufferId) : Session :=
  match s.takeArrival buffer with
  | (s, some outcome) => s.finishReceive id outcome
  | (s, none) =>
    (s.setReceive id .waiting).setInbox (s.network.inbox.wait (.receive id))

/-- One turn of a receive operation. One that is cancelled before its first turn never
reaches the endpoint. -/
def turnReceive (s : Session) (id : ReceiveId) : Session :=
  match s.receive? id with
  | none => s
  | some r =>
    match r.status with
    | .queued false => (s.hand r.buffer).takeOrWait id r.buffer
    | .queued true => s.finishReceive id .cancelled
    | .woken .due => s.takeOrWait id r.buffer
    | .woken .dueCancelled => s.passTurn.finishReceive id .cancelled
    | .woken .cancelled => s.finishReceive id .cancelled
    | .waiting | .finished _ => s

/-- Asks a receive operation to stop; it ends in its next turn. -/
def cancelReceive (s : Session) (id : ReceiveId) : Session :=
  match (s.receive? id).map Receive.status with
  | some (.queued _) => s.setReceive id (.queued true)
  | some .waiting =>
    ((s.setInbox (s.network.inbox.leave (.receive id))).setReceive id (.woken .cancelled)).queue
      [.receive id]
  | some (.woken wake) => s.setReceive id (.woken wake.cancel)
  | _ => s

/-- Stops the receiver's operation, if one is under way, and gives it. -/
def cancelReceiver (s : Session) : Session × Option ReceiveId :=
  match s.receiver.map Receiver.state with
  | some (.receiving id) =>
    ((s.cancelReceive id).setReceiver fun r => { r with state := .idle none }, some id)
  | _ => (s, none)

/-- Tells a task when a receive operation ends; at once, if it has ended. -/
def watch (s : Session) (id : ReceiveId) (task : TaskId) : Session :=
  if (s.receive? id).any Receive.isFinished then s.queue [.signal task]
  else { s with receives := s.receives.modify id fun r =>
    { r with watchers := r.watchers ++ [task] } }

def unwatch (s : Session) (id : ReceiveId) (task : TaskId) : Session :=
  { s with receives := s.receives.modify id fun r =>
    { r with watchers := r.watchers.erase task } }

/-- Tells a task that what it watches has ended; its turn to go on comes later. A task that
was cancelled in the meantime does not wait any more. -/
def signal (s : Session) (id : TaskId) : Session :=
  match (s.task? id).map Task.status with
  | some (.blocked wait) => (s.setStatus id (.woken wait .due)).queue [.resume id]
  | _ => s

/-- Wakes tasks that waited at a latch. -/
def signalAll (s : Session) (tasks : List TaskId) : Session := s.queue (tasks.map .signal)

/-- A task will not be told any more of the end of what it waited for. -/
def unsignal (s : Session) (id : TaskId) : Session :=
  { s with ready := s.ready.filter fun turn => turn != .signal id }

/-- Ends the wait of a task that is cancelled. One that waits for the end of a cancelled
receive passes the cancellation on to it and goes on waiting. -/
def cancelWait (s : Session) (id : TaskId) (wait : Wait) : Session :=
  let woken (s : Session) :=
    ((s.setStatus id (.woken wait .cancelled)).unsignal id).queue [.resume id]
  match wait with
  | .pulling receive _ => woken (s.unwatch receive id)
  | .writing _ =>
    match s.link with
    | .down .. => woken s
    | .up endpoint => woken { s with link := .up (endpoint.stopAwaiting id) }
  | .closing receive _ outcome =>
    (s.cancelReceive receive).setStatus id (.blocked (.closing receive true outcome))
  | .taking _ => woken (s.setInbox (s.network.inbox.leave (.task id)))

/-- Cancels a task, and tells whether it was not over yet. -/
def cancelTask (s : Session) (id : TaskId) : Session × Bool :=
  match (s.task? id).map Task.status with
  | none | some (.finished _) => (s, false)
  | some status =>
    let s := { s with tasks := s.tasks.modify id fun t =>
      { t with cancelRequests := t.cancelRequests + 1 } }
    match status with
    | .queued action _ => (s.setStatus id (.queued action true), true)
    | .running _ => (s.setStatus id (.running true), true)
    | .blocked wait => (s.cancelWait id wait, true)
    | .woken wait wake => (s.setStatus id (.woken wait wake.cancel), true)
    | .finished _ => (s, false)

end Osc.Session
