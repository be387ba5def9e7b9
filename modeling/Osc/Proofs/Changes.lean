import Osc.Proofs.Calls
import Osc.Proofs.Reception

/-!
All that can happen to a session, said once. A turn is a chain of small changes, each with
what is known when it is made; what every change keeps is kept by every run. Sessions are those
of a socket, a stream or a receiver over an endpoint, used by calls of theirs.
-/

namespace Osc

/-- The calls of a layer. Those on the endpoint itself are not calls of a socket, which shares
it out by handles. Values that cannot be built are refused with faults of their own. -/
def Action.isCall (layer : Layer) : Action → Bool
  | .feed _ | .script (.ok _) | .cancel _ | .writable | .next _ | .iterate .. | .recv _
  | .connect _ | .send _ (.ok _) | .sendWithin _ (.ok _) | .localAddress _ | .peerAddress
  | .socketType | .settings | .shown => true
  | .script (.error fault) | .send _ (.error fault) | .sendWithin _ (.error fault)
  | .refuse fault => !fault.isMiscount
  | .sender _ | .clone .. | .close _ => layer = .socket
  | .closeEndpoint | .cancelReceive | .write .. => layer != .socket
  | .acquire | .release | .receive _ | .opening _ => false

/-- Neither the end of a stream nor a fault of counting references. -/
def Outcome.isPlain : Outcome → Bool
  | .value .stop => false
  | .fault cause => !cause.isMiscount
  | _ => true

def Outcome.isMiscount : Outcome → Bool
  | .fault cause => cause.isMiscount
  | _ => false

theorem ItemUse.isMiscount_stopped (use : ItemUse) : use.stopped.isMiscount = false := by
  cases use <;> rfl

theorem PullUse.isMiscount_stopped (use : PullUse) : use.stopped.isMiscount = false := by
  cases use with
  | datagram => rfl
  | stream use => exact use.isMiscount_stopped

/-- A codec whose faults are its own. -/
structure Codec.IsCalm (codec : Codec) : Prop where
  encode : ∀ v, Calm (codec.encode v)
  decode : ∀ data, Calm (codec.decode data)

/-- A handle that is closed after a write is there. -/
def WriteUse.Fits (handles : Nat) : WriteUse → Prop
  | .count | .packet _ => True
  | .packetThenClose _ handle => handle < handles

def Wait.Fits (handles : Nat) : Wait → Prop
  | .pulling .. => True
  | .writing w => w.use.Fits handles
  | .closing _ _ outcome => 0 < handles ∧ outcome.isPlain = true
  | .taking _ => False

/-- What a task of a layer with so many handles can be at. -/
def TaskStatus.Fits (layer : Layer) (handles : Nat) : TaskStatus → Prop
  | .queued action _ => action.isCall layer = true
  | .running _ => True
  | .blocked wait | .woken wait _ => wait.Fits handles
  | .finished outcome => outcome.isMiscount = false

/-- Whether a task has something to do in its turn. -/
def TaskStatus.isAwake : TaskStatus → Bool
  | .queued .. | .woken .. => true
  | _ => false

/-- Whether a receive is over and has brought something, an arrival or a failure. -/
def Receive.hasBrought (r : Receive) : Bool := r.isFinished && !r.isCancelled

/-- An operation that was asked to stop, whether it has noticed or not. -/
def ReceiveStatus.isAsked : ReceiveStatus → Bool
  | .queued cancelled => cancelled
  | .woken wake => wake.isCancelled
  | .finished .cancelled => true
  | _ => false

theorem Receive.isAsked_of_isCancelled {r : Receive} (cancelled : r.isCancelled = true) :
    r.status.isAsked = true := by
  obtain ⟨buffer, status, watchers⟩ := r
  cases status with
  | finished outcome =>
    cases outcome with
    | cancelled => rfl
    | _ => cases cancelled
  | _ => cases cancelled

/-- The buffer that an operation leaves to the next one: its own when a datagram has arrived. -/
def Receive.spare? (r : Receive) : Option BufferId :=
  match r.status with
  | .finished (.arrived ..) => some r.buffer
  | _ => none

/-- How much a receiver takes of a datagram. -/
def Receiver.bounds (r : Receiver) : Value × Int := (r.capacity, r.limit)

/-- An endpoint with another inbox. -/
def Endpoint.withInbox (e : Endpoint) (inbox : Inbox) : Endpoint :=
  { e with network := { e.network with inbox := inbox } }

namespace Session

/-- The number of handles that are open. -/
def openHandles (s : Session) : Nat := s.handles.countP fun h => !h.closed

/-- Those who wait in an inbox are operations that wait, each once. -/
structure Waits (takers : List Taker) (receives : List Receive) : Prop where
  nodup : takers.Nodup
  waiting : ∀ taker ∈ takers, ∃ id found, taker = .receive id ∧ receives[id]? = some found ∧
    found.status = .waiting

/-- A session that is used by its calls alone; it counts its open handles. -/
structure Fit (s : Session) : Prop where
  up : ∃ e, s.link = .up e
  receiver : ∃ r, s.receiver = some r
  codec : s.codec.IsCalm
  socket : s.layer = .socket → 0 < s.handles.length
  bare : s.layer ≠ .socket → s.handles = []
  count : s.layer = .socket → s.references = some s.openHandles
  statuses : ∀ status ∈ s.statuses, status.Fits s.layer s.handles.length
  waits : Waits s.network.inbox.waiting s.receives

/-- Nothing keeps a pull from joining an operation. -/
structure Admits (s : Session) : Prop where
  handle : (s.layer = .socket && s.isHandleClosed socketHandle) = false
  endpoint : s.isEndpointClosed = false
  nobody : s.receiver.any Receiver.waiting = false

/-- The receiver waits for nothing. -/
def IsIdle (s : Session) : Prop := ∀ r, s.receiver = some r → ∃ spare, r.state = .idle spare

/-- There is a reason for a stream to end: it was closed, or a receive was cancelled. -/
def HasEnded (s : Session) : Prop :=
  (s.layer = .socket ∧ s.isHandleClosed socketHandle = true) ∨ s.isEndpointClosed = true ∨
    ∃ (id : ReceiveId) (found : Receive), s.receives[id]? = some found ∧ found.isCancelled = true

/-- The buffer of the next operation and all buffers then: the spare one is used again. -/
inductive Provides (s : Session) (size : Nat) :
    Option BufferId → BufferId → List Buffer → Prop where
  | spare (buffer : BufferId) : Provides s size (some buffer) buffer s.buffers
  | new : Provides s size none s.buffers.length (s.buffers ++ [Buffer.empty size])

/-- What neither tasks nor operations nor handles notice. Buffers are only written to. -/
structure Inert (s t : Session) : Prop where
  layer : t.layer = s.layer
  codec : t.codec = s.codec
  settings : t.settings = s.settings
  receives : t.receives = s.receives
  receiver : t.receiver = s.receiver
  references : t.references = s.references
  handles : t.handles = s.handles
  tasks : t.tasks = s.tasks
  ready : t.ready = s.ready
  finished : t.finished = s.finished
  sizes : t.buffers.map Buffer.size = s.buffers.map Buffer.size
  alike : ∃ e e', s.link = .up e ∧ t.link = .up e' ∧ e.Alike e'

/-- The same session with another state of its endpoint. -/
def onto (s : Session) (e : Endpoint) : Session := { s with link := .up e }

/-- A turn that is given, with what the session is like when it was taken from the queue. -/
inductive Takes : Option Turn → Session → Turn → Session → Prop where
  | intro {s : Session} {turn : Turn} {place : Nat} (found : s.ready[place]? = some turn) :
      Takes (some turn) s turn { s with ready := s.ready.eraseIdx place }

/-- A turn that has no effect on tasks. -/
def IsStale (s : Session) : Turn → Prop
  | .resume id => ∀ status, s.statuses[id]? = some status → status.isAwake = false
  | .signal id => ∀ wait, s.statuses[id]? ≠ some (.blocked wait)
  | .receive _ => True

/-- A task that waited in a pull runs again, and no task is said to wait. -/
def relieve (s : Session) (id : TaskId) : Session :=
  (s.setStatus id (.running false)).setReceiver fun r => { r with waiting := false }

/-- One change in the course of a turn: the one that takes it, or one that follows when none is
to be taken any more. -/
inductive Change (given : Option Turn) : Session → Session → Prop where
  | inert {s t : Session} (same : Inert s t) : Change given s t
  | spawn {s : Session} (name : Text) {action : Action} (call : action.isCall s.layer = true) :
      Change given s (s.spawn name action)
  /-- A turn that nobody needs any more, or the turn of an operation. -/
  | spend {s t : Session} {turn : Turn} (took : Takes given s turn t)
      (stale : s.IsStale turn) : Change given s t
  | tell {s t : Session} {id : TaskId} {wait : Wait} (took : Takes given s (.signal id) t)
      (blocked : s.statuses[id]? = some (.blocked wait)) :
      Change given s ((t.setStatus id (.woken wait .due)).queue [.resume id])
  | drop {s t : Session} {id : TaskId} {action : Action} (took : Takes given s (.resume id) t)
      (queued : s.statuses[id]? = some (.queued action true)) :
      Change given s (t.finish id .cancelled)
  | start {s t : Session} {id : TaskId} {action : Action} (took : Takes given s (.resume id) t)
      (queued : s.statuses[id]? = some (.queued action false)) :
      Change given s (t.setStatus id (.running false))
  /-- A task goes on after a wait that was not for a receive. -/
  | goOn {s t : Session} {id : TaskId} {wait : Wait} {wake : Wake}
      (took : Takes given s (.resume id) t) (woken : s.statuses[id]? = some (.woken wait wake))
      (other : ∀ receive pull, wait ≠ .pulling receive pull) :
      Change given s (t.setStatus id (.running false))
  /-- A task goes on after a pull that was cancelled. -/
  | leave {s t : Session} {id : TaskId} {receive : ReceiveId} {pull : Pull} {wake : Wake}
      (took : Takes given s (.resume id) t)
      (woken : s.statuses[id]? = some (.woken (.pulling receive pull) wake)) :
      Change given s (t.relieve id)
  /-- A task goes on after a pull with what its operation has brought. -/
  | gain {s t : Session} {id : TaskId} {receive : ReceiveId} {pull : Pull} {found : Receive}
      (took : Takes given s (.resume id) t)
      (woken : s.statuses[id]? = some (.woken (.pulling receive pull) .due))
      (there : s.receives[receive]? = some found) (brought : found.hasBrought = true) :
      Change given s
        ((t.relieve id).setReceiver fun r => { r with state := .idle found.spare? })
  /-- A task goes on after a pull whose operation has brought nothing. -/
  | lose {s t : Session} {id : TaskId} {receive : ReceiveId} {pull : Pull} {found : Receive}
      (took : Takes given s (.resume id) t)
      (woken : s.statuses[id]? = some (.woken (.pulling receive pull) .due))
      (there : s.receives[receive]? = some found) (brought : found.hasBrought = false) :
      Change given s
        ((t.relieve id).finish id (s.pullCancelled id pull))
  /-- A task takes what an operation has left for it. -/
  | collect {s : Session} {id : TaskId} {r : Receiver} {receive : ReceiveId} {found : Receive}
      (runs : s.statuses[id]? = some (.running false)) (free : s.Admits)
      (receiver : s.receiver = some r) (current : r.state = .receiving receive)
      (there : s.receives[receive]? = some found) (brought : found.hasBrought = true) :
      Change given s (s.setReceiver fun r => { r with state := .idle found.spare? })
  | receive {s : Session} {id : TaskId} {r : Receiver}
      (runs : s.statuses[id]? = some (.running false)) (free : s.Admits)
      (receiver : s.receiver = some r) {spare : Option BufferId} (idle : r.state = .idle spare)
      {buffer : BufferId} {buffers : List Buffer}
      (provided : s.Provides r.bufferSize spare buffer buffers) :
      Change given s
        ({ s with buffers := buffers, receives := s.receives ++ [Receive.start buffer] }.setReceiver
          (fun r => { r with state := .receiving s.receives.length }) |>.queue
            [.receive s.receives.length])
  | join {s : Session} {id : TaskId} {r : Receiver} {receive : ReceiveId} (pull : Pull)
      (runs : s.statuses[id]? = some (.running false)) (free : s.Admits)
      (receiver : s.receiver = some r) (current : r.state = .receiving receive) :
      Change given s
        (((s.setReceiver fun r => { r with waiting := true }).watch receive id).setStatus id
          (.blocked (.pulling receive pull)))
  /-- The receiver is stopped since the endpoint is closed. -/
  | stop {s : Session} {r : Receiver} {receive : ReceiveId}
      (closed : s.isEndpointClosed = true)
      (handle : (s.layer = .socket && s.isHandleClosed socketHandle) = false)
      (receiver : s.receiver = some r) (current : r.state = .receiving receive) :
      Change given s ((s.cancelReceive receive).setReceiver fun r => { r with state := .idle none })
  /-- The receiver is stopped by a task. -/
  | halt {s : Session} {id : TaskId} {r : Receiver} {receive : ReceiveId}
      (runs : s.statuses[id]? = some (.running false)) (other : s.layer ≠ .socket)
      (receiver : s.receiver = some r) (current : r.state = .receiving receive) :
      Change given s
        (((s.cancelReceive receive).setReceiver fun r => { r with state := .idle none }).finish id
          (.value (.receiveCancelled true)))
  /-- The receiver is stopped by a task that closes the socket. -/
  | close {s : Session} {id : TaskId} {r : Receiver} {receive : ReceiveId} {outcome : Outcome}
      (runs : s.statuses[id]? = some (.running false)) (plain : outcome.isPlain = true)
      (there : 0 < s.handles.length) (isOpen : s.isHandleClosed socketHandle = false)
      (receiver : s.receiver = some r) (current : r.state = .receiving receive) :
      Change given s
        ((((s.cancelReceive receive).setReceiver fun r => { r with state := .idle none }).watch
          receive id).setStatus id (.blocked (.closing receive false outcome)))
  /-- A handle is closed. That of the socket waits for the end of what the receiver does. -/
  | release {s : Session} {handle : HandleId} (there : handle < s.handles.length)
      (isOpen : s.isHandleClosed handle = false) (counted : s.references.getD 0 ≠ 0)
      (settled : handle = socketHandle → s.IsIdle ∨
        ∃ (id : TaskId) (receive : ReceiveId) (outcome : Outcome),
          s.statuses[id]? = some (.woken (.closing receive false outcome) .due)) :
      Change given s (s.releaseHandle handle).1
  | clone {s : Session} {handle : HandleId} (there : handle < s.handles.length)
      (isOpen : s.isHandleClosed handle = false) (counted : s.references.getD 0 ≠ 0)
      (name : Text) :
      Change given s { s with
        references := some (s.references.getD 0 + 1), handles := s.handles ++ [⟨name, false⟩] }
  /-- Nothing is said of a session with an open handle and no references. -/
  | overdrawn {s t : Session} {handle : HandleId} (there : handle < s.handles.length)
      (isOpen : s.isHandleClosed handle = false) (counted : s.references.getD 0 = 0) :
      Change given s t
  | block {s : Session} {id : TaskId} {w : Write}
      (runs : s.statuses[id]? = some (.running false)) (fits : w.use.Fits s.handles.length) :
      Change given s ((s.awaitWritable id).setStatus id (.blocked (.writing w)))
  | writable {s : Session} {e : Endpoint} (up : s.link = .up e) (watched : e.watched = true) :
      Change given s ({ s with link := .up e.openLatch.1 }.signalAll e.openLatch.2)
  | shut {s : Session} (other : s.layer ≠ .socket) : Change given s s.closeEndpoint
  | waken {s : Session} {e : Endpoint} {id : ReceiveId} {rest : List Taker} (up : s.link = .up e)
      (first : e.network.inbox.waiting = .receive id :: rest) :
      Change given s
        (((s.onto (e.withInbox { e.network.inbox with waiting := rest })).setReceive id
          (.woken .due)).queue [.receive id])
  | wait {s : Session} {id : ReceiveId} {found : Receive} (there : s.receives[id]? = some found)
      (looks : found.status = .queued false ∨ found.status = .woken .due) :
      Change given s
        ((s.setReceive id .waiting).setInbox (s.network.inbox.wait (.receive id)))
  | conclude {s : Session} {id : ReceiveId} {found : Receive} {outcome : ReceiveOutcome}
      (there : s.receives[id]? = some found)
      (turn : (∃ cancelled, found.status = .queued cancelled) ∨ ∃ wake, found.status = .woken wake)
      (asked : outcome = .cancelled ↔ found.status.isAsked = true) :
      Change given s (s.finishReceive id outcome)
  | ask {s : Session} (id : TaskId) : Change given s (s.asked id)
  | markQueued {s : Session} {id : TaskId} {action : Action} {cancelled : Bool}
      (queued : s.statuses[id]? = some (.queued action cancelled))
      (asked : s.cancelRequests id ≠ 0) :
      Change given s (s.setStatus id (.queued action true))
  | markRunning {s : Session} {id : TaskId} {cancelled : Bool}
      (runs : s.statuses[id]? = some (.running cancelled))
      (asked : s.cancelRequests id ≠ 0) :
      Change given s (s.setStatus id (.running true))
  | markWoken {s : Session} {id : TaskId} {wait : Wait} {wake : Wake}
      (woken : s.statuses[id]? = some (.woken wait wake))
      (asked : s.cancelRequests id ≠ 0) :
      Change given s (s.setStatus id (.woken wait wake.cancel))
  | unpull {s : Session} {id : TaskId} {receive : ReceiveId} {pull : Pull}
      (blocked : s.statuses[id]? = some (.blocked (.pulling receive pull)))
      (asked : s.cancelRequests id ≠ 0) :
      Change given s
        ((((s.unwatch receive id).setStatus id (.woken (.pulling receive pull) .cancelled)).unsignal
          id).queue [.resume id])
  | unwrite {s : Session} {id : TaskId} {w : Write} {e : Endpoint} (up : s.link = .up e)
      (blocked : s.statuses[id]? = some (.blocked (.writing w)))
      (asked : s.cancelRequests id ≠ 0) :
      Change given s
        ((({ s with link := .up (e.stopAwaiting id) }.setStatus id
          (.woken (.writing w) .cancelled)).unsignal id).queue [.resume id])
  | urge {s : Session} {id : TaskId} {receive : ReceiveId} {cancelled : Bool} {outcome : Outcome}
      (blocked : s.statuses[id]? = some (.blocked (.closing receive cancelled outcome)))
      (asked : s.cancelRequests id ≠ 0) :
      Change given s
        ((s.cancelReceive receive).setStatus id (.blocked (.closing receive true outcome)))
  | finish {s : Session} {id : TaskId} {cancelled : Bool} {outcome : Outcome}
      (runs : s.statuses[id]? = some (.running cancelled)) (calm : outcome.isMiscount = false)
      (stops : outcome = .value .stop → s.HasEnded) :
      Change given s (s.finish id (if cancelled then .cancelled else outcome))

/-- Chains of changes that take no turn. -/
abbrev Changes : Session → Session → Prop := Relation.ReflTransGen (Change none)

theorem setInbox_onto {s : Session} {e : Endpoint} (up : s.link = .up e) (inbox : Inbox) :
    s.setInbox inbox = s.onto (e.withInbox inbox) := setInbox_up up inbox

/-- What is done to an operation when it is asked to stop. -/
theorem cancelReceive_cases (s : Session) (id : ReceiveId) :
    (s.cancelReceive id = s ∧
      ∀ found, s.receives[id]? = some found → found.isFinished = true) ∨
    ∃ found, s.receives[id]? = some found ∧
      ((∃ cancelled, found.status = .queued cancelled ∧
        s.cancelReceive id = s.setReceive id (.queued true)) ∨
      (found.status = .waiting ∧ s.cancelReceive id =
        ((s.setInbox (s.network.inbox.leave (.receive id))).setReceive id
          (.woken .cancelled)).queue [.receive id]) ∨
      ∃ wake, found.status = .woken wake ∧
        s.cancelReceive id = s.setReceive id (.woken wake.cancel)) := by
  rw [cancelReceive, receive?]
  cases there : s.receives[id]? with
  | none => exact .inl ⟨rfl, by simp⟩
  | some found =>
    obtain ⟨buffer, status, watchers⟩ := found
    cases status with
    | queued cancelled => exact .inr ⟨_, rfl, .inl ⟨cancelled, rfl, rfl⟩⟩
    | waiting => exact .inr ⟨_, rfl, .inr (.inl ⟨rfl, rfl⟩)⟩
    | woken wake => exact .inr ⟨_, rfl, .inr (.inr ⟨wake, rfl, rfl⟩)⟩
    | finished outcome =>
      refine .inl ⟨rfl, fun found same => ?_⟩
      cases same
      rfl

theorem watch_cases (s : Session) (id : ReceiveId) (task : TaskId) :
    (s.watch id task = s.queue [.signal task] ∧
      ∃ found, s.receives[id]? = some found ∧ found.isFinished = true) ∨
    (s.watch id task = { s with receives := s.receives.modify id fun r =>
        { r with watchers := r.watchers ++ [task] } } ∧
      ∀ found, s.receives[id]? = some found → found.isFinished = false) := by
  rw [watch, receive?]
  cases there : s.receives[id]? with
  | none => exact .inr ⟨rfl, by simp⟩
  | some found =>
    cases finished : found.isFinished with
    | true => exact .inl ⟨by simp [finished], found, rfl, finished⟩
    | false => exact .inr ⟨by simp [finished], by simp [finished]⟩

theorem closeEndpoint_up {s : Session} {e : Endpoint} (up : s.link = .up e) :
    s.closeEndpoint = (s.onto e.close.1).signalAll e.close.2 := by
  simp only [closeEndpoint, up]
  rfl

theorem awaitWritable_up {s : Session} {e : Endpoint} (up : s.link = .up e) (id : TaskId) :
    s.awaitWritable id = s.onto (e.awaitWritable id) := by
  rw [awaitWritable, up]
  rfl

/-- The tasks that wait until they can write. -/
def latched (s : Session) : List TaskId := (s.endpoint?.bind Endpoint.latch).getD []

theorem latched_up {s : Session} {e : Endpoint} (up : s.link = .up e) :
    s.latched = e.latch.getD [] := by
  simp only [latched, endpoint?, up, Option.bind_some]

theorem latched_awaitWritable {s : Session} {e : Endpoint} (up : s.link = .up e) (id : TaskId) :
    (s.onto (e.awaitWritable id)).latched = s.latched ++ [id] := by
  simp only [latched, onto, endpoint?, up, Option.bind_some, Endpoint.awaitWritable]
  cases e.latch <;> rfl

section Handles

variable {s : Session} {handle : HandleId}

theorem exists_open (there : handle < s.handles.length)
    (isOpen : s.isHandleClosed handle = false) :
    ∃ h, s.handles[handle]? = some h ∧ h.closed = false := by
  refine ⟨s.handles[handle], List.getElem?_eq_getElem there, ?_⟩
  rw [isHandleClosed, List.getElem?_eq_getElem there] at isOpen
  exact isOpen

theorem openHandles_pos (there : handle < s.handles.length)
    (isOpen : s.isHandleClosed handle = false) : 0 < s.openHandles := by
  obtain ⟨h, found, opened⟩ := exists_open there isOpen
  exact List.countP_pos_iff.mpr ⟨h, List.mem_of_getElem? found, by rw [opened]; rfl⟩

/-- The session with a handle marked as closed and another count of references. -/
def marked (s : Session) (handle : HandleId) (count : Nat) : Session :=
  { s with
    handles := s.handles.modify handle fun h => { h with closed := true }
    references := some count }

theorem openHandles_marked (there : handle < s.handles.length)
    (isOpen : s.isHandleClosed handle = false) (count : Nat) :
    (s.marked handle count).openHandles = s.openHandles - 1 := by
  obtain ⟨h, found, opened⟩ := exists_open there isOpen
  have at' : s.handles[handle] = h := by
    rw [List.getElem?_eq_getElem there] at found
    exact Option.some.inj found
  rw [openHandles, marked, List.modify_eq_set_get _ there, List.countP_set there]
  simp [at', opened, openHandles]

/-- The last reference closes the endpoint. -/
theorem releaseHandle_open (isOpen : s.isHandleClosed handle = false)
    (counted : s.references.getD 0 ≠ 0) :
    s.releaseHandle handle =
      (if s.references.getD 0 = 1 then (s.marked handle 0).closeEndpoint
        else s.marked handle (s.references.getD 0 - 1), .ok ()) := by
  obtain ⟨count, more⟩ := Nat.exists_eq_succ_of_ne_zero counted
  have fewer : References.release (count + 1) = .ok count := rfl
  simp only [releaseHandle, isOpen, Bool.false_eq_true, if_false, release, more,
    Nat.succ_eq_add_one, fewer]
  cases count with
  | zero => rfl
  | succ count => rfl

theorem releaseHandle_cases {e : Endpoint} (up : s.link = .up e)
    (isOpen : s.isHandleClosed handle = false) (counted : s.references.getD 0 ≠ 0) :
    (s.references.getD 0 = 1 ∧ (s.releaseHandle handle).1 =
      ((s.marked handle 0).onto e.close.1).signalAll e.close.2) ∨
    s.references.getD 0 ≠ 1 ∧
      (s.releaseHandle handle).1 = s.marked handle (s.references.getD 0 - 1) := by
  rw [releaseHandle_open isOpen counted]
  by_cases last : s.references.getD 0 = 1
  · exact .inl ⟨last, by rw [if_pos last]; exact closeEndpoint_up up⟩
  · exact .inr ⟨last, if_neg last⟩

end Handles

/-- What operations and those who wait in the inbox have nothing to do with. -/
structure Aside (s t : Session) : Prop where
  layer : t.layer = s.layer
  codec : t.codec = s.codec
  settings : t.settings = s.settings
  references : t.references = s.references
  handles : t.handles = s.handles
  tasks : t.tasks = s.tasks
  finished : t.finished = s.finished
  receiver : t.receiver = s.receiver
  link : ∀ e, s.link = .up e → ∃ inbox, t.link = .up (e.withInbox inbox)

theorem Aside.refl (s : Session) : Aside s s :=
  ⟨rfl, rfl, rfl, rfl, rfl, rfl, rfl, rfl, fun e up => ⟨e.network.inbox, up⟩⟩

theorem Aside.isEndpointClosed {s t : Session} (h : Aside s t) (up : ∃ e, s.link = .up e) :
    t.isEndpointClosed = s.isEndpointClosed := by
  obtain ⟨e, up⟩ := up
  obtain ⟨inbox, up'⟩ := h.link e up
  simp only [Session.isEndpointClosed, endpoint?, up, up', Option.any_some]
  rfl

theorem aside_watch (s : Session) (id : ReceiveId) (task : TaskId) :
    Aside s (s.watch id task) := by
  rcases s.watch_cases id task with ⟨same, -⟩ | ⟨same, -⟩
  · rw [same]
    exact { Aside.refl s with }
  · rw [same]
    exact { Aside.refl s with }

theorem aside_cancelReceive (s : Session) (id : ReceiveId) : Aside s (s.cancelReceive id) := by
  rcases s.cancelReceive_cases id with ⟨same, -⟩ | ⟨found, there, how⟩
  · rw [same]
    exact .refl s
  · rcases how with ⟨cancelled, queued, same⟩ | ⟨waiting, same⟩ | ⟨wake, woken, same⟩
    · rw [same]
      exact { Aside.refl s with }
    · rw [same]
      unfold setInbox mapNetwork
      cases link : s.link with
      | down network settings => exact ⟨rfl, rfl, rfl, rfl, rfl, rfl, rfl, rfl, by simp [link]⟩
      | up e =>
        refine ⟨rfl, rfl, rfl, rfl, rfl, rfl, rfl, rfl, fun e' up => ?_⟩
        cases link.symm.trans up
        exact ⟨_, rfl⟩
    · rw [same]
      exact { Aside.refl s with }

namespace Waits

variable {takers : List Taker} {receives : List Receive}

/-- Whatever happens to operations that do not wait, and to those who watch. -/
theorem modify (h : Waits takers receives) (id : ReceiveId) {f : Receive → Receive}
    (other : ∀ found, receives[id]? = some found → found.status = .waiting →
      (f found).status = .waiting) : Waits takers (receives.modify id f) := by
  refine ⟨h.nodup, fun taker member => ?_⟩
  obtain ⟨i, found, rfl, there, waiting⟩ := h.waiting taker member
  by_cases same : id = i
  · subst same
    exact ⟨id, f found, rfl, by simp [there], other found there waiting⟩
  · exact ⟨i, found, rfl, by simp [same, there], waiting⟩

theorem append (h : Waits takers receives) (r : Receive) : Waits takers (receives ++ [r]) := by
  refine ⟨h.nodup, fun taker member => ?_⟩
  obtain ⟨i, found, rfl, there, waiting⟩ := h.waiting taker member
  exact ⟨i, found, rfl, getElem?_concat_eq_some.mpr (.inl there), waiting⟩

/-- An operation that is taken out may go on to anything. -/
theorem leave (h : Waits takers receives) (id : ReceiveId) {others : List Taker}
    (subset : others.Sublist takers) (left : .receive id ∉ others) (f : Receive → Receive) :
    Waits others (receives.modify id f) := by
  refine ⟨h.nodup.sublist subset, fun taker member => ?_⟩
  obtain ⟨i, found, rfl, there, waiting⟩ := h.waiting taker (subset.subset member)
  have different : id ≠ i := by
    rintro rfl
    exact left member
  exact ⟨i, found, rfl, by simp [different, there], waiting⟩

/-- An operation that did not wait may wait at the end. -/
theorem join (h : Waits takers receives) {id : ReceiveId} {found : Receive}
    (there : receives[id]? = some found) (other : found.status ≠ .waiting)
    {f : Receive → Receive} (waits : (f found).status = .waiting) :
    Waits (takers ++ [.receive id]) (receives.modify id f) := by
  have outside : .receive id ∉ takers := by
    intro member
    obtain ⟨i, found', same, there', waiting⟩ := h.waiting _ member
    cases same
    cases there.symm.trans there'
    exact other waiting
  refine ⟨?_, fun taker member => ?_⟩
  · rw [List.nodup_append]
    refine ⟨h.nodup, List.nodup_singleton _, ?_⟩
    intro taker member other last same
    rw [same, List.mem_singleton.mp last] at member
    exact outside member
  · rcases List.mem_append.mp member with old | new
    · exact (h.leave id (List.Sublist.refl _) outside f).waiting taker old
    · cases List.mem_singleton.mp new
      exact ⟨id, f found, rfl, by simp [there], waits⟩

end Waits

namespace Fit

variable {s t : Session} {given : Option Turn}

theorem setStatus (h : s.Fit) (id : TaskId) (status : TaskStatus)
    (fits : status.Fits s.layer s.handles.length) : (s.setStatus id status).Fit := by
  refine { h with statuses := ?_ }
  intro status' member
  rw [statuses_setStatus] at member
  rcases List.mem_or_eq_of_mem_set member with old | rfl
  · exact h.statuses status' old
  · exact fits

theorem finish (h : s.Fit) (id : TaskId) {outcome : Outcome} (calm : outcome.isMiscount = false) :
    (s.finish id outcome).Fit := { h.setStatus id (.finished outcome) calm with }

theorem status (h : s.Fit) {id : TaskId} {status : TaskStatus}
    (found : s.statuses[id]? = some status) : status.Fits s.layer s.handles.length :=
  h.statuses status (List.mem_of_getElem? found)

theorem queued (h : s.Fit) {id : TaskId} {action : Action} {cancelled : Bool}
    (found : s.statuses[id]? = some (.queued action cancelled)) : action.isCall s.layer = true :=
  h.status found

theorem blocked (h : s.Fit) {id : TaskId} {wait : Wait}
    (found : s.statuses[id]? = some (.blocked wait)) : wait.Fits s.handles.length := h.status found

theorem woken (h : s.Fit) {id : TaskId} {wait : Wait} {wake : Wake}
    (found : s.statuses[id]? = some (.woken wait wake)) : wait.Fits s.handles.length :=
  h.status found

theorem turns (h : s.Fit) (ready : List Turn) : Fit { s with ready := ready } := { h with }

theorem queue (h : s.Fit) (turns : List Turn) : (s.queue turns).Fit := h.turns _

theorem took (h : s.Fit) {turn : Turn} (took : Takes given s turn t) : t.Fit := by
  cases took
  exact h.turns _

theorem setReceiver (h : s.Fit) (f : Receiver → Receiver) : (s.setReceiver f).Fit := by
  obtain ⟨r, receiver⟩ := h.receiver
  refine { h with receiver := ⟨f r, ?_⟩ }
  rw [Session.setReceiver, receiver]
  rfl

theorem relieve (h : s.Fit) (id : TaskId) : (s.relieve id).Fit :=
  (h.setStatus id (.running false) trivial).setReceiver _

theorem modify (h : s.Fit) (id : ReceiveId) {f : Receive → Receive}
    (other : ∀ found, s.receives[id]? = some found → found.status = .waiting →
      (f found).status = .waiting) : Fit { s with receives := s.receives.modify id f } :=
  { h with waits := h.waits.modify id other }

theorem watch (h : s.Fit) (id : ReceiveId) (task : TaskId) : (s.watch id task).Fit := by
  rcases s.watch_cases id task with ⟨same, -⟩ | ⟨same, -⟩
  · rw [same]
    exact h.turns _
  · rw [same]
    exact h.modify id fun found _ waiting => waiting

theorem onto (h : s.Fit) (e : Endpoint) (waits : Waits e.network.inbox.waiting s.receives) :
    (s.onto e).Fit := { h with up := ⟨e, rfl⟩, waits := waits }

theorem endpoint (h : s.Fit) {e : Endpoint} (up : s.link = .up e) :
    Waits e.network.inbox.waiting s.receives := network_up up ▸ h.waits

theorem cancelReceive (h : s.Fit) (id : ReceiveId) : (s.cancelReceive id).Fit := by
  rcases s.cancelReceive_cases id with ⟨same, -⟩ | ⟨found, there, how⟩
  · rwa [same]
  · rcases how with ⟨cancelled, queued, same⟩ | ⟨waiting, same⟩ | ⟨wake, woken, same⟩
    · rw [same]
      refine h.modify id fun found' there' waiting => ?_
      cases there.symm.trans there'
      cases queued.symm.trans waiting
    · rw [same]
      obtain ⟨e, up⟩ := h.up
      rw [setInbox_onto up, network_up up]
      have left := (h.endpoint up).leave id (List.erase_sublist (a := .receive id))
        (h.endpoint up).nodup.not_mem_erase (fun r => { r with status := .woken .cancelled })
      exact { h with up := ⟨_, rfl⟩, waits := left }
    · rw [same]
      refine h.modify id fun found' there' waiting => ?_
      cases there.symm.trans there'
      cases woken.symm.trans waiting

private theorem fits_mono {layer : Layer} {handles more : Nat} (grown : handles ≤ more)
    {status : TaskStatus} (h : status.Fits layer handles) : status.Fits layer more := by
  have waits {wait : Wait} (fits : wait.Fits handles) : wait.Fits more := by
    cases wait with
    | pulling receive pull => exact trivial
    | writing w =>
      obtain ⟨data, goal, use⟩ := w
      cases use with
      | packetThenClose address handle => exact Nat.lt_of_lt_of_le fits grown
      | _ => exact trivial
    | closing receive cancelled outcome => exact ⟨Nat.lt_of_lt_of_le fits.1 grown, fits.2⟩
    | taking buffer => exact fits
  cases status with
  | blocked wait => exact waits h
  | woken wait wake => exact waits h
  | _ => exact h

theorem socket_of_handle (h : s.Fit) {handle : HandleId} (there : handle < s.handles.length) :
    s.layer = .socket := by
  by_contra other
  rw [h.bare other] at there
  exact Nat.not_lt_zero _ there

/-- While a handle is open there are references. -/
theorem not_overdrawn (h : s.Fit) {handle : HandleId} (there : handle < s.handles.length)
    (isOpen : s.isHandleClosed handle = false) (counted : s.references.getD 0 = 0) : False := by
  have some := openHandles_pos there isOpen
  rw [h.count (h.socket_of_handle there), Option.getD_some] at counted
  omega

theorem release (h : s.Fit) {handle : HandleId} (there : handle < s.handles.length)
    (isOpen : s.isHandleClosed handle = false) (counted : s.references.getD 0 ≠ 0) :
    (s.releaseHandle handle).1.Fit := by
  have socket := h.socket_of_handle there
  have marked (count : Nat) (same : count = s.openHandles - 1) : (s.marked handle count).Fit := by
    have length : (s.marked handle count).handles.length = s.handles.length :=
      List.length_modify ..
    refine { h with socket := ?_, bare := ?_, count := ?_, statuses := ?_ }
    · rw [length]
      exact h.socket
    · exact fun other => absurd socket other
    · intro _
      rw [openHandles_marked there isOpen, ← same]
      rfl
    · rw [length]
      exact h.statuses
  have references : s.references.getD 0 = s.openHandles := by rw [h.count socket, Option.getD_some]
  rw [releaseHandle_open isOpen counted]
  split
  · next last =>
    have closed := marked 0 (by omega)
    obtain ⟨e, up⟩ := closed.up
    rw [closeEndpoint_up up]
    have waits : Waits e.network.inbox.waiting s.receives := closed.endpoint up
    exact (closed.onto e.close.1 waits).queue _
  · exact marked _ (by rw [references])

theorem clone (h : s.Fit) {handle : HandleId} (there : handle < s.handles.length)
    (name : Text) : Fit { s with
      references := some (s.references.getD 0 + 1), handles := s.handles ++ [⟨name, false⟩] } := by
  have socket := h.socket_of_handle there
  have references : s.references.getD 0 = s.openHandles := by rw [h.count socket, Option.getD_some]
  refine { h with socket := ?_, bare := ?_, count := ?_, statuses := ?_ }
  · simp
  · exact fun other => absurd socket other
  · intro _
    simp [references, openHandles]
  · intro status member
    exact fits_mono (by simp) (h.statuses status member)

end Fit

open Fit in
/-- Every change leaves a session that is used by its calls alone. -/
theorem Change.fit {given : Option Turn} {s t : Session} (change : Change given s t) (h : s.Fit) :
    t.Fit := by
  cases change with
  | inert same =>
    obtain ⟨e, e', up, up', alike⟩ := same.alike
    have statuses := statuses_eq same.tasks
    constructor
    case up => exact ⟨e', up'⟩
    case receiver => exact same.receiver ▸ h.receiver
    case codec => exact same.codec ▸ h.codec
    case socket => rw [same.layer, same.handles]; exact h.socket
    case bare => rw [same.layer, same.handles]; exact h.bare
    case count => rw [same.layer, same.references, openHandles, same.handles]; exact h.count
    case statuses => rw [statuses, same.layer, same.handles]; exact h.statuses
    case waits =>
      rw [network_up up', same.receives, alike.network.waiting]
      exact h.endpoint up
  | spawn name call =>
    refine { h with statuses := ?_ }
    intro status member
    rw [Session.statuses, Session.spawn] at member
    simp only [queue, List.map_append, List.mem_append, List.map_cons, List.map_nil,
      List.mem_singleton] at member
    rcases member with old | rfl
    · exact h.statuses status old
    · exact call
  | spend took stale => exact h.took took
  | @tell _ id wait took blocked =>
    have fits : (TaskStatus.woken wait .due).Fits s.layer s.handles.length := h.blocked blocked
    have rest := h.took took
    cases took
    exact (rest.setStatus id (.woken wait .due) fits).queue _
  | drop took queued => exact (h.took took).finish _ rfl
  | start took queued => exact (h.took took).setStatus _ (.running false) trivial
  | goOn took woken other => exact (h.took took).setStatus _ (.running false) trivial
  | leave took woken => exact (h.took took).relieve _
  | gain took woken there brought => exact ((h.took took).relieve _).setReceiver _
  | @lose _ id receive pull found took woken there brought =>
    have calm : (s.pullCancelled id pull).isMiscount = false := by
      unfold pullCancelled
      split
      · exact pull.use.isMiscount_stopped
      · rfl
    exact ((h.took took).relieve _).finish _ calm
  | collect runs free receiver current there brought => exact h.setReceiver _
  | @receive id r runs free receiver spare idle buffer buffers provided =>
    have more : Fit { s with
        buffers := buffers, receives := s.receives ++ [Receive.start buffer] } :=
      { h with waits := h.waits.append _ }
    exact (more.setReceiver _).queue _
  | join pull runs free receiver current =>
    exact ((h.setReceiver _).watch _ _).setStatus _ (.blocked (.pulling _ pull)) trivial
  | stop closed handle receiver current => exact (h.cancelReceive _).setReceiver _
  | halt runs other receiver current => exact ((h.cancelReceive _).setReceiver _).finish _ rfl
  | @close id r receive outcome runs plain there isOpen receiver current =>
    have stopped := ((h.cancelReceive receive).setReceiver
      fun r => { r with state := .idle none }).watch receive id
    refine stopped.setStatus id (.blocked (.closing receive false outcome)) ⟨?_, plain⟩
    rw [(aside_watch _ receive id).handles]
    exact (aside_cancelReceive s receive).handles ▸ there
  | release there isOpen counted settled => exact h.release there isOpen counted
  | clone there isOpen counted name => exact h.clone there name
  | overdrawn there isOpen counted => exact (h.not_overdrawn there isOpen counted).elim
  | @block id w runs fits =>
    obtain ⟨e, up⟩ := h.up
    have waiting : (e.awaitWritable id).network = e.network := by
      unfold Endpoint.awaitWritable
      split <;> rfl
    rw [awaitWritable_up up]
    refine (h.onto _ ?_).setStatus id (.blocked (.writing w)) fits
    rw [waiting]
    exact h.endpoint up
  | @writable e up watched =>
    have waits : Waits e.openLatch.1.network.inbox.waiting s.receives := h.endpoint (e := e) up
    exact (h.onto e.openLatch.1 waits).queue _
  | shut other =>
    obtain ⟨e, up⟩ := h.up
    have waits : Waits e.close.1.network.inbox.waiting s.receives := h.endpoint (e := e) up
    rw [closeEndpoint_up up]
    exact (h.onto e.close.1 waits).queue _
  | @waken e id rest up first =>
    have waits := h.endpoint up
    rw [first] at waits
    have left := waits.leave id (List.sublist_cons_self _ _)
      (List.nodup_cons.mp waits.nodup).1 (fun r => { r with status := .woken .due })
    exact { h with up := ⟨_, rfl⟩, waits := left }
  | @wait id found there looks =>
    obtain ⟨e, up⟩ := h.up
    have other : found.status ≠ .waiting := by
      rcases looks with queued | woken
      · simp [queued]
      · simp [woken]
    have joined := (h.endpoint up).join (f := fun r => { r with status := .waiting }) there other
      rfl
    have here : (s.setReceive id .waiting).link = .up e := up
    rw [setInbox_onto here, network_up up]
    exact { h with up := ⟨_, rfl⟩, waits := joined }
  | @conclude id found outcome there turn asked =>
    refine (h.modify id fun found' there' waiting => ?_).queue _
    cases there.symm.trans there'
    rcases turn with ⟨cancelled, queued⟩ | ⟨wake, woken⟩
    · cases queued.symm.trans waiting
    · cases woken.symm.trans waiting
  | ask id =>
    refine { h with statuses := ?_ }
    rw [statuses_asked]
    exact h.statuses
  | markQueued queued asked => exact h.setStatus _ (.queued _ true) (h.queued queued)
  | markRunning runs asked => exact h.setStatus _ (.running true) trivial
  | markWoken woken asked => exact h.setStatus _ (.woken _ _) (h.woken woken)
  | @unpull id receive pull blocked asked =>
    have watched : (s.unwatch receive id).Fit := h.modify receive fun found _ waiting => waiting
    have woken := watched.setStatus id (.woken (.pulling receive pull) .cancelled) trivial
    exact (woken.turns _).queue _
  | @unwrite id w e up blocked asked =>
    have waits : Waits (e.stopAwaiting id).network.inbox.waiting s.receives :=
      h.endpoint (e := e) up
    have woken := (h.onto _ waits).setStatus id (.woken (.writing w) .cancelled) (h.blocked blocked)
    exact (woken.turns _).queue _
  | @urge id receive cancelled outcome blocked asked =>
    refine (h.cancelReceive receive).setStatus id (.blocked (.closing receive true outcome)) ?_
    rw [(aside_cancelReceive s receive).handles]
    exact h.blocked blocked
  | @finish id cancelled outcome runs calm stops =>
    refine h.finish id ?_
    cases cancelled with
    | true => rfl
    | false => exact calm

/-- What a session was built with. -/
structure Built (s t : Session) : Prop where
  layer : t.layer = s.layer
  codec : t.codec = s.codec
  settings : t.settings = s.settings
  bounds : t.receiver.map Receiver.bounds = s.receiver.map Receiver.bounds

theorem Aside.built {s t : Session} (h : Aside s t) : Built s t :=
  ⟨h.layer, h.codec, h.settings, by rw [h.receiver]⟩

theorem Built.trans {s t u : Session} (first : Built s t) (second : Built t u) : Built s u where
  layer := second.layer.trans first.layer
  codec := second.codec.trans first.codec
  settings := second.settings.trans first.settings
  bounds := second.bounds.trans first.bounds

theorem bounds_state (receiver : Option Receiver) (state : ReceiverState) :
    (receiver.map fun r => { r with state := state }).map Receiver.bounds =
      receiver.map Receiver.bounds := by
  cases receiver <;> rfl

theorem bounds_waiting (receiver : Option Receiver) (waiting : Bool) :
    (receiver.map fun r => { r with waiting := waiting }).map Receiver.bounds =
      receiver.map Receiver.bounds := by
  cases receiver <;> rfl

/-- No change touches what a session was built with. -/
theorem Change.built {given : Option Turn} {s t : Session} (change : Change given s t) (h : s.Fit) :
    Built s t := by
  have stopped (receive : ReceiveId) :
      Built s ((s.cancelReceive receive).setReceiver fun r => { r with state := .idle none }) :=
    (aside_cancelReceive s receive).built.trans ⟨rfl, rfl, rfl, bounds_state _ _⟩
  cases change with
  | inert same => exact ⟨same.layer, same.codec, same.settings, by rw [same.receiver]⟩
  | overdrawn there isOpen counted => exact (h.not_overdrawn there isOpen counted).elim
  | spend took stale => cases took; exact ⟨rfl, rfl, rfl, rfl⟩
  | tell took blocked => cases took; exact ⟨rfl, rfl, rfl, rfl⟩
  | drop took queued => cases took; exact ⟨rfl, rfl, rfl, rfl⟩
  | start took queued => cases took; exact ⟨rfl, rfl, rfl, rfl⟩
  | goOn took woken other => cases took; exact ⟨rfl, rfl, rfl, rfl⟩
  | leave took woken => cases took; exact ⟨rfl, rfl, rfl, bounds_waiting _ _⟩
  | gain took woken there brought =>
    cases took
    exact ⟨rfl, rfl, rfl, (bounds_state _ _).trans (bounds_waiting _ _)⟩
  | lose took woken there brought => cases took; exact ⟨rfl, rfl, rfl, bounds_waiting _ _⟩
  | collect runs free receiver current there brought =>
    exact ⟨rfl, rfl, rfl, bounds_state _ _⟩
  | receive runs free receiver idle provided => exact ⟨rfl, rfl, rfl, bounds_state _ _⟩
  | @join id r receive pull runs free receiver current =>
    have said : Built s (s.setReceiver fun r => { r with waiting := true }) :=
      ⟨rfl, rfl, rfl, bounds_waiting _ _⟩
    exact { said.trans (aside_watch _ receive id).built with }
  | stop closed handle receiver current => exact stopped _
  | halt runs other receiver current => exact { stopped _ with }
  | @close id r receive outcome runs plain there isOpen receiver current =>
    exact { (stopped receive).trans (aside_watch _ receive id).built with }
  | urge blocked asked => exact { (aside_cancelReceive s _).built with }
  | release there isOpen counted settled =>
    obtain ⟨e, up⟩ := h.up
    rcases releaseHandle_cases up isOpen counted with ⟨-, same⟩ | ⟨-, same⟩
    · rw [same]
      exact ⟨rfl, rfl, rfl, rfl⟩
    · rw [same]
      exact ⟨rfl, rfl, rfl, rfl⟩
  | shut other =>
    obtain ⟨e, up⟩ := h.up
    rw [closeEndpoint_up up]
    exact ⟨rfl, rfl, rfl, rfl⟩
  | block runs fits =>
    obtain ⟨e, up⟩ := h.up
    rw [awaitWritable_up up]
    exact ⟨rfl, rfl, rfl, rfl⟩
  | @wait id found there looks =>
    obtain ⟨e, up⟩ := h.up
    have here : (s.setReceive id .waiting).link = .up e := up
    rw [setInbox_onto here]
    exact ⟨rfl, rfl, rfl, rfl⟩
  | _ => exact ⟨rfl, rfl, rfl, rfl⟩

theorem Change.layer {given : Option Turn} {s t : Session} (change : Change given s t) (h : s.Fit) :
    t.layer = s.layer := (change.built h).layer

theorem Changes.fit {s t : Session} (changes : Changes s t) (h : s.Fit) : t.Fit := by
  induction changes with
  | refl => exact h
  | tail _ change ih => exact change.fit ih

end Session

end Osc
