import Osc.Proofs.Delivery
import Osc.Proofs.Turns

/-!
A stream is a receiver whose datagrams are decoded. Each step of a receiver's session, seen
with its datagrams as items and its pulls as pulls of items, is the same step of a stream's
session. What a stream logs is what its pulls have decoded without the end.
-/

namespace Osc

/-- How a stream reads datagrams. -/
structure Reading where
  codec : Codec
  capacity : Value
  limit : Int
  reject : Bool

def PullUse.asItem : PullUse → PullUse
  | .datagram => .stream .item
  | use => use

def Pull.asItem (p : Pull) : Pull := { p with use := p.use.asItem }

def Wait.asItem : Wait → Wait
  | .pulling receive pull => .pulling receive pull.asItem
  | wait => wait

namespace Reading

/-- What a pull of the stream ends with where a pull of the receiver ends with an outcome. -/
def outcome (d : Reading) : Outcome → Outcome
  | .value (.datagram (some x)) =>
    .ofAnswer .item (Item.ofDatagram d.codec d.capacity d.reject x)
  | .value (.datagram none) => .value .stop
  | .fault (.transport (.receive error)) => .value (.item (.receiveFailed (.receive error)))
  | outcome => outcome

/-- What the stream logs when a pull ends. -/
def warnings (d : Reading) : Outcome → List CutWarning
  | .value (.datagram (some x)) => (CutWarning.ofDatagram? d.limit d.reject x).toList
  | _ => []

def status (d : Reading) : TaskStatus → TaskStatus
  | .blocked wait => .blocked wait.asItem
  | .woken wait wake => .woken wait.asItem wake
  | .finished outcome => .finished (d.outcome outcome)
  | status => status

def task (d : Reading) (t : Task) : Task := { t with status := d.status t.status }

def progress (d : Reading) : Progress → Progress
  | .finished outcome => .finished (d.outcome outcome)
  | .blocked wait => .blocked wait.asItem

/-- What the stream logs when a task comes so far. -/
def logged (d : Reading) : Progress → List CutWarning
  | .finished outcome => d.warnings outcome
  | .blocked _ => []

end Reading

namespace Session

/-- A receiver's session as that of a stream which has logged some warnings. -/
def asStream (s : Session) (d : Reading) (w : List CutWarning) : Session :=
  { s with layer := .stream, tasks := s.tasks.map d.task, warnings := w }

variable {d : Reading} {w : List CutWarning} {s t : Session} {id : TaskId}

section Tasks

theorem modify_map {α β : Type} {f : α → β} {g : α → α} {h : β → β}
    (commutes : ∀ a, h (f a) = f (g a)) (l : List α) (i : Nat) :
    (l.map f).modify i h = (l.modify i g).map f := by
  apply List.ext_getElem?
  intro j
  simp only [List.getElem?_modify, List.getElem?_map]
  cases l[j]? with
  | none => rfl
  | some a => by_cases same : i = j <;> simp [same, commutes]

private theorem asStream_setStatus (s : Session) (id : TaskId) (status : TaskStatus) :
    (s.asStream d w).setStatus id (d.status status) = (s.setStatus id status).asStream d w := by
  have tasks := modify_map (f := d.task) (g := fun t => { t with status := status })
    (h := fun t => { t with status := d.status status }) (fun _ => rfl) s.tasks id
  simp only [asStream, setStatus, tasks]

private theorem asStream_asked (s : Session) (id : TaskId) :
    (s.asStream d w).asked id = (s.asked id).asStream d w := by
  have tasks := modify_map (f := d.task)
    (g := fun t => { t with cancelRequests := t.cancelRequests + 1 })
    (h := fun t => { t with cancelRequests := t.cancelRequests + 1 }) (fun _ => rfl) s.tasks id
  simp only [asStream, asked, tasks]

private theorem asStream_finish (s : Session) (id : TaskId) (outcome : Outcome) :
    (s.asStream d w).finish id (d.outcome outcome) = (s.finish id outcome).asStream d w :=
  congrArg (fun t : Session => { t with finished := s.finished ++ [id] })
    (asStream_setStatus s id (.finished outcome))

private theorem asStream_status (s : Session) (id : TaskId) :
    ((s.asStream d w).task? id).map Task.status = ((s.task? id).map Task.status).map d.status := by
  simp only [task?, asStream, List.getElem?_map]
  cases s.tasks[id]? <;> rfl

private theorem asStream_cancelRequests (s : Session) :
    (s.asStream d w).cancelRequests = s.cancelRequests := by
  funext id
  simp only [cancelRequests, task?, asStream, List.getElem?_map]
  cases s.tasks[id]? <;> rfl

private theorem asStream_taskId? (s : Session) (name : Text) :
    (s.asStream d w).taskId? name = s.taskId? name := by
  simp only [taskId?, asStream, List.zipIdx_map, ← List.map_reverse, List.find?_map, Option.map_map]
  rfl

end Tasks

section Receiving

private theorem asStream_network (s : Session) : (s.asStream d w).network = s.network := rfl

private theorem asStream_setInbox (s : Session) (inbox : Inbox) :
    (s.asStream d w).setInbox inbox = (s.setInbox inbox).asStream d w := by
  simp only [setInbox, mapNetwork, asStream]
  cases s.link <;> rfl

/-- A task that waits is told alike. -/
theorem asStream_signal (s : Session) (id : TaskId) :
    (s.asStream d w).signal id = (s.signal id).asStream d w := by
  rw [signal, signal, asStream_status]
  cases (s.task? id).map Task.status with
  | none => rfl
  | some status =>
    cases status with
    | blocked wait =>
      exact congrArg (queue · [.resume id]) (asStream_setStatus s id (.woken wait .due))
    | _ => rfl

private theorem asStream_wakeTaker (s : Session) (taker : Option Taker) :
    (s.asStream d w).wakeTaker taker = (s.wakeTaker taker).asStream d w := by
  cases taker with
  | none => rfl
  | some taker =>
    cases taker with
    | receive id => rfl
    | task id => exact s.asStream_signal id

private theorem asStream_feed (s : Session) (arrival : Arrival) :
    (s.asStream d w).feed arrival = (s.feed arrival).asStream d w := by
  simp only [feed, asStream_network, asStream_setInbox, asStream_wakeTaker]

private theorem asStream_passTurn (s : Session) :
    (s.asStream d w).passTurn = s.passTurn.asStream d w := by
  simp only [passTurn, asStream_network, asStream_setInbox, asStream_wakeTaker]

private theorem asStream_takeArrival (s : Session) (buffer : BufferId) :
    (s.asStream d w).takeArrival buffer =
      ((s.takeArrival buffer).1.asStream d w, (s.takeArrival buffer).2) := by
  rw [takeArrival, takeArrival, asStream_network]
  cases s.network.inbox.take? with
  | none => rfl
  | some taken =>
    obtain ⟨arrival, inbox⟩ := taken
    cases arrival with
    | failure error => exact congrArg (·, _) (s.asStream_setInbox inbox)
    | datagram data peer =>
      dsimp only
      rw [asStream_setInbox]
      rfl

private theorem asStream_takeOrWait (s : Session) (id : ReceiveId) (buffer : BufferId) :
    (s.asStream d w).takeOrWait id buffer = (s.takeOrWait id buffer).asStream d w := by
  rw [takeOrWait, takeOrWait, asStream_takeArrival]
  obtain ⟨t, outcome⟩ := s.takeArrival buffer
  cases outcome with
  | some outcome => rfl
  | none => exact asStream_setInbox (t.setReceive id .waiting) _

private theorem asStream_turnReceive (s : Session) (id : ReceiveId) :
    (s.asStream d w).turnReceive id = (s.turnReceive id).asStream d w := by
  have receive : (s.asStream d w).receive? id = s.receive? id := rfl
  rw [turnReceive, turnReceive, receive]
  cases s.receive? id with
  | none => rfl
  | some r =>
    obtain ⟨buffer, status, watchers⟩ := r
    cases status with
    | queued cancelled =>
      cases cancelled with
      | true => rfl
      | false =>
        have handed : (s.asStream d w).hand buffer = (s.hand buffer).asStream d w := by
          by_cases member : buffer ∈ s.handed
          · rw [hand, hand, if_pos member]
            exact if_pos member
          · rw [hand, hand, if_neg member]
            exact if_neg member
        dsimp only
        rw [handed, asStream_takeOrWait]
    | woken wake =>
      cases wake with
      | due => exact s.asStream_takeOrWait id buffer
      | dueCancelled =>
        dsimp only
        rw [asStream_passTurn]
        rfl
      | cancelled => rfl
    | _ => rfl

private theorem asStream_cancelReceive (s : Session) (id : ReceiveId) :
    (s.asStream d w).cancelReceive id = (s.cancelReceive id).asStream d w := by
  have receive : (s.asStream d w).receive? id = s.receive? id := rfl
  rw [cancelReceive, cancelReceive, receive]
  cases (s.receive? id).map Receive.status with
  | none => rfl
  | some status =>
    cases status with
    | waiting =>
      dsimp only
      rw [asStream_setInbox]
      rfl
    | _ => rfl

private theorem asStream_watch (s : Session) (receive : ReceiveId) (id : TaskId) :
    (s.asStream d w).watch receive id = (s.watch receive id).asStream d w := by
  have there : (s.asStream d w).receive? receive = s.receive? receive := rfl
  rw [watch, watch, there]
  split <;> rfl

private theorem asStream_cancelWait (s : Session) (id : TaskId) (wait : Wait) :
    (s.asStream d w).cancelWait id wait.asItem = (s.cancelWait id wait).asStream d w := by
  have woken (t : Session) (wait : Wait) :
      (((t.asStream d w).setStatus id (.woken wait.asItem .cancelled)).unsignal id).queue
          [.resume id] =
        (((t.setStatus id (.woken wait .cancelled)).unsignal id).queue [.resume id]).asStream d w :=
    congrArg (fun u => (u.unsignal id).queue [.resume id])
      (asStream_setStatus t id (.woken wait .cancelled))
  cases wait with
  | pulling receive pull => exact woken (s.unwatch receive id) (.pulling receive pull)
  | writing write =>
    have link : (s.asStream d w).link = s.link := rfl
    simp only [Wait.asItem, cancelWait, link]
    cases s.link with
    | down network settings => exact woken s (.writing write)
    | up e => exact woken (s.onto (e.stopAwaiting id)) (.writing write)
  | closing receive cancelled outcome =>
    simp only [Wait.asItem, cancelWait]
    rw [asStream_cancelReceive]
    exact asStream_setStatus _ id (.blocked (.closing receive true outcome))
  | taking buffer =>
    simp only [Wait.asItem, cancelWait]
    rw [asStream_network, asStream_setInbox]
    exact woken _ (.taking buffer)

private theorem asStream_cancelTask (s : Session) (id : TaskId) :
    (s.asStream d w).cancelTask id = ((s.cancelTask id).1.asStream d w, (s.cancelTask id).2) := by
  have goes (status : TaskStatus) : ((s.asStream d w).asked id).setStatus id (d.status status) =
      ((s.asked id).setStatus id status).asStream d w := by
    rw [asStream_asked, asStream_setStatus]
  rw [cancelTask, cancelTask, asStream_status]
  cases (s.task? id).map Task.status with
  | none => rfl
  | some status =>
    cases status with
    | queued action cancelled => exact congrArg (·, true) (goes (.queued action true))
    | running cancelled => exact congrArg (·, true) (goes (.running true))
    | woken wait wake => exact congrArg (·, true) (goes (.woken wait wake.cancel))
    | finished outcome => rfl
    | blocked wait =>
      refine congrArg (·, true) ?_
      change ((s.asStream d w).asked id).cancelWait id wait.asItem = _
      rw [asStream_asked, asStream_cancelWait]
      rfl

end Receiving

section Pulling

/-- How a turn of the receiver that came so far is seen as one of the stream. -/
def seen (d : Reading) (w : List CutWarning) (p : Session × Progress) : Session × Progress :=
  (p.1.asStream d (w ++ d.logged p.2), d.progress p.2)

/-- A receiver whose datagrams are read so by its stream. -/
structure ReadAs (s : Session) (d : Reading) : Prop where
  layer : s.layer = .receiver
  codec : s.codec = d.codec
  reject : s.settings.rejectTruncated.truth = d.reject
  receiver : ∀ r, s.receiver = some r → r.capacity = d.capacity ∧ r.limit = d.limit

theorem seen_finished (s : Session) (outcome : Outcome) (silent : d.warnings outcome = []) :
    seen d w (s, .finished outcome) = (s.asStream d w, .finished (d.outcome outcome)) := by
  have logged : d.logged (.finished outcome) = [] := silent
  rw [seen, logged, List.append_nil]
  rfl

private theorem seen_blocked (s : Session) (wait : Wait) :
    seen d w (s, .blocked wait) = (s.asStream d w, .blocked wait.asItem) := by
  have logged : d.logged (.blocked wait) = [] := rfl
  rw [seen, logged, List.append_nil]
  rfl

theorem ReadAs.built (h : s.ReadAs d) (same : Built s t) : t.ReadAs d where
  layer := same.layer.trans h.layer
  codec := same.codec.trans h.codec
  reject := by rw [same.settings, h.reject]
  receiver r found := by
    have bounds := same.bounds
    rw [found] at bounds
    obtain ⟨before, there, equal⟩ := Option.map_eq_some_iff.mp bounds.symm
    obtain ⟨capacity, limit⟩ := Prod.mk.inj equal
    rw [← capacity, ← limit]
    exact h.receiver before there

private theorem asStream_refusePull (h : s.ReadAs d) (patience : Nat) :
    (s.asStream d w).refusePull ⟨.stream .item, patience⟩ =
      ((s.refusePull ⟨.datagram, patience⟩).1.asStream d w,
        (s.refusePull ⟨.datagram, patience⟩).2.map d.outcome) := by
  have stopped : (s.asStream d w).cancelReceiver.1 = s.cancelReceiver.1.asStream d w := by
    have receiver : (s.asStream d w).receiver = s.receiver := rfl
    rw [cancelReceiver, cancelReceiver, receiver]
    cases s.receiver.map Receiver.state with
    | none => rfl
    | some state =>
      cases state with
      | idle spare => rfl
      | receiving id =>
        dsimp only
        rw [asStream_cancelReceive]
        rfl
  have layer : (s.asStream d w).layer = .stream := rfl
  have closed : (s.asStream d w).isEndpointClosed = s.isEndpointClosed := rfl
  have receiver : (s.asStream d w).receiver = s.receiver := rfl
  simp only [refusePull, h.layer, layer, closed, receiver, stopped]
  cases s.isEndpointClosed with
  | true => rfl
  | false => cases s.receiver.any Receiver.waiting <;> rfl

private theorem asStream_startReceive (s : Session) (r : Receiver) :
    (s.asStream d w).startReceive r =
      ((s.startReceive r).1.asStream d w, (s.startReceive r).2) := by
  unfold startReceive
  cases r.state with
  | receiving id => rfl
  | idle spare =>
    unfold receiveBuffer
    cases r.state with
    | receiving id => rfl
    | idle spare => cases spare <;> rfl

private theorem asStream_joinReceive (s : Session) (id : TaskId) (patience : Nat) :
    (s.asStream d w).joinReceive id ⟨.stream .item, patience⟩ =
      seen d w (s.joinReceive id ⟨.datagram, patience⟩) := by
  have receiver : (s.asStream d w).receiver = s.receiver := rfl
  rw [joinReceive, joinReceive, receiver]
  cases s.receiver with
  | none =>
    dsimp only
    rw [seen_finished s _ rfl]
    rfl
  | some r =>
    dsimp only
    rw [asStream_startReceive]
    obtain ⟨t, receive⟩ := s.startReceive r
    rw [seen_blocked]
    exact congrArg (·, Progress.blocked (.pulling receive ⟨.stream .item, patience⟩))
      (asStream_watch (t.setReceiver fun r => { r with waiting := true }) receive id)

theorem ReadAs.setState (h : s.ReadAs d) (state : ReceiverState) :
    (s.setReceiver fun r => { r with state := state }).ReadAs d := by
  refine { h with receiver := ?_ }
  intro r found
  obtain ⟨before, there, rfl⟩ := Option.map_eq_some_iff.mp found
  exact h.receiver before there

/-- A datagram of the receiver is an item of the stream. -/
theorem asStream_useDatagram (h : s.ReadAs d) (id : TaskId) (patience : Nat) {r : Receiver}
    (capacity : r.capacity = d.capacity) (limit : r.limit = d.limit) (x : Datagram) :
    (s.asStream d w).useDatagram id ⟨.stream .item, patience⟩ r x =
      seen d w (s, .finished (.value (.datagram (some x)))) := by
  have reject : (s.asStream d w).settings.rejectTruncated.truth = d.reject := h.reject
  have decoded : Item.ofDatagram (s.asStream d w).codec r.capacity d.reject x =
      Item.ofDatagram d.codec d.capacity d.reject x := by
    rw [capacity]
    exact congrArg (Item.ofDatagram · d.capacity d.reject x) h.codec
  unfold useDatagram seen
  dsimp only [Reading.progress, Reading.logged, Reading.outcome, Reading.warnings]
  rw [reject, limit, decoded]
  cases Item.ofDatagram d.codec d.capacity d.reject x <;> rfl

/-- Taking what an operation has brought. -/
theorem asStream_collect (h : s.ReadAs d) (id : TaskId) (patience : Nat) (receive : Receive) :
    (s.asStream d w).collect id ⟨.stream .item, patience⟩ receive =
      seen d w (s.collect id ⟨.datagram, patience⟩ receive) := by
  have receiver : (s.asStream d w).receiver = s.receiver := rfl
  have lost : (s.asStream d w, Progress.finished
        ((s.asStream d w).pullCancelled id ⟨.stream .item, patience⟩)) =
      seen d w (s, .finished (s.pullCancelled id ⟨.datagram, patience⟩)) := by
    rw [pullCancelled, pullCancelled, asStream_cancelRequests]
    split
    · rw [seen_finished s _ rfl]
      rfl
    · rw [seen_finished s _ rfl]
      rfl
  rw [collect, collect, receiver]
  cases found : s.receiver with
  | none => exact lost
  | some r =>
    obtain ⟨capacity, limit⟩ := h.receiver r found
    cases receive.outcome? with
    | none => exact lost
    | some outcome =>
      cases outcome with
      | cancelled => exact lost
      | failed error =>
        dsimp only [useFailure]
        rw [seen_finished _ _ rfl]
        rfl
      | arrived count peer =>
        exact asStream_useDatagram (h.setState (.idle (some receive.buffer))) id patience capacity
          limit _

private theorem asStream_pull (h : s.ReadAs d) (id : TaskId) (patience : Nat) :
    (s.asStream d w).pull id ⟨.stream .item, patience⟩ =
      seen d w (s.pull id ⟨.datagram, patience⟩) := by
  have uncollected : (s.asStream d w).uncollected? = s.uncollected? := rfl
  rw [Session.pull, Session.pull, asStream_refusePull h]
  rcases s.refusePull_cases ⟨.datagram, patience⟩ with
    ⟨socket, -, -⟩ | ⟨-, -, refused⟩ | refused | ⟨-, admitted⟩
  · cases h.layer.symm.trans socket
  · rw [refused]
    exact (seen_finished s.cancelReceiver.1 (.value (.datagram none)) rfl).symm
  · rw [refused]
    exact (seen_finished s _ rfl).symm
  · rw [admitted]
    dsimp only [Option.map_none]
    rw [uncollected]
    cases s.uncollected? with
    | some receive => exact asStream_collect h id patience receive
    | none => exact s.asStream_joinReceive id patience

private theorem asStream_resumePull (h : s.ReadAs d) (id : TaskId) (receive : ReceiveId)
    (patience : Nat) (wake : Wake) :
    (s.asStream d w).resumePull id receive ⟨.stream .item, patience⟩ wake =
      seen d w (s.resumePull id receive ⟨.datagram, patience⟩ wake) := by
  let unwaited := s.setReceiver fun r => { r with waiting := false }
  have read : unwaited.ReadAs d := by
    refine { h with receiver := ?_ }
    intro r found
    obtain ⟨before, there, rfl⟩ := Option.map_eq_some_iff.mp found
    exact h.receiver before there
  have interrupted (r : Receive) : (unwaited.asStream d w).isInterrupted id r wake =
      unwaited.isInterrupted id r wake := by
    rw [isInterrupted, isInterrupted, asStream_cancelRequests]
  have cancelled : (unwaited.asStream d w, Progress.finished .cancelled) =
      seen d w (unwaited, .finished .cancelled) := (seen_finished unwaited .cancelled rfl).symm
  cases found : s.receives[receive]? with
  | none =>
    rw [resumePull_missing _ found, resumePull_missing (s := s.asStream d w) _ found]
    exact cancelled
  | some r =>
    cases disturbed : unwaited.isInterrupted id r wake with
    | false =>
      have same := (interrupted r).trans disturbed
      rw [resumePull_calm _ found disturbed, resumePull_calm (s := s.asStream d w) _ found same]
      exact asStream_collect read id patience r
    | true =>
      have same := (interrupted r).trans disturbed
      cases patience with
      | zero =>
        rw [resumePull_cancelled _ found disturbed,
          resumePull_cancelled (s := s.asStream d w) _ found same]
        exact cancelled
      | succ left =>
        rw [resumePull_patient _ left found disturbed,
          resumePull_patient (s := s.asStream d w) _ left found same]
        exact asStream_pull read id left

end Pulling

section Logging

variable {capacity : Nat} {actions : List Action} {status : TaskStatus}

/-- What a stream has logged for the pulls that have ended. -/
def logs (d : Reading) (history : List (Action × Outcome)) : List CutWarning :=
  (pulled history).flatMap d.warnings

theorem logs_append (history : List (Action × Outcome)) (entry : Action × Outcome) :
    logs d (history ++ [entry]) = logs d history ++ logs d [entry] := by
  rw [logs, pulled_append, List.flatMap_append]
  rfl

private theorem logs_next (patience : Nat) (outcome : Outcome) :
    logs d [(.next patience, outcome)] = d.warnings outcome := by
  cases outcome with
  | cancelled => rfl
  | _ => exact List.append_nil _

private theorem logs_other {action : Action} (other : action.isPull = false) (outcome : Outcome) :
    logs d [(action, outcome)] = [] := by
  cases action with
  | next patience => cases other
  | _ => rfl

private theorem logs_cancelled (action : Action) : logs d [(action, .cancelled)] = [] := by
  cases action <;> rfl

/-- A task that is cancelled adds nothing to the history yet. -/
theorem history_cancelTask (h : Sound capacity actions s) (target : TaskId) :
    (s.cancelTask target).1.history actions = s.history actions := by
  have asked : (s.asked target).Recorded := h.recorded.keep (s.statuses_asked target) rfl
  have before : (s.asked target).history actions = s.history actions :=
    history_eq rfl fun id _ => by rw [s.statuses_asked]
  have goes {old new : TaskStatus} (found : s.statuses[target]? = some old)
      (running : old.isOver = false) :
      ((s.asked target).setStatus target new).history actions = s.history actions := by
    rw [← before]
    exact asked.history_set (by rw [statuses_asked, found]) running (statuses_setStatus _ _ _) rfl
  rw [cancelTask_eq]
  cases found : s.statuses[target]? with
  | none => rfl
  | some status =>
    cases status with
    | queued action cancelled => exact goes found rfl
    | running cancelled => exact goes found rfl
    | woken wait wake => exact goes found rfl
    | finished outcome => rfl
    | blocked wait =>
      obtain ⟨action, -, follows⟩ := h.action found
      cases follows with
      | blocked patience pull joined => exact goes found rfl

/-- A turn of a pull adds to the history what it came to. -/
theorem logs_settle (h : s.Recorded) (found : s.statuses[id]? = some status)
    (running : status.isOver = false) {patience : Nat}
    (here : actions[id]? = some (.next patience))
    (tasks : t.tasks = (s.setStatus id (.running false)).tasks) (finished : t.finished = s.finished)
    (progress : Progress) :
    logs d ((t.settle id progress).history actions) =
      logs d (s.history actions) ++ d.logged progress := by
  have statuses : t.statuses = s.statuses.set id (.running false) :=
    (statuses_eq tasks).trans (statuses_setStatus s id _)
  have inside := (List.getElem?_eq_some_iff.mp found).1
  cases progress with
  | blocked wait =>
    have now : (t.settle id (.blocked wait)).statuses = s.statuses.set id (.blocked wait) := by
      rw [settle, statuses_setStatus, statuses, List.set_set]
    rw [h.history_set found running now finished]
    exact (List.append_nil _).symm
  | finished outcome =>
    have runs : t.statuses[id]? = some (.running false) := by
      rw [statuses, List.getElem?_set_self inside]
    have now : (t.finish id outcome).statuses = s.statuses.set id (.finished outcome) := by
      rw [statuses_finish, statuses, List.set_set]
    rw [settle_finished runs, h.history_finish found running here now
      (congrArg (· ++ [id]) finished), logs_append, logs_next]
    rfl

/-- The end of a task that is no pull is not logged. -/
theorem logs_end (h : t.Recorded) {cancelled : Bool}
    (runs : t.statuses[id]? = some (.running cancelled)) {action : Action}
    (here : actions[id]? = some action) (other : action.isPull = false) (outcome : Outcome) :
    logs d ((t.settle id (.finished outcome)).history actions) = logs d (t.history actions) := by
  rw [settle_running runs, h.history_finish runs rfl here (statuses_finish _ _ _) rfl, logs_append,
    logs_other other, List.append_nil]

/-- A pull does nothing to the tasks but to the one that pulls. -/
theorem Desk.tasks_pull {e : Endpoint} {r : Receiver} (h : Desk capacity s e r)
    (free : s.view.waiting = false) (id : TaskId) (patience : Nat) :
    (s.pull id ⟨.datagram, patience⟩).1.tasks = s.tasks ∧
      (s.pull id ⟨.datagram, patience⟩).1.finished = s.finished := by
  rcases h.pull free id patience with
    ⟨t, outcome, took, -, taken⟩ | ⟨t, receive, waits, -, joined⟩
  · rw [took]
    exact ⟨taken.tasks, taken.finished⟩
  · rw [waits]
    exact ⟨joined.tasks, joined.finished⟩

theorem Desk.tasks_resumePull {e : Endpoint} {r : Receiver} (h : Desk capacity s e r)
    {receive : ReceiveId} (current : s.view.current = some receive) {wake : Wake}
    (told : wake ≠ .cancelled → s.view.done = true) (id : TaskId) (patience : Nat) :
    (s.resumePull id receive ⟨.datagram, patience⟩ wake).1.tasks = s.tasks ∧
      (s.resumePull id receive ⟨.datagram, patience⟩ wake).1.finished = s.finished := by
  have again (cancelled : wake.isCancelled = true) :
      (s.resumePull id receive ⟨.datagram, patience⟩ wake).1.tasks = s.tasks ∧
        (s.resumePull id receive ⟨.datagram, patience⟩ wake).1.finished = s.finished := by
    cases patience with
    | zero =>
      rw [h.resumePull_cancelled current cancelled]
      exact ⟨rfl, rfl⟩
    | succ left =>
      rw [h.resumePull_patient current cancelled]
      have free : (s.setReceiver fun r => { r with waiting := false }).view.waiting = false := by
        rw [h.view_setWaiting false]
      exact (h.setWaiting false).tasks_pull free id left
  cases wake with
  | due =>
    obtain ⟨t, outcome, took, -, taken⟩ := h.resumePull_due current (told nofun) id patience
    rw [took]
    exact ⟨taken.tasks, taken.finished⟩
  | dueCancelled => exact again rfl
  | cancelled => exact again rfl

end Logging

section Turning

variable {capacity : Nat} {actions : List Action}

/-- The stream over a receiver, which has logged what its pulls have decoded. -/
def decoded (s : Session) (d : Reading) (actions : List Action) : Session :=
  s.asStream d (logs d (s.history actions))

private theorem asStream_settle (s : Session) (id : TaskId) (progress : Progress) :
    (s.asStream d w).settle id (d.progress progress) = (s.settle id progress).asStream d w := by
  cases progress with
  | blocked wait => exact asStream_setStatus s id (.blocked wait)
  | finished outcome =>
    have ends : (s.asStream d w).finish id (d.outcome outcome) =
        (s.finish id outcome).asStream d w := asStream_finish s id outcome
    have cancels : (s.asStream d w).finish id .cancelled =
        (s.finish id .cancelled).asStream d w := asStream_finish s id .cancelled
    rw [Reading.progress, settle, settle, asStream_status]
    cases (s.task? id).map Task.status with
    | none => exact ends
    | some status =>
      cases status with
      | running cancelled => cases cancelled with
        | true => exact cancels
        | false => exact ends
      | _ => exact ends

/-- The turn of a pull ends for the stream as it does for the receiver. -/
theorem settle_seen {p q : Session × Progress} (same : q = seen d w p) (id : TaskId)
    (logged : logs d ((p.1.settle id p.2).history actions) = w ++ d.logged p.2) :
    q.1.settle id q.2 = (p.1.settle id p.2).decoded d actions := by
  rw [same, decoded, logged]
  exact asStream_settle p.1 id p.2

/-- The turn of a task that does not pull ends for the stream as it does for the receiver. -/
theorem settle_other {outcome : Outcome} {q : Session × Progress}
    (same : q = (t.asStream d (logs d (s.history actions)), .finished (d.outcome outcome)))
    (recorded : t.Recorded) {cancelled : Bool}
    (runs : t.statuses[id]? = some (.running cancelled)) {action : Action}
    (here : actions[id]? = some action) (other : action.isPull = false)
    (history : t.history actions = s.history actions) :
    q.1.settle id q.2 = (t.settle id (.finished outcome)).decoded d actions := by
  rw [same, decoded, logs_end recorded runs here other, history]
  exact asStream_settle t id (.finished outcome)

/-- A turn of a task. -/
theorem decoded_resume (h : Sound capacity actions s) (read : s.ReadAs d) (id : TaskId) :
    (s.decoded d actions).resume id = (s.resume id).decoded d actions := by
  rw [decoded, resume, resume, asStream_status]
  cases status : (s.task? id).map Task.status with
  | none => rfl
  | some status' =>
    have found : s.statuses[id]? = some status' := by
      rw [statuses, List.getElem?_map]
      exact status
    have inside := (List.getElem?_eq_some_iff.mp found).1
    let begun := s.setStatus id (.running false)
    have runs : begun.statuses[id]? = some (.running false) := statuses_run inside
    have started : (s.asStream d (logs d (s.history actions))).setStatus id (.running false) =
        begun.asStream d (logs d (s.history actions)) := asStream_setStatus s id (.running false)
    obtain ⟨e, r, desk⟩ := h.desk
    have desk' : Desk capacity begun e r := { desk with }
    have read' : begun.ReadAs d := { read with }
    obtain ⟨action, here, follows⟩ := h.action found
    cases follows with
    | running cancelled => rfl
    | blocked patience pull joined => rfl
    | finished outcome => rfl
    | @woken receive wake patience pull joined told =>
      obtain ⟨patience', rfl⟩ : ∃ patience, action = .next patience := by
        cases action with
        | next patience => exact ⟨patience, rfl⟩
        | _ => cases pull
      obtain ⟨tasks, finished⟩ := desk'.tasks_resumePull joined told id patience
      have seen := asStream_resumePull (w := logs d (s.history actions)) read' id receive patience
        wake
      rw [← started] at seen
      exact settle_seen seen id (logs_settle h.recorded found rfl here tasks finished _)
    | queued cancelled traffic =>
      cases cancelled with
      | true =>
        have now := h.recorded.history_finish found rfl here (statuses_finish s id .cancelled) rfl
        dsimp only
        rw [decoded, now, logs_append, logs_cancelled, List.append_nil]
        exact asStream_finish s id .cancelled
      | false =>
        have link : (begun.asStream d (logs d (s.history actions))).link = .up e := desk.link
        have before : begun.history actions = s.history actions :=
          h.recorded.history_set found rfl (statuses_setStatus s id _) rfl
        have sound : Sound capacity actions begun := h.run found
        dsimp only [Reading.status, Option.map_some]
        rw [started, begin_up link, begin_up desk'.link]
        cases action with
        | feed arrival =>
          obtain ⟨⟨e', after⟩, silent, -⟩ := desk'.feed arrival
          obtain ⟨standing, same⟩ := sound.toStanding.silent silent ⟨e', r, after⟩
          have still : (begun.feed arrival).statuses[id]? = some (.running false) := by
            rw [statuses_eq silent.tasks, runs]
          refine settle_other ?_ standing.recorded still here rfl (same.trans before)
          exact congrArg (·, _) (asStream_feed begun arrival)
        | cancel name =>
          rw [perform, perform, asStream_taskId?]
          cases begun.taskId? name with
          | none => exact settle_other rfl sound.recorded runs here rfl before
          | some target =>
            obtain ⟨cancelled, still⟩ := sound.status_cancelTask runs target
            have same := (history_cancelTask sound target).trans before
            refine settle_other ?_ (sound.cancelTask target).recorded still here rfl same
            dsimp only
            rw [asStream_cancelTask]
            rfl
        | next patience =>
          have free := h.consumers.free found (h.consumers.only found rfl) rfl
          obtain ⟨tasks, finished⟩ := desk'.tasks_pull free id patience
          rw [desk'.perform_next]
          exact settle_seen (asStream_pull read' id patience) id
            (logs_settle h.recorded found rfl here tasks finished _)
        | _ => cases traffic

private theorem decoded_signal (h : Sound capacity actions s) (id : TaskId) :
    (s.decoded d actions).signal id = (s.signal id).decoded d actions := by
  have same : (s.signal id).history actions = s.history actions := by
    have status : (s.task? id).map Task.status = s.statuses[id]? := List.getElem?_map.symm
    rw [signal, status]
    cases found : s.statuses[id]? with
    | none => rfl
    | some status =>
      cases status with
      | blocked wait => exact h.recorded.history_set found rfl (statuses_setStatus s id _) rfl
      | _ => rfl
  rw [decoded, decoded, same]
  exact s.asStream_signal id

private theorem decoded_turnReceive (h : Sound capacity actions s) (id : ReceiveId) :
    (s.decoded d actions).turnReceive id = (s.turnReceive id).decoded d actions := by
  have same : (s.turnReceive id).history actions = s.history actions := by
    obtain ⟨e, r, desk⟩ := h.desk
    obtain ⟨-, passed | received⟩ := desk.turnReceive id
    · exact history_eq passed.finished fun _ _ => by rw [statuses_eq passed.tasks]
    · exact history_eq received.finished fun _ _ => by rw [statuses_eq received.tasks]
  rw [decoded, decoded, same]
  exact s.asStream_turnReceive id

/-- Each step of a receiver, seen with its datagrams as items, is a step of the stream. -/
theorem decoded_choose (h : Sound capacity actions s) (read : s.ReadAs d) (choice : Choice) :
    (s.decoded d actions).choose choice =
      (s.choose choice).decoded d (actions ++ Session.actions [choice]) := by
  cases choice with
  | spawn name action =>
    have same := h.recorded.history_spawn h.consumers.length name action
    have tasks : s.tasks.map d.task ++ [Task.start name action] =
        (s.tasks ++ [Task.start name action]).map d.task := by
      rw [List.map_append]
      rfl
    have length : (s.tasks.map d.task).length = s.tasks.length := List.length_map ..
    change (s.decoded d actions).spawn name action =
      (s.spawn name action).decoded d (actions ++ [action])
    rw [decoded, decoded, same]
    simp only [spawn, asStream, queue, tasks, length]
  | turn place =>
    change (s.decoded d actions).turnAt place =
      (s.turnAt place).decoded d (actions ++ [])
    rw [List.append_nil, turnAt, turnAt]
    have ready : (s.decoded d actions).ready = s.ready := rfl
    rw [ready]
    cases found : s.ready[place]? with
    | none => rfl
    | some turn =>
      let rest := { s with ready := s.ready.eraseIdx place }
      have sound : Sound capacity actions rest :=
        h.turns fun _ left => List.mem_of_mem_eraseIdx left
      have read' : rest.ReadAs d := { read with }
      cases turn with
      | resume id => exact decoded_resume sound read' id
      | signal id => exact decoded_signal sound id
      | receive id => exact decoded_turnReceive sound id

/-- One consumer pulls at a time from the stream when one does from the receiver. -/
theorem permits_of_decoded {choice : Choice} (permitted : (s.decoded d actions).permits choice) :
    s.permits choice := by
  cases choice with
  | turn place => trivial
  | spawn name action =>
    obtain ⟨traffic, single⟩ := permitted
    refine ⟨traffic, fun pull t member => ?_⟩
    have same : (d.status t.status).isPull = t.status.isPull := by
      obtain ⟨name, status, requests⟩ := t
      cases status with
      | blocked wait => cases wait <;> rfl
      | woken wait wake => cases wait <;> rfl
      | _ => rfl
    rw [← same]
    exact single pull (d.task t) (List.mem_map_of_mem member)

/-- What is permitted around a receiver are calls of it. -/
theorem calls_of_permits {choice : Choice} (permitted : s.permits choice) :
    Calls .receiver [choice] := by
  intro action member
  cases choice with
  | turn place => cases member
  | spawn name started =>
    cases List.mem_singleton.mp member
    have traffic := permitted.1
    cases action with
    | feed arrival => rfl
    | next patience => rfl
    | cancel name => rfl
    | _ => cases traffic

/-- Each schedule of a stream is one of its receiver. -/
theorem decoded_schedule {choices : List Choice} (h : Sound capacity actions s)
    (read : s.ReadAs d) (fit : s.Fit) (single : (s.decoded d actions).OneConsumer choices) :
    s.OneConsumer choices ∧ (s.decoded d actions).schedule choices =
      (s.schedule choices).decoded d (actions ++ Session.actions choices) := by
  induction choices generalizing s actions with
  | nil =>
    rw [Session.actions, List.filterMap_nil, List.append_nil]
    exact ⟨trivial, rfl⟩
  | cons choice rest ih =>
    obtain ⟨permitted, later⟩ := single
    have permitted := permits_of_decoded permitted
    have calls : Calls s.layer [choice] := read.layer ▸ calls_of_permits permitted
    obtain ⟨fit, built⟩ := (choose_course fit calls).keep fit (P := Built s)
      (fun _ _ _ _ change fit same => same.trans (change.built fit)) ⟨rfl, rfl, rfl, rfl⟩
    have sound : Sound capacity (actions ++ Session.actions [choice]) (s.choose choice) :=
      h.schedule ⟨permitted, trivial⟩
    rw [decoded_choose h read] at later
    obtain ⟨single, same⟩ := ih sound (read.built built) fit later
    refine ⟨⟨permitted, single⟩, ?_⟩
    change ((s.decoded d actions).choose choice).schedule rest = _
    have actions : Session.actions (choice :: rest) =
        Session.actions [choice] ++ Session.actions rest := List.filterMap_append (l := [choice])
    rw [decoded_choose h read, same, List.append_assoc, actions]
    rfl

end Turning

end Session

end Osc
