import Osc.Proofs.Reception

/-!
What a pull does at a receiver. It takes what was received and not taken, at once, or it
joins the operation under way, which it starts when there is none. A pull that is cancelled
while it waits leaves the operation, with what it brought, as it is.
-/

namespace Osc.Session

/-- What was received is taken. -/
structure Taken (s t : Session) (outcome : Outcome) : Prop where
  tasks : t.tasks = s.tasks
  finished : t.finished = s.finished
  ready : t.ready = s.ready
  untaken : t.untaken = s.untaken
  view : t.view = ⟨s.view.waiting, none, false, []⟩
  outcome : s.undelivered = some outcome
  nothing : t.undelivered = none

/-- An operation that has brought nothing is joined; what tasks see of it then. -/
structure Joined (v : View) (s t : Session) : Prop where
  tasks : t.tasks = s.tasks
  finished : t.finished = s.finished
  signals : ∀ id, .signal id ∈ t.ready → .signal id ∈ s.ready
  ready : s.ready ⊆ t.ready
  operates : s.Operates s.ready → t.Operates t.ready
  untaken : t.untaken = s.untaken
  undone : s.view.done = false
  view : t.view = v
  before : s.undelivered = none
  after : t.undelivered = none

variable {capacity : Nat} {s : Session} {e : Endpoint} {r : Receiver}

namespace Desk

/-- The operation that tasks see is the one under way. -/
theorem underWay (h : Desk capacity s e r) {id : ReceiveId} (current : s.view.current = some id) :
    ∃ receive, r.state = .receiving id ∧ s.receives[id]? = some receive ∧
      Stands id receive.status e.network.inbox.waiting := by
  cases h.phase with
  | idle spare idle =>
    rw [view_idle h.receiver idle] at current
    cases current
  | receiving id' receive under found room stands =>
    rw [view_eq h.receiver under found] at current
    cases current
    exact ⟨receive, under, found, stands⟩

/-- A task starts or stops to wait on the receiver. -/
theorem setWaiting (h : Desk capacity s e r) (waiting : Bool) :
    Desk capacity (s.setReceiver fun r => { r with waiting := waiting }) e
      { r with waiting := waiting } :=
  { h with receiver := by rw [setReceiver, h.receiver]; rfl }

theorem view_setWaiting (h : Desk capacity s e r) (waiting : Bool) :
    (s.setReceiver fun r => { r with waiting := waiting }).view =
      { s.view with waiting := waiting } := by
  cases h.phase with
  | idle spare idle =>
    rw [view_idle h.receiver idle, view_idle (h.setWaiting waiting).receiver idle]
  | receiving id receive under found =>
    rw [view_eq h.receiver under found, view_eq (h.setWaiting waiting).receiver under found]

theorem undelivered_setWaiting (h : Desk capacity s e r) (waiting : Bool) :
    (s.setReceiver fun r => { r with waiting := waiting }).undelivered = s.undelivered := by
  cases h.phase with
  | idle spare idle =>
    rw [undelivered_idle h.receiver idle, undelivered_idle (h.setWaiting waiting).receiver idle]
  | receiving id receive under found =>
    rw [undelivered_eq h.receiver under found,
      undelivered_eq (h.setWaiting waiting).receiver under found]
    rfl

theorem operates_setWaiting (h : Desk capacity s e r) (waiting : Bool) {turns : List Turn}
    (operates : s.Operates turns) :
    (s.setReceiver fun r => { r with waiting := waiting }).Operates turns := by
  have waits := h.setWaiting waiting
  cases h.phase with
  | idle spare idle =>
    apply operates_idle
    rw [view_idle waits.receiver idle]
  | receiving id receive under found =>
    exact operates_of waits.receiver under found (operates.moves h.receiver under found)

/-- Other tasks are to be told of the end of the operation under way. -/
theorem setWatchers (h : Desk capacity s e r) {id : ReceiveId}
    (current : s.view.current = some id) (f : List TaskId → List TaskId) {t : Session}
    (now : t = { s with receives := s.receives.modify id fun receive =>
      { receive with watchers := f receive.watchers } }) :
    Desk capacity t e r ∧ t.view = { s.view with watchers := f s.view.watchers } ∧
      t.undelivered = s.undelivered ∧ ∀ turns, s.Operates turns → t.Operates turns := by
  obtain ⟨receive, under, found, stands⟩ := h.underWay current
  let told (receive : Receive) : Receive := { receive with watchers := f receive.watchers }
  have desk := h.modify under found told rfl e h.opened stands
  have found' : t.receives[id]? = some (told receive) := by
    rw [now]
    exact (List.getElem?_modify_eq ..).trans (congrArg (Option.map told) found)
  have receiver : t.receiver = some r := by rw [now, h.receiver]
  rw [view_eq h.receiver under found, undelivered_eq h.receiver under found,
    view_eq receiver under found', undelivered_eq receiver under found']
  rw [now] at found' receiver ⊢
  refine ⟨{ desk with link := h.link }, rfl, rfl, ?_⟩
  intro turns operates
  have moves := operates.moves h.receiver under found
  exact operates_of receiver under found' moves

theorem unwatch (h : Desk capacity s e r) {id : ReceiveId} (current : s.view.current = some id)
    (task : TaskId) :
    Desk capacity (s.unwatch id task) e r ∧
      (s.unwatch id task).view = { s.view with watchers := s.view.watchers.erase task } ∧
        (s.unwatch id task).undelivered = s.undelivered ∧
          ∀ turns, s.Operates turns → (s.unwatch id task).Operates turns :=
  h.setWatchers current (·.erase task) rfl

/-- When the operation under way is over, the receiver may be idle again. -/
theorem release (h : Desk capacity s e r) {id : ReceiveId} {receive : Receive}
    (under : r.state = .receiving id) (found : s.receives[id]? = some receive)
    (done : receive.isFinished = true) {spare : Option BufferId}
    (nobody : e.network.inbox.waiting = []) (room : ∀ b ∈ spare, b < s.buffers.length)
    {outcome : Outcome} (brought : s.undelivered = some outcome) :
    (∃ r', Desk capacity (s.setReceiver fun r => { r with state := .idle spare }) e r') ∧
      Taken s (s.setReceiver fun r => { r with state := .idle spare }) outcome := by
  have receiver : (s.setReceiver fun r => { r with state := .idle spare }).receiver =
      some { r with state := .idle spare } := by
    rw [setReceiver, h.receiver]
    rfl
  have finished (other : ReceiveId) (receive' : Receive)
      (atOther : s.receives[other]? = some receive') : receive'.isFinished = true := by
    by_cases same : r.state = .receiving other
    · cases under.symm.trans same
      cases found.symm.trans atOther
      exact done
    · exact h.finished other receive' atOther same
  constructor
  · exact ⟨_, { h with
      receiver := receiver
      phase := .idle spare rfl nobody room
      finished := fun other receive' atOther _ => finished other receive' atOther }⟩
  · have view := view_idle receiver rfl
    have waits : s.view.waiting = r.waiting := by rw [view_eq h.receiver under found]
    exact ⟨rfl, rfl, rfl, rfl, by rw [view, waits], brought, undelivered_idle receiver rfl⟩

/-- What was received is taken. The buffer is used again, but not after a failure. -/
theorem collect (h : Desk capacity s e r) {id : ReceiveId} {receive : Receive}
    (under : r.state = .receiving id) (found : s.receives[id]? = some receive)
    (done : receive.isFinished = true) (task : TaskId) (patience : Nat) :
    ∃ t outcome, s.collect task ⟨.datagram, patience⟩ receive = (t, .finished outcome) ∧
      (∃ r', Desk capacity t e r') ∧ Taken s t outcome := by
  have brought := undelivered_eq h.receiver under found
  cases h.phase with
  | idle spare idle => cases under.symm.trans idle
  | receiving id' receive' under' found' room stands =>
    cases under.symm.trans under'
    cases found.symm.trans found'
    obtain ⟨buffer, status, watchers⟩ := receive
    generalize waiting : e.network.inbox.waiting = takers at stands
    cases stands with
    | queued => cases done
    | waiting => cases done
    | woken => cases done
    | arrived count peer =>
      have kept : ∀ b ∈ some buffer, b < s.buffers.length := fun b member =>
        Option.mem_some.mp member ▸ room
      refine ⟨_, _, ?_, h.release under found done waiting kept brought⟩
      simp only [Session.collect, h.receiver]
      rfl
    | failed error =>
      have none : ∀ b ∈ (none : Option BufferId), b < s.buffers.length := by simp
      refine ⟨_, _, ?_, h.release under found done waiting none brought⟩
      simp only [Session.collect, h.receiver]
      rfl

/-- The buffer for the next operation is the one that was kept, or a new one of the same
size. -/
theorem receiveBuffer (h : Desk capacity s e r) {spare : Option BufferId}
    (idle : r.state = .idle spare) :
    ∃ buffers buffer, s.receiveBuffer r = ({ s with buffers := buffers }, buffer) ∧
      Desk capacity { s with buffers := buffers } e r ∧ buffer < buffers.length := by
  cases h.phase with
  | receiving id receive under => cases under.symm.trans idle
  | idle spare' idle' nobody room =>
    cases idle.symm.trans idle'
    rw [Session.receiveBuffer, idle]
    cases spare with
    | some buffer => exact ⟨s.buffers, buffer, rfl, { h with }, room buffer rfl⟩
    | none =>
      have size : r.bufferSize = capacity + 1 := by
        rw [Receiver.bufferSize, h.limit]
        rfl
      refine ⟨_, _, rfl, { h with phase := .idle none idle nobody (by simp), sizes := ?_ }, by simp⟩
      intro b member
      rcases List.mem_append.mp member with old | new
      · exact h.sizes b old
      · rw [List.mem_singleton.mp new]
        exact size

/-- The operation that a pull joins: the one under way, or one that is started. -/
theorem startReceive (h : Desk capacity s e r) (undone : s.view.done = false) :
    ∃ t id, s.startReceive r = (t, id) ∧ (∃ r', Desk capacity t e r') ∧
      Joined ⟨s.view.waiting, some id, false, s.view.watchers⟩ s t := by
  cases state : r.state with
  | receiving id =>
    cases h.phase with
    | idle spare idle => cases state.symm.trans idle
    | receiving id' receive under found =>
      cases state.symm.trans under
      have view := view_eq h.receiver under found
      have before : receive.isFinished = false := by
        rw [view] at undone
        exact undone
      have nothing : s.undelivered = none := by
        rw [undelivered_eq h.receiver under found,
          Option.isNone_iff_eq_none.mp (Option.isSome_eq_false_iff.mp before)]
        rfl
      refine ⟨s, id, by rw [Session.startReceive, state], ⟨r, h⟩, ?_⟩
      refine ⟨rfl, rfl, fun _ member => member, fun _ member => member, fun operates => operates,
        rfl, undone, ?_, nothing, nothing⟩
      rw [view, before]
  | idle spare =>
    obtain ⟨buffers, buffer, made, desk, room⟩ := h.receiveBuffer state
    cases h.phase with
    | receiving id receive under => cases under.symm.trans state
    | idle spare' idle nobody =>
      let id := s.receives.length
      let t : Session := { s with
        buffers := buffers
        receives := s.receives ++ [Receive.start buffer]
        receiver := some { r with state := .receiving id }
        ready := s.ready ++ [.receive id] }
      have found : t.receives[id]? = some (Receive.start buffer) := List.getElem?_concat_length
      have started : s.startReceive r = (t, id) := by
        simp only [Session.startReceive, state, made, setReceiver, queue, h.receiver]
        rfl
      have finished (other : ReceiveId) (receive : Receive)
          (old : t.receives[other]? = some receive)
          (different : ReceiverState.receiving id ≠ .receiving other) :
          receive.isFinished = true := by
        rcases getElem?_concat_eq_some.mp old with old | ⟨new, -⟩
        · exact h.finished other receive old (by simp [state])
        · exact absurd (congrArg ReceiverState.receiving new.symm) different
      refine ⟨t, id, started, ⟨{ r with state := .receiving id }, ?_⟩, ?_⟩
      · exact { desk with
          receiver := rfl
          phase := .receiving id (Receive.start buffer) rfl found room (nobody ▸ .queued)
          finished := finished }
      · refine ⟨rfl, rfl, by simp [t], List.subset_append_left .., fun _ => ?_, rfl, undone, ?_,
          undelivered_idle h.receiver state, ?_⟩
        · exact operates_of (s := t) rfl rfl found (.queued false (by simp [t]))
        · rw [view_eq (s := t) rfl rfl found, view_idle h.receiver state]
          rfl
        · rw [undelivered_eq (s := t) rfl rfl found]
          rfl

/-- A pull joins an operation and waits. -/
theorem joinReceive (h : Desk capacity s e r) (undone : s.view.done = false) (task : TaskId)
    (patience : Nat) :
    ∃ t receive, s.joinReceive task ⟨.datagram, patience⟩ =
        (t, .blocked (.pulling receive ⟨.datagram, patience⟩)) ∧
      (∃ r', Desk capacity t e r') ∧
        Joined ⟨true, some receive, false, s.view.watchers ++ [task]⟩ s t := by
  obtain ⟨t, id, started, ⟨r', desk⟩, joined⟩ := h.startReceive undone
  have waits := desk.setWaiting true
  have view := desk.view_setWaiting true
  have undelivered := desk.undelivered_setWaiting true
  rw [joined.view] at view
  rw [joined.after] at undelivered
  obtain ⟨watched, viewed, kept, operates⟩ :=
    waits.setWatchers (by rw [view]) (· ++ [task]) rfl
  rw [view] at viewed
  rw [undelivered] at kept
  obtain ⟨receive, under, found, stands⟩ := waits.underWay (by rw [view])
  have unfinished : ((t.setReceiver fun r => { r with waiting := true }).receive? id).any
      Receive.isFinished = false := by
    rw [view_eq waits.receiver under found] at view
    rw [receive?, found]
    exact congrArg View.done view
  refine ⟨_, id, ?_, ⟨_, watched⟩, joined.tasks, joined.finished, joined.signals, joined.ready,
    fun before => operates _ (desk.operates_setWaiting true (joined.operates before)),
    joined.untaken, undone, viewed, joined.before, kept⟩
  simp only [Session.joinReceive, h.receiver, started, watch, unfinished]
  rfl

private theorem uncollected?_of_undone (h : Desk capacity s e r) (undone : s.view.done = false) :
    s.uncollected? = none := by
  cases h.phase with
  | idle spare idle => rw [uncollected?, h.receiver, Option.map_some, idle]
  | receiving id receive under found =>
    rw [view_eq h.receiver under found] at undone
    rw [uncollected?, h.receiver, Option.map_some, under]
    simp only [receive?, found]
    rw [Option.filter_some, if_neg (by simpa using undone)]

private theorem uncollected?_of_done (h : Desk capacity s e r) (done : s.view.done = true) :
    ∃ id receive, r.state = .receiving id ∧ s.receives[id]? = some receive ∧
      receive.isFinished = true ∧ s.uncollected? = some receive := by
  cases h.phase with
  | idle spare idle =>
    rw [view_idle h.receiver idle] at done
    cases done
  | receiving id receive under found =>
    rw [view_eq h.receiver under found] at done
    refine ⟨id, receive, under, found, done, ?_⟩
    rw [uncollected?, h.receiver, Option.map_some, under]
    simp only [receive?, found]
    rw [Option.filter_some, if_pos done]

/-- Without a task that waits, a pull is not refused. -/
theorem refusePull (h : Desk capacity s e r) (free : s.view.waiting = false) (pull : Pull) :
    s.refusePull pull = (s, none) := by
  have opened : s.isEndpointClosed = false := by
    rw [isEndpointClosed, endpoint?, h.link]
    exact h.opened
  have waiting : s.receiver.any Receiver.waiting = false := free
  simp only [Session.refusePull, h.layer, opened, waiting]
  rfl

theorem perform_next (h : Desk capacity s e r) (task : TaskId) (patience : Nat) :
    s.perform task (.next patience) = s.pull task ⟨.datagram, patience⟩ := by
  have use : pullUse s.layer .item = .datagram := by
    rw [h.layer]
    rfl
  rw [perform, use]

/-- A pull takes what was received, or joins an operation and waits. -/
theorem pull (h : Desk capacity s e r) (free : s.view.waiting = false) (task : TaskId)
    (patience : Nat) :
    (∃ t outcome, s.pull task ⟨.datagram, patience⟩ = (t, .finished outcome) ∧
        (∃ r', Desk capacity t e r') ∧ Taken s t outcome) ∨
      ∃ t receive, s.pull task ⟨.datagram, patience⟩ =
          (t, .blocked (.pulling receive ⟨.datagram, patience⟩)) ∧
        (∃ r', Desk capacity t e r') ∧
          Joined ⟨true, some receive, false, s.view.watchers ++ [task]⟩ s t := by
  cases done : s.view.done with
  | false =>
    have next : s.pull task ⟨.datagram, patience⟩ = s.joinReceive task ⟨.datagram, patience⟩ := by
      simp only [Session.pull, h.refusePull free, h.uncollected?_of_undone done]
    rw [next]
    exact .inr (h.joinReceive done task patience)
  | true =>
    obtain ⟨id, receive, under, found, finished, uncollected⟩ := h.uncollected?_of_done done
    have next : s.pull task ⟨.datagram, patience⟩ =
        s.collect task ⟨.datagram, patience⟩ receive := by
      simp only [Session.pull, h.refusePull free, uncollected]
    rw [next]
    exact .inl (h.collect under found finished task patience)

private theorem not_isCancelled {id : ReceiveId} {receive : Receive} {takers : List Taker}
    (stands : Stands id receive.status takers) : receive.isCancelled = false := by
  obtain ⟨buffer, status, watchers⟩ := receive
  cases stands <;> rfl

/-- A pull that is cancelled while it waits leaves everything to the next. -/
theorem resumePull_cancelled (h : Desk capacity s e r) {id : ReceiveId}
    (current : s.view.current = some id) {wake : Wake} (cancelled : wake.isCancelled = true)
    (task : TaskId) :
    s.resumePull task id ⟨.datagram, 0⟩ wake =
      (s.setReceiver fun r => { r with waiting := false }, .finished .cancelled) := by
  obtain ⟨receive, under, found, stands⟩ := h.underWay current
  exact Session.resumePull_cancelled .datagram found (by rw [isInterrupted, cancelled]; rfl)

/-- It is made again while it has patience. -/
theorem resumePull_patient (h : Desk capacity s e r) {id : ReceiveId}
    (current : s.view.current = some id) {wake : Wake} (cancelled : wake.isCancelled = true)
    (task : TaskId) (left : Nat) :
    s.resumePull task id ⟨.datagram, left + 1⟩ wake =
      (s.setReceiver fun r => { r with waiting := false }).pull task ⟨.datagram, left⟩ := by
  obtain ⟨receive, under, found, stands⟩ := h.underWay current
  exact Session.resumePull_patient .datagram left found (by rw [isInterrupted, cancelled]; rfl)

/-- A pull that was told of the end of its operation takes what it has brought. -/
theorem resumePull_due (h : Desk capacity s e r) {id : ReceiveId}
    (current : s.view.current = some id) (done : s.view.done = true) (task : TaskId)
    (patience : Nat) :
    ∃ t outcome, s.resumePull task id ⟨.datagram, patience⟩ .due = (t, .finished outcome) ∧
      (∃ r', Desk capacity t e r') ∧
        Taken (s.setReceiver fun r => { r with waiting := false }) t outcome := by
  obtain ⟨receive, under, found, stands⟩ := h.underWay current
  have waits := h.setWaiting false
  have finished : receive.isFinished = true := by
    rw [view_eq h.receiver under found] at done
    exact done
  have calm : (s.setReceiver fun r => { r with waiting := false }).isInterrupted task receive .due =
      false := by
    rw [isInterrupted, not_isCancelled stands]
    rfl
  obtain ⟨t, outcome, collected, desk, taken⟩ :=
    waits.collect under found finished task patience
  exact ⟨t, outcome, (resumePull_calm _ found calm).trans collected, desk, taken⟩

end Desk

end Osc.Session
