import Osc.Proofs.Turns

/-!
What a change does, seen by one task, by the receiver and by one operation. The status of a task
passes to another by a cancellation, in a turn of the task, or by what it does while it runs; the
receiver starts an operation only for a task that runs while the socket is open; and an operation
that is over or was asked to stop stays so.
-/

namespace Osc

def TaskStatus.isRunning : TaskStatus → Bool
  | .running _ => true
  | _ => false

def Wait.isClosing : Wait → Bool
  | .closing .. => true
  | _ => false

/-- A task that waits to close the socket, or that was just told to go on with it. -/
def TaskStatus.isClosing : TaskStatus → Bool
  | .blocked wait | .woken wait _ => wait.isClosing
  | _ => false

def Wait.pulled? : Wait → Option ReceiveId
  | .pulling receive _ => some receive
  | _ => none

/-- The operation that a task waits for to pull what it brings. -/
def TaskStatus.pulled? : TaskStatus → Option ReceiveId
  | .blocked wait | .woken wait _ => wait.pulled?
  | _ => none

/-- An operation that ends without an arrival, if it is not over. -/
def Receive.isSettled (r : Receive) : Bool := r.isFinished || r.status.isAsked

theorem Receive.isFinished_eq_false {r : Receive} (h : ∀ outcome, r.status ≠ .finished outcome) :
    r.isFinished = false := by
  obtain ⟨buffer, status, watchers⟩ := r
  cases status with
  | finished outcome => exact absurd rfl (h outcome)
  | _ => rfl

/-- How an operation goes on: one that is over stays as it ended, one that was asked to stop stays
asked, and the buffer stays the same. -/
structure Receive.GoesOn (old new : Receive) : Prop where
  buffer : new.buffer = old.buffer
  ended : old.isFinished = true → new.status = old.status
  asked : old.status.isAsked = true → new.status.isAsked = true

namespace Receive.GoesOn

variable {old new : Receive}

theorem status (status : new.status = old.status) (buffer : new.buffer = old.buffer) :
    old.GoesOn new := ⟨buffer, fun _ => status, by rw [status]; exact id⟩

theorem refl (r : Receive) : r.GoesOn r := status rfl rfl

/-- An operation that is not over. -/
theorem running (running : old.isFinished = false) (buffer : new.buffer = old.buffer)
    (asked : old.status.isAsked = true → new.status.isAsked = true) : old.GoesOn new := by
  refine ⟨buffer, fun finished => ?_, asked⟩
  rw [running] at finished
  cases finished

theorem finished (h : old.GoesOn new) (finished : old.isFinished = true) :
    new.isFinished = true := by
  rw [isFinished, outcome?, h.ended finished]
  exact finished

theorem settled (h : old.GoesOn new) (settled : old.isSettled = true) : new.isSettled = true := by
  rcases Bool.or_eq_true_iff.mp settled with finished | asked
  · exact Bool.or_eq_true_iff.mpr (.inl (h.finished finished))
  · exact Bool.or_eq_true_iff.mpr (.inr (h.asked asked))

theorem trans {newer : Receive} (first : old.GoesOn new) (second : new.GoesOn newer) :
    old.GoesOn newer where
  buffer := second.buffer.trans first.buffer
  ended finished := (second.ended (first.finished finished)).trans (first.ended finished)
  asked := second.asked ∘ first.asked

end Receive.GoesOn

/-- What others do to a task that does not run. -/
inductive Nudge : TaskStatus → TaskStatus → Prop where
  | same (status : TaskStatus) : Nudge status status
  | dooms (action : Action) (cancelled : Bool) :
      Nudge (.queued action cancelled) (.queued action true)
  | wakes (wait : Wait) (unclosing : wait.isClosing = false) :
      Nudge (.blocked wait) (.woken wait .cancelled)
  | marks (wait : Wait) (wake : Wake) : Nudge (.woken wait wake) (.woken wait wake.cancel)
  | urges (receive : ReceiveId) (cancelled : Bool) (outcome : Outcome) :
      Nudge (.blocked (.closing receive cancelled outcome))
        (.blocked (.closing receive true outcome))
  | tells (wait : Wait) : Nudge (.blocked wait) (.woken wait .due)

namespace Session

variable {given : Option Turn} {s t : Session} {id : TaskId}

section Idle

theorem IsIdle.keep (h : s.IsIdle) (receiver : t.receiver = s.receiver) : t.IsIdle := by
  intro r found
  exact h r (receiver ▸ found)

theorem isIdle_setState (s : Session) (spare : Option BufferId) :
    (s.setReceiver fun r => { r with state := .idle spare }).IsIdle := by
  intro r found
  obtain ⟨before, -, rfl⟩ := Option.map_eq_some_iff.mp found
  exact ⟨spare, rfl⟩

theorem any_setState (s : Session) (state : ReceiverState) :
    (s.setReceiver fun r => { r with state := state }).receiver.any Receiver.waiting =
      s.receiver.any Receiver.waiting := by
  rw [setReceiver]
  cases s.receiver <;> rfl

/-- Stopping the receiver does not change whether a task is said to wait. -/
theorem any_cancelReceive (s : Session) (receive : ReceiveId) :
    ((s.cancelReceive receive).setReceiver
      fun r => { r with state := .idle none }).receiver.any Receiver.waiting =
      s.receiver.any Receiver.waiting := by
  rw [any_setState, (aside_cancelReceive s receive).receiver]

theorem any_relieve (s : Session) (id : TaskId) :
    (s.relieve id).receiver.any Receiver.waiting = false := by
  have same : (s.setStatus id (.running false)).receiver = s.receiver := rfl
  rw [relieve, setReceiver, same]
  cases s.receiver <;> rfl

end Idle

section Passing

/-- How the status of a task may change in a change to another session: by a cancellation, in a
turn of the task, or by what it does while it runs. A receiver does not wait for a task that has
left its pull. -/
inductive Passage (given : Option Turn) (s t : Session) (id : TaskId) :
    TaskStatus → TaskStatus → Prop where
  | same (status : TaskStatus) : Passage given s t id status status
  | dooms (action : Action) (cancelled : Bool) :
      Passage given s t id (.queued action cancelled) (.queued action true)
  | wakes (wait : Wait) (unclosing : wait.isClosing = false) :
      Passage given s t id (.blocked wait) (.woken wait .cancelled)
  | marks (wait : Wait) (wake : Wake) :
      Passage given s t id (.woken wait wake) (.woken wait wake.cancel)
  | urges (receive : ReceiveId) (cancelled : Bool) (outcome : Outcome) :
      Passage given s t id (.blocked (.closing receive cancelled outcome))
        (.blocked (.closing receive true outcome))
  | tells (signal : given = some (.signal id)) (told : .signal id ∈ s.ready) (wait : Wait) :
      Passage given s t id (.blocked wait) (.woken wait .due)
  | resumes (turn : given = some (.resume id)) {old : TaskStatus} (awake : old.isAwake = true)
      (left : old.pulled? = none ∨ t.receiver.any Receiver.waiting = false) :
      Passage given s t id old (.running false)
  | ends (turn : given = some (.resume id)) {old : TaskStatus} (awake : old.isAwake = true)
      (left : old.pulled? = none ∨ t.receiver.any Receiver.waiting = false) (outcome : Outcome) :
      Passage given s t id old (.finished outcome)
  | goes (cancelled : Bool) (new : TaskStatus) (unpulled : new.pulled? = none)
      (unclosing : new.isClosing = false) : Passage given s t id (.running cancelled) new
  | joins {receive : ReceiveId} (pull : Pull) (free : s.Admits) {r : Receiver}
      (receiver : t.receiver = some r) (waits : r.waiting = true)
      (current : r.state = .receiving receive) :
      Passage given s t id (.running false) (.blocked (.pulling receive pull))
  | closes (receive : ReceiveId) (outcome : Outcome) (idle : t.IsIdle) :
      Passage given s t id (.running false) (.blocked (.closing receive false outcome))

/-- Each task of a session has passed from what it was in another, or was started since. -/
structure Passes (given : Option Turn) (s t : Session) : Prop where
  length : s.statuses.length ≤ t.statuses.length
  status : ∀ (id : TaskId) (new : TaskStatus), t.statuses[id]? = some new →
    (s.statuses[id]? = none ∧ ∃ action, new = .queued action false) ∨
      ∃ old, s.statuses[id]? = some old ∧ Passage given s t id old new

theorem Passes.same (statuses : t.statuses = s.statuses) : Passes given s t := by
  refine ⟨statuses ▸ Nat.le_refl _, fun id new now => ?_⟩
  rw [statuses] at now
  exact .inr ⟨new, now, .same new⟩

theorem Passes.set {old new : TaskStatus} (found : s.statuses[id]? = some old)
    (statuses : t.statuses = s.statuses.set id new) (passage : Passage given s t id old new) :
    Passes given s t := by
  refine ⟨by rw [statuses, List.length_set], fun i status now => ?_⟩
  rw [statuses] at now
  rcases (getElem?_set_eq_some found).mp now with ⟨rfl, rfl⟩ | ⟨-, still⟩
  · exact .inr ⟨old, found, passage⟩
  · exact .inr ⟨status, still, .same status⟩

theorem Takes.statuses {turn : Turn} (took : Takes given s turn t) : t.statuses = s.statuses := by
  cases took
  rfl

theorem Takes.turn_eq {turn : Turn} (took : Takes given s turn t) : given = some turn := by
  cases took
  rfl

/-- The queue before and after a turn is taken. -/
theorem Takes.perm {turn : Turn} (took : Takes given s turn t) :
    (turn :: t.ready).Perm s.ready := by
  cases took with
  | intro found =>
    obtain ⟨inside, rfl⟩ := List.getElem?_eq_some_iff.mp found
    exact List.getElem_cons_eraseIdx_perm inside

theorem Takes.mem {turn : Turn} (took : Takes given s turn t) : turn ∈ s.ready :=
  took.perm.mem_iff.mp List.mem_cons_self

/-- A turn that is taken is still in the queue, or it was the one. -/
theorem Takes.ready {turn other : Turn} (took : Takes given s turn t) (member : other ∈ s.ready) :
    other = turn ∨ other ∈ t.ready :=
  List.mem_cons.mp (took.perm.mem_iff.mpr member)

/-- The status of a task in its turn. -/
theorem Passes.took {turn : Turn} {v : Session} (took : Takes given s turn v)
    {old new : TaskStatus} (found : s.statuses[id]? = some old)
    (statuses : t.statuses = v.statuses.set id new) (passage : Passage given s t id old new) :
    Passes given s t := .set found (took.statuses ▸ statuses) passage

theorem Change.passes (change : Change given s t) (fit : s.Fit) : Passes given s t := by
  have stopped (receive : ReceiveId) :
      ((s.cancelReceive receive).setReceiver fun r => { r with state := .idle none }).statuses =
        s.statuses := statuses_eq (aside_cancelReceive s receive).tasks
  cases change with
  | inert same => exact .same (statuses_eq same.tasks)
  | @spawn name action call =>
    have statuses : (s.spawn name action).statuses = s.statuses ++ [.queued action false] :=
      List.map_append
    refine ⟨by rw [statuses, List.length_append]; exact Nat.le_add_right .., fun id new now => ?_⟩
    rw [statuses] at now
    rcases getElem?_concat_eq_some.mp now with old | ⟨rfl, rfl⟩
    · exact .inr ⟨new, old, .same new⟩
    · exact .inl ⟨List.getElem?_eq_none (Nat.le_refl _), action, rfl⟩
  | spend took stale => exact .same took.statuses
  | tell took blocked =>
    exact .took took blocked (statuses_setStatus _ _ _) (.tells took.turn_eq took.mem _)
  | drop took queued =>
    exact .took took queued (statuses_finish _ _ _) (.ends took.turn_eq rfl (.inl rfl) _)
  | start took queued =>
    exact .took took queued (statuses_setStatus _ _ _) (.resumes took.turn_eq rfl (.inl rfl))
  | @goOn _ id wait wake took woken other =>
    have apart : (TaskStatus.woken wait wake).pulled? = none := by
      cases wait with
      | pulling receive pull => exact absurd rfl (other receive pull)
      | _ => rfl
    exact .took took woken (statuses_setStatus _ _ _) (.resumes took.turn_eq rfl (.inl apart))
  | @leave v id receive pull wake took woken =>
    have left := v.any_relieve id
    exact .took took woken (statuses_setStatus _ _ _) (.resumes took.turn_eq rfl (.inr left))
  | @gain v id receive pull found took woken there brought =>
    have left : ((v.relieve id).setReceiver
        fun r => { r with state := .idle found.spare? }).receiver.any Receiver.waiting = false :=
      (any_setState _ _).trans (v.any_relieve id)
    exact .took took woken (statuses_setStatus _ _ _) (.resumes took.turn_eq rfl (.inr left))
  | @lose v id receive pull found took woken there brought =>
    have left : ((v.relieve id).finish id
        (s.pullCancelled id pull)).receiver.any Receiver.waiting = false := v.any_relieve id
    refine .took took woken ?_ (.ends took.turn_eq rfl (.inr left) (s.pullCancelled id pull))
    have relieved : (v.relieve id).statuses = v.statuses.set id (.running false) :=
      statuses_setStatus v id _
    rw [statuses_finish, relieved, List.set_set]
  | collect runs free receiver current there brought => exact .same rfl
  | receive runs free receiver idle provided => exact .same rfl
  | @join id r receive pull runs free receiver current =>
    let said := s.setReceiver fun r => { r with waiting := true }
    have told : said.receiver = some { r with waiting := true } := by
      simp only [said, setReceiver, receiver, Option.map_some]
    have watched := (aside_watch said receive id).receiver.trans told
    refine .set runs ?_ (.joins pull free watched rfl current)
    rw [statuses_setStatus, statuses_eq (aside_watch _ _ _).tasks]
    rfl
  | stop closed handle receiver current =>
    exact .same (stopped _)
  | halt runs other receiver current =>
    refine .set runs ?_ (.goes false (.finished (.value (.receiveCancelled true))) rfl rfl)
    rw [statuses_finish, stopped]
  | @close id r receive outcome runs plain there isOpen receiver current =>
    refine .set runs ?_ (.closes receive outcome ?_)
    · rw [statuses_setStatus, statuses_eq (aside_watch _ _ _).tasks, stopped]
    · have idle := isIdle_setState (s.cancelReceive receive) none
      exact IsIdle.keep idle (aside_watch _ receive id).receiver
  | release there isOpen counted settled => exact .same (statuses_eq (s.tasks_releaseHandle _))
  | clone there isOpen counted name => exact .same rfl
  | overdrawn there isOpen counted => exact (fit.not_overdrawn there isOpen counted).elim
  | block runs fits =>
    obtain ⟨e, up⟩ := fit.up
    rw [awaitWritable_up up]
    exact .set runs (statuses_setStatus _ _ _) (.goes _ _ rfl rfl)
  | writable up watched => exact .same rfl
  | shut other => exact .same (statuses_eq s.tasks_closeEndpoint)
  | waken up first => exact .same rfl
  | @wait id found there looks =>
    obtain ⟨e, up⟩ := fit.up
    have here : (s.setReceive id .waiting).link = .up e := up
    rw [setInbox_onto here]
    exact .same rfl
  | conclude there turn asked => exact .same rfl
  | ask id => exact .same (s.statuses_asked id)
  | markQueued queued asked => exact .set queued (statuses_setStatus _ _ _) (.dooms _ _)
  | markRunning runs asked => exact .set runs (statuses_setStatus _ _ _) (.goes _ _ rfl rfl)
  | markWoken woken asked => exact .set woken (statuses_setStatus _ _ _) (.marks _ _)
  | unpull blocked asked => exact .set blocked (statuses_setStatus _ _ _) (.wakes _ rfl)
  | unwrite up blocked asked => exact .set blocked (statuses_setStatus _ _ _) (.wakes _ rfl)
  | urge blocked asked =>
    refine .set blocked ?_ (.urges _ _ _)
    rw [statuses_setStatus, statuses_eq (aside_cancelReceive s _).tasks]
  | finish runs calm stops => exact .set runs (statuses_finish _ _ _) (.goes _ _ rfl rfl)

/-- No task is lost. -/
theorem Passes.passage (passes : Passes given s t) {old : TaskStatus}
    (before : s.statuses[id]? = some old) :
    ∃ new, t.statuses[id]? = some new ∧ Passage given s t id old new := by
  obtain ⟨there, -⟩ := List.getElem?_eq_some_iff.mp before
  have now := List.getElem?_eq_getElem (there.trans_le passes.length)
  rcases passes.status id _ now with ⟨none, -⟩ | ⟨old', before', passage⟩
  · cases none.symm.trans before
  · cases before.symm.trans before'
    exact ⟨_, now, passage⟩

/-- Outcomes stay. -/
theorem Passes.finished (passes : Passes given s t) {outcome : Outcome}
    (ended : s.statuses[id]? = some (.finished outcome)) :
    t.statuses[id]? = some (.finished outcome) := by
  obtain ⟨new, now, passage⟩ := passes.passage ended
  cases passage with
  | same => exact now
  | resumes turn awake => cases awake
  | ends turn awake => cases awake

theorem Passage.nudge {old new : TaskStatus} (passage : Passage given s t id old new)
    (other : given ≠ some (.resume id)) (rests : old.isRunning = false) : Nudge old new := by
  cases passage with
  | same => exact .same _
  | dooms action cancelled => exact .dooms action cancelled
  | wakes wait unclosing => exact .wakes wait unclosing
  | marks wait wake => exact .marks wait wake
  | urges receive cancelled outcome => exact .urges receive cancelled outcome
  | tells signal told wait => exact .tells wait
  | resumes turn | ends turn => exact absurd turn other
  | goes | joins | closes => cases rests

/-- What is true of a task whatever others do stays true when another is given a turn. -/
theorem choose_other {P : TaskStatus → Prop}
    (rests : ∀ status, P status → status.isRunning = false)
    (nudged : ∀ old new, Nudge old new → P old → P new)
    (fit : s.Fit) {choice : Choice} (calls : Calls s.layer [choice])
    (other : s.given? choice ≠ some (.resume id)) {status : TaskStatus}
    (found : s.statuses[id]? = some status) (h : P status) :
    ∃ status, (s.choose choice).statuses[id]? = some status ∧ P status := by
  have kept (given : Option Turn) (u v : Session) (same : given = none ∨ given = s.given? choice)
      (change : Change given u v) (fit : u.Fit)
      (h : ∃ status, u.statuses[id]? = some status ∧ P status) :
      ∃ status, v.statuses[id]? = some status ∧ P status := by
    obtain ⟨old, before, h⟩ := h
    obtain ⟨new, now, passage⟩ := (change.passes fit).passage before
    refine ⟨new, now, nudged old new (passage.nudge ?_ (rests old h)) h⟩
    rcases same with rfl | rfl
    · rintro ⟨⟩
    · exact other
  exact ((choose_course fit calls).keep fit kept ⟨status, found, h⟩).2

/-- What each choice keeps of a task, a whole schedule keeps. -/
theorem schedule_status {I : Session → Prop} {P : Session → TaskStatus → Prop}
    {layer : Layer}
    (step : ∀ (u : Session) (choice : Choice) (status : TaskStatus), I u →
      Calls layer [choice] → u.statuses[id]? = some status → P u status →
        I (u.choose choice) ∧
          ∃ status, (u.choose choice).statuses[id]? = some status ∧ P (u.choose choice) status)
    {choices : List Choice} (inv : I s) (calls : Calls layer choices) {status : TaskStatus}
    (found : s.statuses[id]? = some status) (holds : P s status) :
    ∃ status, (s.schedule choices).statuses[id]? = some status ∧
      P (s.schedule choices) status := by
  induction choices generalizing s status with
  | nil => exact ⟨status, found, holds⟩
  | cons choice rest ih =>
    obtain ⟨first, later⟩ := calls.head
    obtain ⟨inv, status, found, holds⟩ := step s choice status inv first found holds
    exact ih inv later found holds

end Passing

section Shifting

theorem isIdle_setWaiting (h : s.IsIdle) (waiting : Bool) :
    (s.setReceiver fun r => { r with waiting := waiting }).IsIdle := by
  intro r found
  obtain ⟨before, there, rfl⟩ := Option.map_eq_some_iff.mp found
  exact h before there

/-- A task that runs starts an operation; the socket is open. -/
structure Starts (s t : Session) : Prop where
  length : t.receives.length = s.receives.length + 1
  runs : ∃ (id : TaskId) (cancelled : Bool), s.statuses[id]? = some (.running cancelled)
  isOpen : s.isHandleClosed socketHandle = false

/-- What a change does to the receiver and the handle of a socket. -/
structure Shift (s t : Session) : Prop where
  length : t.receives.length = s.receives.length ∨ s.Starts t
  idle : s.IsIdle → t.IsIdle ∨ s.Starts t
  closed : s.isHandleClosed socketHandle = true → t.isHandleClosed socketHandle = true
  closes : t.isHandleClosed socketHandle = true → s.isHandleClosed socketHandle = true ∨
    t.IsIdle ∨ ∃ (id : TaskId) (receive : ReceiveId) (outcome : Outcome),
      s.statuses[id]? = some (.woken (.closing receive false outcome) .due)

namespace Shift

/-- A receiver that was idle is idle. -/
theorem rests (handles : t.handles = s.handles) (length : t.receives.length = s.receives.length)
    (idle : s.IsIdle → t.IsIdle) : Shift s t := by
  have same : t.isHandleClosed socketHandle = s.isHandleClosed socketHandle := by
    rw [isHandleClosed, isHandleClosed, handles]
  constructor
  case length => exact .inl length
  case idle => exact fun h => .inl (idle h)
  case closed => exact fun closed => same.trans closed
  case closes => exact fun closed => .inl (same.symm.trans closed)

theorem quiet (receiver : t.receiver = s.receiver) (handles : t.handles = s.handles)
    (length : t.receives.length = s.receives.length) : Shift s t :=
  .rests handles length fun h => h.keep receiver

end Shift

/-- An operation that is asked to stop is over, or is asked from then on. -/
theorem receives_cancelReceive (s : Session) (receive : ReceiveId) :
    ((s.cancelReceive receive).receives = s.receives ∧
      ∀ found, s.receives[receive]? = some found → found.isFinished = true) ∨
    ∃ (found : Receive) (status : ReceiveStatus), s.receives[receive]? = some found ∧
      found.isFinished = false ∧ status.isAsked = true ∧
      (s.cancelReceive receive).receives =
        s.receives.modify receive fun r => { r with status := status } := by
  rcases s.cancelReceive_cases receive with ⟨same, finished⟩ | ⟨found, there, how⟩
  · rw [same]
    exact .inl ⟨rfl, finished⟩
  · right
    obtain ⟨buffer, status, watchers⟩ := found
    rcases how with ⟨cancelled, rfl, same⟩ | ⟨rfl, same⟩ | ⟨wake, rfl, same⟩
    · rw [same]
      exact ⟨_, .queued true, there, rfl, rfl, rfl⟩
    · rw [same]
      refine ⟨_, .woken .cancelled, there, rfl, rfl, ?_⟩
      have left (inbox : Inbox) : (s.setInbox inbox).receives = s.receives := by
        unfold setInbox mapNetwork
        split <;> rfl
      exact congrArg (·.modify receive fun r => { r with status := .woken .cancelled }) (left _)
    · rw [same]
      exact ⟨_, .woken wake.cancel, there, rfl, by cases wake <;> rfl, rfl⟩

theorem length_cancelReceive (s : Session) (receive : ReceiveId) :
    (s.cancelReceive receive).receives.length = s.receives.length := by
  rcases s.receives_cancelReceive receive with ⟨same, -⟩ | ⟨found, status, -, -, -, same⟩
  · rw [same]
  · rw [same]
    exact List.length_modify ..

theorem length_watch (s : Session) (receive : ReceiveId) (id : TaskId) :
    (s.watch receive id).receives.length = s.receives.length := by
  rcases s.watch_cases receive id with ⟨same, -⟩ | ⟨same, -⟩
  · rw [same]
    rfl
  · rw [same]
    exact List.length_modify ..

/-- Giving back a reference does nothing to the receiver. -/
theorem aside_releaseHandle (fit : s.Fit) {handle : HandleId}
    (isOpen : s.isHandleClosed handle = false) (counted : s.references.getD 0 ≠ 0) :
    let t := (s.releaseHandle handle).1
    t.receiver = s.receiver ∧ t.receives = s.receives ∧
      t.handles = s.handles.modify handle fun h => { h with closed := true } := by
  obtain ⟨e, up⟩ := fit.up
  rcases releaseHandle_cases up isOpen counted with ⟨-, same⟩ | ⟨-, same⟩
  · rw [same]
    exact ⟨rfl, rfl, rfl⟩
  · rw [same]
    exact ⟨rfl, rfl, rfl⟩

theorem Change.shift (change : Change given s t) (fit : s.Fit) (socket : s.layer = .socket) :
    Shift s t := by
  obtain ⟨e, up⟩ := fit.up
  cases change with
  | inert same => exact .quiet same.receiver same.handles (by rw [same.receives])
  | spawn name call => exact .quiet rfl rfl rfl
  | spend took stale => cases took; exact .quiet rfl rfl rfl
  | tell took blocked => cases took; exact .quiet rfl rfl rfl
  | drop took queued => cases took; exact .quiet rfl rfl rfl
  | start took queued => cases took; exact .quiet rfl rfl rfl
  | goOn took woken other => cases took; exact .quiet rfl rfl rfl
  | leave took woken =>
    cases took
    exact .rests rfl rfl fun h => isIdle_setWaiting h false
  | gain took woken there brought =>
    cases took
    exact .rests rfl rfl fun _ => isIdle_setState _ _
  | lose took woken there brought =>
    cases took
    exact .rests rfl rfl fun h => isIdle_setWaiting h false
  | collect runs free receiver current there brought =>
    exact .rests rfl rfl fun _ => isIdle_setState _ _
  | @receive id r runs free receiver spare idle buffer buffers provided =>
    have isOpen : s.isHandleClosed socketHandle = false := by simpa [socket] using free.handle
    have starts {t : Session} (receives : t.receives = s.receives ++ [Receive.start buffer]) :
        s.Starts t := ⟨by rw [receives, List.length_append]; rfl, ⟨_, _, runs⟩, isOpen⟩
    exact ⟨.inr (starts rfl), fun _ => .inr (starts rfl), fun closed => closed, .inl⟩
  | @join id r receive pull runs free receiver current =>
    let said := s.setReceiver fun r => { r with waiting := true }
    have aside := aside_watch said receive id
    exact .rests aside.handles (said.length_watch receive id) fun h =>
      (isIdle_setWaiting h true).keep aside.receiver
  | @stop r receive closed handle receiver current =>
    exact .rests (aside_cancelReceive s receive).handles (s.length_cancelReceive receive) fun _ =>
      isIdle_setState _ none
  | halt runs other receiver current => exact absurd socket other
  | @close id r receive outcome runs plain there isOpen receiver current =>
    let stopped := (s.cancelReceive receive).setReceiver fun r => { r with state := .idle none }
    have aside := aside_watch stopped receive id
    have handles := aside.handles.trans (aside_cancelReceive s receive).handles
    have length := (stopped.length_watch receive id).trans (s.length_cancelReceive receive)
    exact .rests handles length fun _ => (isIdle_setState _ none).keep aside.receiver
  | @release handle there isOpen counted settled =>
    obtain ⟨receiver, receives, handles⟩ := aside_releaseHandle fit isOpen counted
    constructor
    case length => exact .inl (congrArg List.length receives)
    case idle => exact fun h => .inl (h.keep receiver)
    case closed =>
      intro closed
      by_cases same : handle = socketHandle
      · rw [← same, isOpen] at closed
        cases closed
      · rw [isHandleClosed, handles, List.getElem?_modify_ne _ _ same]
        exact closed
    case closes =>
      intro closed
      by_cases same : handle = socketHandle
      · rcases settled same with idle | waited
        · exact .inr (.inl (idle.keep receiver))
        · exact .inr (.inr waited)
      · rw [isHandleClosed, handles, List.getElem?_modify_ne _ _ same] at closed
        exact .inl closed
  | clone there isOpen counted name =>
    have same : (s.handles ++ [⟨name, false⟩])[socketHandle]? = s.handles[socketHandle]? :=
      List.getElem?_append_left (fit.socket socket)
    refine ⟨.inl rfl, fun h => .inl h, ?_, ?_⟩
    · rw [isHandleClosed, isHandleClosed, same]
      exact fun closed => closed
    · rw [isHandleClosed, isHandleClosed, same]
      exact .inl
  | overdrawn there isOpen counted => exact (fit.not_overdrawn there isOpen counted).elim
  | block runs fits =>
    rw [awaitWritable_up up]
    exact .quiet rfl rfl rfl
  | shut other => exact absurd socket other
  | @wait id found there looks =>
    have here : (s.setReceive id .waiting).link = .up e := up
    rw [setInbox_onto here]
    exact .quiet rfl rfl (List.length_modify ..)
  | waken up first => exact .quiet rfl rfl (List.length_modify ..)
  | conclude there turn asked => exact .quiet rfl rfl (List.length_modify ..)
  | unpull blocked asked => exact .quiet rfl rfl (List.length_modify ..)
  | urge blocked asked =>
    have aside := aside_cancelReceive s
    exact .quiet (aside _).receiver (aside _).handles (s.length_cancelReceive _)
  | _ => exact .quiet rfl rfl rfl

end Shifting

section Operations

/-- Each operation goes on. -/
def Onward (before after : List Receive) : Prop :=
  ∀ (id : ReceiveId) (old : Receive), before[id]? = some old → ∃ new, after[id]? = some new ∧
    old.GoesOn new

namespace Onward

variable {before after : List Receive}

theorem refl (receives : List Receive) : Onward receives receives :=
  fun _ old there => ⟨old, there, .refl old⟩

theorem same (receives : after = before) : Onward before after := receives ▸ refl before

theorem modify (receives : List Receive) (id : ReceiveId) {f : Receive → Receive}
    (kept : ∀ old, receives[id]? = some old → old.GoesOn (f old)) :
    Onward receives (receives.modify id f) := by
  intro i old there
  by_cases same : id = i
  · subst same
    exact ⟨f old, by simp [there], kept old there⟩
  · exact ⟨old, by simp [same, there], .refl old⟩

theorem trans {middle : List Receive} (first : Onward before middle)
    (second : Onward middle after) : Onward before after := by
  intro id old there
  obtain ⟨new, there, goes⟩ := first id old there
  obtain ⟨newer, there, goes'⟩ := second id new there
  exact ⟨newer, there, goes.trans goes'⟩

theorem append (receives : List Receive) (r : Receive) : Onward receives (receives ++ [r]) :=
  fun _ old there => ⟨old, getElem?_concat_eq_some.mpr (.inl there), .refl old⟩

end Onward

theorem onward_watch (s : Session) (receive : ReceiveId) (id : TaskId) :
    Onward s.receives (s.watch receive id).receives := by
  rcases s.watch_cases receive id with ⟨same, -⟩ | ⟨same, -⟩
  · rw [same]
    exact .refl _
  · rw [same]
    exact .modify _ _ fun old _ => .status rfl rfl

theorem onward_cancelReceive (s : Session) (receive : ReceiveId) :
    Onward s.receives (s.cancelReceive receive).receives := by
  rcases s.receives_cancelReceive receive with
    ⟨same, -⟩ | ⟨found, status, there, running, asked, same⟩
  · exact .same same
  · rw [same]
    refine .modify _ _ fun old there' => ?_
    cases there.symm.trans there'
    exact .running running rfl fun _ => asked

/-- An operation that is asked to stop is settled. -/
theorem settled_cancelReceive (s : Session) (receive : ReceiveId) {new : Receive}
    (there : (s.cancelReceive receive).receives[receive]? = some new) : new.isSettled = true := by
  rcases s.receives_cancelReceive receive with
    ⟨same, finished⟩ | ⟨found, status, here, -, asked, same⟩
  · rw [same] at there
    rw [Receive.isSettled, finished new there]
    rfl
  · rw [same, List.getElem?_modify_eq, here] at there
    cases there
    rw [Receive.isSettled, asked, Bool.or_true]

theorem Change.onward (change : Change given s t) (fit : s.Fit) :
    Onward s.receives t.receives := by
  obtain ⟨e, up⟩ := fit.up
  cases change with
  | inert same => exact .same same.receives
  | overdrawn there isOpen counted => exact (fit.not_overdrawn there isOpen counted).elim
  | spend took stale => cases took; exact .refl _
  | tell took blocked => cases took; exact .refl _
  | drop took queued => cases took; exact .refl _
  | start took queued => cases took; exact .refl _
  | goOn took woken other => cases took; exact .refl _
  | leave took woken => cases took; exact .refl _
  | gain took woken there brought => cases took; exact .refl _
  | lose took woken there brought => cases took; exact .refl _
  | receive runs free receiver idle provided => exact .append _ _
  | @join id r receive pull runs free receiver current =>
    exact onward_watch (s.setReceiver fun r => { r with waiting := true }) receive id
  | stop closed handle receiver current => exact s.onward_cancelReceive _
  | halt runs other receiver current => exact s.onward_cancelReceive _
  | @close id r receive outcome runs plain there isOpen receiver current =>
    let stopped := (s.cancelReceive receive).setReceiver fun r => { r with state := .idle none }
    exact (s.onward_cancelReceive receive).trans (stopped.onward_watch receive id)
  | release there isOpen counted settled =>
    exact .same (aside_releaseHandle fit isOpen counted).2.1
  | block runs fits =>
    rw [awaitWritable_up up]
    exact .refl _
  | shut other =>
    rw [closeEndpoint_up up]
    exact .refl _
  | @waken e' id rest up' first =>
    obtain ⟨i, found, same, there, waiting⟩ :=
      (fit.endpoint up').waiting (.receive id) (by simp [first])
    cases same
    refine .modify _ _ fun old there' => ?_
    cases there.symm.trans there'
    refine .running (Receive.isFinished_eq_false (by simp [waiting])) rfl ?_
    rw [waiting]
    nofun
  | @wait id found there looks =>
    have here : (s.setReceive id .waiting).link = .up e := up
    rw [setInbox_onto here]
    refine .modify _ _ fun old there' => ?_
    cases there.symm.trans there'
    rcases looks with looks | looks
    · refine .running (Receive.isFinished_eq_false (by simp [looks])) rfl ?_
      rw [looks]
      nofun
    · refine .running (Receive.isFinished_eq_false (by simp [looks])) rfl ?_
      rw [looks]
      nofun
  | @conclude id found outcome there turn asked =>
    refine .modify _ _ fun old there' => ?_
    cases there.symm.trans there'
    refine .running (Receive.isFinished_eq_false ?_) rfl fun before => ?_
    · rcases turn with ⟨cancelled, queued⟩ | ⟨wake, woken⟩
      · simp [queued]
      · simp [woken]
    · rw [asked.mpr before]
      rfl
  | unpull blocked asked => exact .modify _ _ fun old _ => .status rfl rfl
  | urge blocked asked => exact s.onward_cancelReceive _
  | _ => exact .refl _

end Operations

end Session

end Osc
