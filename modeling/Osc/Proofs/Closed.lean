import Osc.Proofs.Closing
import Osc.Proofs.Returning
import Osc.Proofs.Rousing
import Osc.Session.Report

/-!
A closed socket. No operation is started any more, and pulls that begin later end with nothing in
their first turn. When no operation was started while a call of close waited, then the only
operations that are not over were asked to stop and are waited for by a call that has not returned;
once all calls have returned none is left. Whoever is in a pull ends by turns alone, and without a
datagram if none had arrived for it. An operation that is started while a call waits outlives it.
-/

namespace Osc

namespace Receive

/-- Whether an operation is over with a datagram. -/
def hasArrived (r : Receive) : Bool :=
  match r.status with
  | .finished (.arrived ..) => true
  | _ => false

/-- What an operation has failed with, if it has. -/
def failure? (r : Receive) : Option OsError :=
  match r.status with
  | .finished (.failed error) => some error
  | _ => none

/-- An operation that was asked to stop, or has failed with the error. -/
def IsVain (failure : Option OsError) (r : Receive) : Prop :=
  r.status.isAsked = true ∨ ∃ error, failure = some error ∧ r.status = .finished (.failed error)

theorem GoesOn.isVain {old new : Receive} (goes : old.GoesOn new) {failure : Option OsError}
    (vain : old.IsVain failure) : new.IsVain failure := by
  rcases vain with asked | ⟨error, brought, failed⟩
  · exact .inl (goes.asked asked)
  · have finished : old.isFinished = true := by
      rw [isFinished, outcome?, failed]
      rfl
    exact .inr ⟨error, brought, (goes.ended finished).trans failed⟩

theorem isAsked_of_isSettled {r : Receive} (settled : r.isSettled = true)
    (going : r.isFinished = false) : r.status.isAsked = true :=
  (Bool.or_eq_true_iff.mp settled).resolve_left (Bool.eq_false_iff.mp going)

/-- An operation that is settled has brought a datagram or is in vain. -/
theorem isVain_of_isSettled {r : Receive} (settled : r.isSettled = true)
    (nothing : r.hasArrived = false) : r.IsVain r.failure? := by
  obtain ⟨buffer, status, watchers⟩ := r
  rcases Bool.or_eq_true_iff.mp settled with finished | asked
  · cases status with
    | finished outcome =>
      cases outcome with
      | arrived count peer => cases nothing
      | failed error => exact .inr ⟨error, rfl, rfl⟩
      | cancelled => exact .inl rfl
    | _ => cases finished
  · exact .inl asked

end Receive

/-- The outcome when the stream ends after an item. -/
def ItemUse.last (item : Item) (use : ItemUse) : Outcome :=
  match use.take item with
  | .inl outcome => outcome
  | .inr more => more.stopped

/-- The outcome when the stream ends after a failure to receive. -/
def PullUse.failed (error : OsError) : PullUse → Outcome
  | .datagram => .fault (.transport (.receive error))
  | .stream use => use.last (.receiveFailed (.receive error))

/-- Ends of a pull that gets no datagram: the end of the stream, which may come after the failure
of an operation, or a cancellation. -/
inductive PullUse.EndsEmpty (use : PullUse) (failure : Option OsError) : Outcome → Prop where
  | stopped : EndsEmpty use failure use.stopped
  | failed {error : OsError} (brought : failure = some error) :
      EndsEmpty use failure (use.failed error)
  | cancelled : EndsEmpty use failure .cancelled

namespace Session

variable {given : Option Turn} {s t u : Session} {id : TaskId}

section Shut

/-- From the closing of a socket on no operation is started, and what has stopped stays so. -/
structure Since (s t : Session) : Prop where
  closed : t.isHandleClosed socketHandle = true
  length : t.receives.length = s.receives.length
  onward : Onward s.receives t.receives
  idle : s.IsIdle → t.IsIdle

theorem Change.since (change : Change given t u) (fit : t.Fit) (socket : t.layer = .socket)
    (h : Since s t) : Since s u := by
  have shift := change.shift fit socket
  refine ⟨shift.closed h.closed, ?_, h.onward.trans (change.onward fit),
    fun idle => shift.shut (h.idle idle) h.closed⟩
  rcases shift.length with length | starts
  · exact length.trans h.length
  · cases starts.isOpen.symm.trans h.closed

/-- An operation after the closing was there before. -/
theorem Since.before (h : Since s t) {i : ReceiveId} {new : Receive}
    (there : t.receives[i]? = some new) : ∃ old, s.receives[i]? = some old ∧ old.GoesOn new :=
  h.onward.before h.length there

/-- Operations that were settled when the socket was closed stay so, and there are no others. -/
theorem Since.settled (h : Since s t) (settled : ∀ r ∈ s.receives, r.isSettled = true)
    {r : Receive} (member : r ∈ t.receives) : r.isSettled = true := by
  obtain ⟨i, there⟩ := List.mem_iff_getElem?.mp member
  obtain ⟨old, here, goes⟩ := h.before there
  exact goes.settled (settled old (List.mem_of_getElem? here))

/-- A closed socket in good order, between turns. -/
structure Shut (s : Session) : Prop where
  fit : s.Fit
  managed : s.Managed
  roused : s.Roused none
  closed : s.isHandleClosed socketHandle = true

theorem Shut.schedule {choices : List Choice} (h : s.Shut) (calls : Calls .socket choices) :
    (s.schedule choices).Shut ∧ Since s (s.schedule choices) := by
  have calls : Calls s.layer choices := h.managed.socket ▸ calls
  obtain ⟨fit, managed, since⟩ := schedule_keep (P := fun t => t.Managed ∧ Since s t)
    (fun _ _ _ change fit kept =>
      ⟨change.managed fit kept.1, change.since fit kept.1.socket kept.2⟩)
    h.fit calls ⟨h.managed, h.closed, rfl, .refl _, fun idle => idle⟩
  exact ⟨⟨fit, managed, h.roused.schedule h.fit calls, since.closed⟩, since⟩

end Shut

section LastTurn

/-- What a socket's task pulls for. -/
def use? : Action → Option PullUse
  | .next _ => some (.stream .item)
  | .iterate most _ => some (.stream (.items [] most))
  | .recv _ => some (.stream .packet)
  | _ => none

theorem refusePull_closed (socket : s.layer = .socket)
    (closed : s.isHandleClosed socketHandle = true) (pull : Pull) :
    s.refusePull pull = (s, some pull.use.stopped) := by
  rw [refusePull, socket, closed]
  rfl

/-- A pull of a closed socket ends at once. -/
theorem pull_closed (socket : s.layer = .socket) (closed : s.isHandleClosed socketHandle = true)
    (id : TaskId) (pull : Pull) : s.pull id pull = (s, .finished pull.use.stopped) := by
  rw [Session.pull, refusePull_closed socket closed]

theorem useItem_closed (socket : s.layer = .socket) (closed : s.isHandleClosed socketHandle = true)
    (id : TaskId) (patience : Nat) (use : ItemUse) (item : Item) :
    s.useItem id patience use item = (s, .finished (use.last item)) := by
  rw [useItem, ItemUse.last]
  cases use.take item with
  | inl outcome => rfl
  | inr more =>
    simp only [pullAgain, refusePull_closed socket closed]
    rfl

theorem useDatagram_closed (socket : s.layer = .socket)
    (closed : s.isHandleClosed socketHandle = true) (id : TaskId) (pull : Pull) (r : Receiver)
    (datagram : Datagram) :
    ∃ t outcome, s.useDatagram id pull r datagram = (t, .finished outcome) ∧ t.tasks = s.tasks := by
  obtain ⟨use, patience⟩ := pull
  cases use with
  | datagram => exact ⟨_, _, rfl, rfl⟩
  | stream use =>
    simp only [useDatagram]
    split
    · next item decoded =>
      let warned := { s with
        warnings := s.warnings ++
          (CutWarning.ofDatagram? r.limit s.settings.rejectTruncated.truth datagram).toList }
      have ends := useItem_closed (s := warned) socket closed id patience use item
      exact ⟨warned, _, ends, rfl⟩
    · exact ⟨_, _, rfl, rfl⟩

theorem useFailure_closed (socket : s.layer = .socket)
    (closed : s.isHandleClosed socketHandle = true) (id : TaskId) (pull : Pull) (error : OsError) :
    s.useFailure id pull error = (s, .finished (pull.use.failed error)) := by
  obtain ⟨use, patience⟩ := pull
  cases use with
  | datagram => rfl
  | stream use =>
    exact useItem_closed socket closed id patience use (.receiveFailed (.receive error))

/-- A task that takes what was brought for it ends with that on a closed socket. -/
theorem collect_closed (fit : s.Fit) (socket : s.layer = .socket)
    (closed : s.isHandleClosed socketHandle = true) (id : TaskId) (pull : Pull) (found : Receive) :
    ∃ t outcome, s.collect id pull found = (t, .finished outcome) ∧ t.tasks = s.tasks ∧
      ∀ failure, found.IsVain failure → pull.use.EndsEmpty failure outcome := by
  obtain ⟨r, receiver⟩ := fit.receiver
  have lost (nothing : s.collect id pull found = (s, .finished (s.pullCancelled id pull))) :
      ∃ t outcome, s.collect id pull found = (t, .finished outcome) ∧ t.tasks = s.tasks ∧
        ∀ failure, found.IsVain failure → pull.use.EndsEmpty failure outcome := by
    refine ⟨s, _, nothing, rfl, fun failure _ => ?_⟩
    unfold pullCancelled
    split
    · exact .stopped
    · exact .cancelled
  obtain ⟨buffer, status, watchers⟩ := found
  cases status with
  | finished outcome =>
    cases outcome with
    | arrived count peer =>
      let left := s.setReceiver fun r => { r with state := .idle (some buffer) }
      obtain ⟨t, outcome, ends, tasks⟩ := useDatagram_closed (s := left) socket closed id pull r
        (.ofBuffer r.limit (s.buffer buffer) count peer)
      refine ⟨t, outcome, ?_, tasks, fun failure vain => ?_⟩
      · simp only [collect, receiver]
        exact ends
      · rcases vain with asked | ⟨error, -, failed⟩
        · cases asked
        · cases failed
    | failed error =>
      let left := s.setReceiver fun r => { r with state := .idle none }
      have ends := useFailure_closed (s := left) socket closed id pull error
      refine ⟨left, pull.use.failed error, ?_, rfl, fun failure vain => ?_⟩
      · simp only [collect, receiver]
        exact ends
      · rcases vain with asked | ⟨error', brought, failed⟩
        · cases asked
        · cases failed
          exact .failed brought
    | cancelled => exact lost (by simp only [collect, receiver]; rfl)
  | _ => exact lost (by simp only [collect, receiver]; rfl)

/-- Whoever waited in a pull ends when it goes on, and without a datagram if none has arrived. -/
theorem resumePull_closed (fit : s.Fit) (socket : s.layer = .socket)
    (closed : s.isHandleClosed socketHandle = true) (id : TaskId) (receive : ReceiveId)
    (pull : Pull) (wake : Wake) :
    ∃ t outcome, s.resumePull id receive pull wake = (t, .finished outcome) ∧ t.tasks = s.tasks ∧
      ∀ failure, (∀ r, s.receives[receive]? = some r → r.IsVain failure) →
        pull.use.EndsEmpty failure outcome := by
  have relieved := fit.setReceiver fun r => { r with waiting := false }
  rcases s.resumePull_cases id receive pull wake with given | ⟨left, again⟩ | ⟨r, there, -, goes⟩
  · exact ⟨_, .cancelled, given, rfl, fun _ _ => .cancelled⟩
  · rw [again]
    exact ⟨_, _, pull_closed (s := s.setReceiver _) socket closed id _, rfl, fun _ _ => .stopped⟩
  · obtain ⟨t, outcome, ends, tasks, vain⟩ := collect_closed relieved socket closed id pull r
    exact ⟨t, outcome, goes.trans ends, tasks, fun failure none => vain failure (none r there)⟩

private theorem perform_pull (socket : s.layer = .socket) {action : Action} {use : PullUse}
    (pulls : use? action = some use) (id : TaskId) :
    ∃ patience, s.perform id action = s.pull id ⟨use, patience⟩ := by
  cases action with
  | next patience =>
    cases pulls
    exact ⟨patience, by rw [perform, socket]; rfl⟩
  | iterate most patience =>
    cases pulls
    exact ⟨patience, by rw [perform, socket]; rfl⟩
  | recv patience =>
    cases pulls
    exact ⟨patience, rfl⟩
  | _ => cases pulls

/-- A task that goes on with a pull in its next turn. -/
inductive PullsNext (use : PullUse) : TaskStatus → Prop where
  | queued {action : Action} (pulls : use? action = some use) (cancelled : Bool) :
      PullsNext use (.queued action cancelled)
  | woken (receive : ReceiveId) (patience : Nat) (wake : Wake) :
      PullsNext use (.woken (.pulling receive ⟨use, patience⟩) wake)

/-- That turn is its last, and brings no datagram unless one has arrived for it before. -/
theorem resume_closed (fit : s.Fit) (socket : s.layer = .socket)
    (closed : s.isHandleClosed socketHandle = true) {use : PullUse} {status : TaskStatus}
    (found : s.statuses[id]? = some status) (next : PullsNext use status) :
    ∃ outcome, (s.resume id).statuses[id]? = some (.finished outcome) ∧
      ∀ failure, (∀ receive r, status.pulled? = some receive → s.receives[receive]? = some r →
        r.IsVain failure) → use.EndsEmpty failure outcome := by
  have inside := (List.getElem?_eq_some_iff.mp found).1
  let going := s.setStatus id (.running false)
  have runs : going.statuses[id]? = some (.running false) := statuses_run inside
  rw [resume_eq, found]
  cases next with
  | @queued action pulls cancelled =>
    cases cancelled with
    | true =>
      refine ⟨.cancelled, ?_, fun _ _ => .cancelled⟩
      exact (congrArg (·[id]?) (s.statuses_finish id _)).trans (List.getElem?_set_self inside)
    | false =>
      obtain ⟨e, up⟩ := fit.up
      obtain ⟨patience, performed⟩ := perform_pull (s := going) socket pulls id
      have begun : going.begin id action = (going, .finished use.stopped) := by
        rw [begin_up (s := going) up, performed, pull_closed (s := going) socket closed]
      refine ⟨use.stopped, ?_, fun _ _ => .stopped⟩
      change ((going.begin id action).1.settle id (going.begin id action).2).statuses[id]? = _
      rw [begun]
      exact status_settle runs (.finished use.stopped)
  | woken receive patience wake =>
    have fit : going.Fit := fit.setStatus id (.running false) trivial
    obtain ⟨t, outcome, goesOn, tasks, vain⟩ :=
      resumePull_closed fit socket closed id receive ⟨use, patience⟩ wake
    have still : t.statuses[id]? = some (.running false) := statuses_eq tasks ▸ runs
    refine ⟨outcome, ?_, fun failure none => vain failure fun r there => none receive r rfl there⟩
    change ((going.resumePull id receive ⟨use, patience⟩ wake).1.settle id
      (going.resumePull id receive ⟨use, patience⟩ wake).2).statuses[id]? = _
    rw [goesOn]
    exact status_settle still (.finished outcome)

/-- What is true of a task whatever others do, and after its own turn, stays true. -/
theorem choose_all {P : TaskStatus → Prop}
    (rests : ∀ status, P status → status.isRunning = false)
    (nudged : ∀ old new, Nudge old new → P old → P new) (h : s.Shut) {choice : Choice}
    (calls : Calls .socket [choice])
    (own : ∀ (t : Session) (status : TaskStatus), t.Fit → t.layer = .socket →
      t.isHandleClosed socketHandle = true → t.receives = s.receives →
      t.statuses[id]? = some status → P status →
      ∃ status, (t.resume id).statuses[id]? = some status ∧ P status)
    {status : TaskStatus} (found : s.statuses[id]? = some status) (holds : P status) :
    ∃ status, (s.choose choice).statuses[id]? = some status ∧ P status := by
  by_cases turn : s.given? choice = some (.resume id)
  · cases choice with
    | spawn name action => cases turn
    | turn place =>
      have given : s.choose (.turn place) =
          { s with ready := s.ready.eraseIdx place }.resume id := turnAt_resume turn
      rw [given]
      exact own _ status (h.fit.turns _) h.managed.socket h.closed rfl found holds
  · exact choose_other rests nudged h.fit (h.managed.socket ▸ calls) turn found holds

end LastTurn

section Fruitless

/-- A task that is to pull, or that waits for an operation in vain, or whose pull has ended without
a datagram. -/
inductive Fruitless (receives : List Receive) (use : PullUse) (failure : Option OsError) :
    TaskStatus → Prop where
  | queued {action : Action} (pulls : use? action = some use) (cancelled : Bool) :
      Fruitless receives use failure (.queued action cancelled)
  | blocked {receive : ReceiveId} (patience : Nat)
      (vain : ∀ r, receives[receive]? = some r → r.IsVain failure) :
      Fruitless receives use failure (.blocked (.pulling receive ⟨use, patience⟩))
  | woken {receive : ReceiveId} (patience : Nat) (wake : Wake)
      (vain : ∀ r, receives[receive]? = some r → r.IsVain failure) :
      Fruitless receives use failure (.woken (.pulling receive ⟨use, patience⟩) wake)
  | ended {outcome : Outcome} (empty : use.EndsEmpty failure outcome) :
      Fruitless receives use failure (.finished outcome)

namespace Fruitless

variable {receives : List Receive} {use : PullUse} {failure : Option OsError} {status : TaskStatus}

theorem mono (h : Fruitless s.receives use failure status) (since : Since s t) :
    Fruitless t.receives use failure status := by
  have kept {receive : ReceiveId} (vain : ∀ r, s.receives[receive]? = some r → r.IsVain failure)
      (r : Receive) (there : t.receives[receive]? = some r) : r.IsVain failure := by
    obtain ⟨old, here, goes⟩ := since.before there
    exact goes.isVain (vain old here)
  cases h with
  | queued pulls cancelled => exact .queued pulls cancelled
  | blocked patience vain => exact .blocked patience (kept vain)
  | woken patience wake vain => exact .woken patience wake (kept vain)
  | ended empty => exact .ended empty

theorem rests (h : Fruitless receives use failure status) : status.isRunning = false := by
  cases h <;> rfl

/-- Whatever others do, the task stays so. -/
theorem nudged (h : Fruitless receives use failure status) {new : TaskStatus}
    (nudge : Nudge status new) : Fruitless receives use failure new := by
  cases nudge with
  | same => exact h
  | dooms action cancelled =>
    cases h with
    | queued pulls => exact .queued pulls true
  | wakes wait unclosing =>
    cases h with
    | blocked patience vain => exact .woken patience .cancelled vain
  | marks wait wake =>
    cases h with
    | woken patience wake vain => exact .woken patience wake.cancel vain
  | urges receive cancelled outcome => cases h
  | tells wait =>
    cases h with
    | blocked patience vain => exact .woken patience .due vain

end Fruitless

/-- Whoever is given a turn, a task that pulls in vain goes on so. -/
theorem choose_fruitless (h : s.Shut) {choice : Choice} (calls : Calls .socket [choice])
    {use : PullUse} {failure : Option OsError} {status : TaskStatus}
    (found : s.statuses[id]? = some status) (vain : Fruitless s.receives use failure status) :
    ∃ status, (s.choose choice).statuses[id]? = some status ∧
      Fruitless s.receives use failure status := by
  refine choose_all (fun _ vain => vain.rests) (fun _ _ nudge vain => vain.nudged nudge) h calls ?_
    found vain
  intro t status fit socket closed receives here vain
  have same (asleep : status.isAwake = false) :
      ∃ status, (t.resume id).statuses[id]? = some status ∧
        Fruitless s.receives use failure status := by
    rw [resume_asleep here asleep]
    exact ⟨status, here, vain⟩
  cases vain with
  | queued pulls cancelled =>
    obtain ⟨outcome, now, empty⟩ := resume_closed fit socket closed here (.queued pulls cancelled)
    exact ⟨_, now, .ended (empty failure fun receive r waits => by cases waits)⟩
  | @woken receive patience wake vain =>
    obtain ⟨outcome, now, empty⟩ :=
      resume_closed fit socket closed here (.woken receive patience wake)
    refine ⟨_, now, .ended (empty failure fun receive r waits there => ?_)⟩
    cases waits
    exact vain r (receives ▸ there)
  | blocked | ended => exact same rfl

/-- Whatever else is done, a pull for some use gets no datagram, if it ends; if its operation has
failed, it may end with that. -/
def EndsEmpty (s : Session) (id : TaskId) (use : PullUse) (failure : Option OsError) : Prop :=
  ∀ choices, Calls .socket choices → ∀ outcome,
    ((s.schedule choices).task? id).bind Task.outcome? = some outcome →
      use.EndsEmpty failure outcome

theorem Fruitless.endsEmpty {use : PullUse} {failure : Option OsError} {status : TaskStatus}
    (vain : Fruitless s.receives use failure status) (h : s.Shut)
    (found : s.statuses[id]? = some status) : s.EndsEmpty id use failure := by
  intro choices calls outcome ended
  obtain ⟨status, now, vain⟩ := schedule_status (I := Shut)
    (P := fun u => Fruitless u.receives use failure)
    (fun u choice status shut first found vain => by
      obtain ⟨later, since⟩ := shut.schedule first
      obtain ⟨status, found, vain⟩ := choose_fruitless shut first found vain
      exact ⟨later, status, found, vain.mono since⟩)
    h calls found vain
  rw [outcome?_eq, now] at ended
  cases vain with
  | ended empty =>
    cases ended
    exact empty
  | _ => cases ended

end Fruitless

section Ending

/-- How many turns a task is away from its end at most: one if it is to pull or was told of the end
of its operation, two if it is still to be told, and three if the operation is still to stop. -/
inductive Nears (receives : List Receive) : Nat → TaskStatus → Prop where
  | queued {action : Action} {use : PullUse} (pulls : use? action = some use) (cancelled : Bool)
      (more : Nat) : Nears receives (more + 1) (.queued action cancelled)
  | untold {receive : ReceiveId} (pull : Pull)
      (finished : ∀ r, receives[receive]? = some r → r.isFinished = true) (more : Nat) :
      Nears receives (more + 2) (.blocked (.pulling receive pull))
  | blocked {receive : ReceiveId} (pull : Pull)
      (settled : ∀ r, receives[receive]? = some r → r.isSettled = true) (more : Nat) :
      Nears receives (more + 3) (.blocked (.pulling receive pull))
  | woken (receive : ReceiveId) (pull : Pull) (wake : Wake) (more : Nat) :
      Nears receives (more + 1) (.woken (.pulling receive pull) wake)
  | ended (outcome : Outcome) (more : Nat) : Nears receives more (.finished outcome)

namespace Nears

variable {receives : List Receive} {n : Nat} {status : TaskStatus}

theorem mono (h : Nears s.receives n status) (since : Since s t) : Nears t.receives n status := by
  cases h with
  | queued pulls cancelled more => exact .queued pulls cancelled more
  | untold pull finished more =>
    refine .untold pull (fun r there => ?_) more
    obtain ⟨old, here, goes⟩ := since.before there
    exact goes.finished (finished old here)
  | blocked pull settled more =>
    refine .blocked pull (fun r there => ?_) more
    obtain ⟨old, here, goes⟩ := since.before there
    exact goes.settled (settled old here)
  | woken receive pull wake more => exact .woken receive pull wake more
  | ended outcome => exact .ended outcome n

theorem rests (h : Nears receives n status) : status.isRunning = false := by
  cases h <;> rfl

/-- Whatever others do, the task gets no further from its end. -/
theorem nudged (h : Nears receives n status) {new : TaskStatus} (nudge : Nudge status new) :
    Nears receives n new := by
  cases nudge with
  | same => exact h
  | dooms action cancelled =>
    cases h with
    | queued pulls _ more => exact .queued pulls true more
  | wakes wait unclosing =>
    cases h with
    | untold pull finished more => exact .woken _ pull .cancelled (more + 1)
    | blocked pull settled more => exact .woken _ pull .cancelled (more + 2)
  | marks wait wake =>
    cases h with
    | woken receive pull wake more => exact .woken receive pull wake.cancel more
  | urges receive cancelled outcome => cases h
  | tells wait =>
    cases h with
    | untold pull finished more => exact .woken _ pull .due (more + 1)
    | blocked pull settled more => exact .woken _ pull .due (more + 2)

/-- A task that has its turn goes on with a pull in it. -/
theorem next (h : Nears receives n status) (awake : status.isAwake = true) :
    ∃ use, PullsNext use status := by
  cases h with
  | queued pulls cancelled more => exact ⟨_, .queued pulls cancelled⟩
  | woken receive pull wake more => exact ⟨_, .woken receive pull.patience wake⟩
  | _ => cases awake

end Nears

/-- A task is in a pull that waits for an operation, or was woken from that. -/
inductive InPull (receive : ReceiveId) (pull : Pull) : TaskStatus → Prop where
  | blocked : InPull receive pull (.blocked (.pulling receive pull))
  | woken (wake : Wake) : InPull receive pull (.woken (.pulling receive pull) wake)

namespace InPull

variable {receives : List Receive} {receive : ReceiveId} {pull : Pull} {status : TaskStatus}

theorem nudged (h : InPull receive pull status) {new : TaskStatus} (nudge : Nudge status new) :
    InPull receive pull new := by
  cases h with
  | blocked =>
    cases nudge with
    | same => exact .blocked
    | wakes wait unclosing => exact .woken .cancelled
    | tells wait => exact .woken .due
  | woken wake =>
    cases nudge with
    | same => exact .woken wake
    | marks wait wake => exact .woken wake.cancel

theorem nears (h : InPull receive pull status)
    (settled : ∀ r, receives[receive]? = some r → r.isSettled = true) :
    Nears receives 3 status := by
  cases h with
  | blocked => exact .blocked pull settled 0
  | woken wake => exact .woken receive pull wake 2

/-- Once the operation is over, the task is a turn nearer to its end. -/
theorem nears_of_finished (h : InPull receive pull status)
    (finished : ∀ r, receives[receive]? = some r → r.isFinished = true) (more : Nat) :
    Nears receives (more + 2) status := by
  cases h with
  | blocked => exact .untold pull finished more
  | woken wake => exact .woken receive pull wake (more + 1)

theorem fruitless (h : InPull receive pull status) {failure : Option OsError}
    (vain : ∀ r, receives[receive]? = some r → r.IsVain failure) :
    Fruitless receives pull.use failure status := by
  cases h with
  | blocked => exact .blocked pull.patience vain
  | woken wake => exact .woken pull.patience wake vain

end InPull

private theorem choose_nears (h : s.Shut) {choice : Choice} (calls : Calls .socket [choice])
    {n : Nat} {status : TaskStatus} (found : s.statuses[id]? = some status)
    (nears : Nears s.receives n status) :
    ∃ status, (s.choose choice).statuses[id]? = some status ∧ Nears s.receives n status := by
  refine choose_all (fun _ nears => nears.rests) (fun _ _ nudge nears => nears.nudged nudge) h calls
    ?_ found nears
  intro t status fit socket closed receives here nears
  cases awake : status.isAwake with
  | false =>
    rw [resume_asleep here awake]
    exact ⟨status, here, nears⟩
  | true =>
    obtain ⟨use, next⟩ := nears.next awake
    obtain ⟨outcome, now, -⟩ := resume_closed fit socket closed here next
    exact ⟨_, now, .ended outcome n⟩

private theorem schedule_nears {choices : List Choice} (h : s.Shut)
    (calls : Calls .socket choices) {n : Nat} {status : TaskStatus}
    (found : s.statuses[id]? = some status) (nears : Nears s.receives n status) :
    ∃ status, (s.schedule choices).statuses[id]? = some status ∧
      Nears (s.schedule choices).receives n status := by
  refine schedule_status (I := Shut) (P := fun u => Nears u.receives n) ?_ h calls found nears
  intro u choice status shut first found nears
  obtain ⟨later, since⟩ := shut.schedule first
  obtain ⟨status, found, nears⟩ := choose_nears shut first found nears
  exact ⟨later, status, found, nears.mono since⟩

/-- The turns that the end of a pull takes: those of its task, and that of the operation that the
task waits for. -/
inductive Serves (s : Session) (id : TaskId) : Turn → Prop where
  | signal : Serves s id (.signal id)
  | resume : Serves s id (.resume id)
  | receive {receive : ReceiveId} {pull : Pull}
      (waits : s.statuses[id]? = some (.blocked (.pulling receive pull))) :
      Serves s id (.receive receive)

/-- A task is over, or there is a turn for it after which it ends within one turn less, whatever
else is done before. It waits for nothing but turns. -/
def EndsWithin (id : TaskId) : Nat → Session → Prop
  | 0, s => ∃ outcome, s.statuses[id]? = some (.finished outcome)
  | n + 1, s => ∀ choices, Calls .socket choices →
      let t := s.schedule choices
      (∃ outcome, t.statuses[id]? = some (.finished outcome)) ∨
        ∃ turn, t.Serves id turn ∧ turn ∈ t.ready ∧
          ∀ place, t.ready[place]? = some turn → (t.turnAt place).EndsWithin id n

private theorem turnAt_signal {place : Nat} (first : s.ready[place]? = some (.signal id))
    {wait : Wait} (blocked : s.statuses[id]? = some (.blocked wait)) :
    (s.turnAt place).statuses[id]? = some (.woken wait .due) := by
  let rest := { s with ready := s.ready.eraseIdx place }
  have status : (rest.task? id).map Task.status = some (.blocked wait) := status_eq blocked
  rw [turnAt, first]
  change (rest.signal id).statuses[id]? = _
  rw [Session.signal, status]
  change (rest.setStatus id (.woken wait .due)).statuses[id]? = _
  rw [statuses_setStatus]
  exact List.getElem?_set_self (List.getElem?_eq_some_iff.mp blocked).1

private theorem Shut.turnAt (h : s.Shut) (place : Nat) :
    (s.turnAt place).Shut ∧ Since s (s.turnAt place) :=
  h.schedule (calls_turn .socket place)

/-- The turn of an operation that was asked to stop; whoever waits for it is still in the pull. -/
private theorem turnAt_stops (h : s.Shut) {place : Nat} {receive : ReceiveId} {pull : Pull}
    (first : s.ready[place]? = some (.receive receive))
    (settled : ∀ r, s.receives[receive]? = some r → r.isSettled = true)
    (blocked : s.statuses[id]? = some (.blocked (.pulling receive pull))) :
    ∃ status, (s.turnAt place).statuses[id]? = some status ∧ InPull receive pull status ∧
      ∀ r, (s.turnAt place).receives[receive]? = some r → r.isFinished = true := by
  have other : s.given? (.turn place) ≠ some (.resume id) := by
    rw [show s.given? (.turn place) = some (.receive receive) from first]
    simp
  obtain ⟨status, now, inside⟩ := choose_other (P := InPull receive pull)
    (fun _ inside => by cases inside <;> rfl) (fun _ _ nudge inside => inside.nudged nudge) h.fit
    (calls_turn s.layer place) other blocked .blocked
  refine ⟨status, now, inside, fun r there => ?_⟩
  obtain ⟨old, here, goes⟩ := (h.turnAt place).2.before there
  cases going : r.isFinished with
  | true => rfl
  | false =>
    have asked := Receive.isAsked_of_isSettled (goes.settled (settled old here)) going
    have awake := Receive.isAwake_of_isAsked asked going
    cases awake.symm.trans (turnAt_receive first h.fit.up there)

theorem Nears.endsWithin {n : Nat} {status : TaskStatus} (nears : Nears s.receives n status)
    (h : s.Shut) (found : s.statuses[id]? = some status) : s.EndsWithin id n := by
  induction n generalizing s status with
  | zero =>
    cases nears with
    | ended outcome => exact ⟨outcome, found⟩
  | succ n ih =>
    intro choices calls t
    obtain ⟨shut, -⟩ := h.schedule calls
    obtain ⟨status, now, nears⟩ := schedule_nears h calls found nears
    have remembered := shut.managed.remembers id
    have told {receive : ReceiveId} {pull : Pull} {more : Nat}
        (blocked : t.statuses[id]? = some (.blocked (.pulling receive pull)))
        (signal : .signal id ∈ t.ready) (less : n = more + 1) :
        ∃ turn, t.Serves id turn ∧ turn ∈ t.ready ∧
          ∀ place, t.ready[place]? = some turn → (t.turnAt place).EndsWithin id n := by
      refine ⟨.signal id, .signal, signal, fun place first => ?_⟩
      subst less
      exact ih (.woken receive pull .due more) (shut.turnAt place).1 (turnAt_signal first blocked)
    cases awake : status.isAwake with
    | true =>
      refine .inr ⟨.resume id, .resume, remembered.awake status now awake, fun place first => ?_⟩
      obtain ⟨use, next⟩ := nears.next awake
      let rest := { t with ready := t.ready.eraseIdx place }
      obtain ⟨outcome, last, -⟩ := resume_closed (s := rest) (shut.fit.turns _)
        shut.managed.socket shut.closed now next
      rw [← show t.turnAt place = rest.resume id from turnAt_resume first] at last
      exact ih (.ended outcome n) (shut.turnAt place).1 last
    | false =>
      cases nears with
      | queued | woken => cases awake
      | ended outcome => exact .inl ⟨outcome, now⟩
      | @untold receive pull finished more =>
        refine .inr (told now ?_ rfl)
        rcases remembered.blocked _ receive now rfl with ⟨r, there, going, -⟩ | signal
        · cases going.symm.trans (finished r there)
        · exact signal
      | @blocked receive pull settled more =>
        rcases remembered.blocked _ receive now rfl with ⟨r, there, going, -⟩ | signal
        · have asked := Receive.isAsked_of_isSettled (settled r there) going
          refine .inr ⟨.receive receive, .receive now, shut.roused.stops there asked going,
            fun place first => ?_⟩
          obtain ⟨status, later, inside, finished⟩ := turnAt_stops shut first settled now
          exact ih (inside.nears_of_finished finished more) (shut.turnAt place).1 later
        · exact .inr (told now signal rfl)

end Ending

/-- Operations that are over are not inside the endpoint, nor are tasks of a socket. -/
theorem inFlight_eq_zero (fit : s.Fit)
    (finished : ∀ r ∈ s.receives, r.isFinished = true) : s.inFlight = 0 := by
  have outside : s.receives.filter Receive.isInside = [] := by
    refine List.filter_eq_nil_iff.mpr fun r member inside => ?_
    have finished := finished r member
    obtain ⟨buffer, status, watchers⟩ := r
    cases status with
    | finished outcome => cases inside
    | _ => cases finished
  rw [inFlight, outside, List.length_nil, Nat.zero_add, List.length_eq_zero_iff]
  refine List.filter_eq_nil_iff.mpr fun task member taking => ?_
  have fits := fit.statuses task.status (List.mem_map_of_mem member)
  obtain ⟨name, status, requests⟩ := task
  cases status with
  | blocked wait | woken wait wake =>
    cases wait with
    | taking buffer => exact fits
    | _ => cases taking
  | _ => cases taking

/-- What a task's operation has failed with, if it has. -/
def failureOf (s : Session) (receive : ReceiveId) : Option OsError :=
  (s.receives[receive]?).bind Receive.failure?

/-- A socket is closed once a call of close has returned. From then on no operation is started,
whatever else is done with it, and pulls that begin later end with nothing in their first turn. When
no operation was started while a call of close waited, an operation that is not over was asked to
stop, and a call of close that has not returned waits for it; once all calls have returned no
operation is in flight. Whoever is in a pull then ends within three turns, which wait for nothing:
that of the operation, one to be told of its end and one to go on. The pull gets no datagram if none
had arrived for it. -/
theorem settled_of_closed {codec : Codec} {settings : Settings} {earlier : Except Fault Settings}
    {hosts : Hosts} {e : Endpoint} {start : Session} {before later : List Choice}
    (calm : codec.IsCalm) (unused : IsFresh e)
    (built : (bare .socket codec earlier hosts).attach settings e = .ok start)
    (calls : Calls .socket (before ++ later)) :
    let s := start.schedule before
    let t := s.schedule later
    (start.HasReturned before → s.isHandleClosed socketHandle = true) ∧
    (s.isHandleClosed socketHandle = true →
      t.isHandleClosed socketHandle = true ∧ t.receives.length = s.receives.length ∧
      (∀ (id : TaskId) (action : Action) (cancelled : Bool) (use : PullUse),
        t.statuses[id]? = some (.queued action cancelled) → use? action = some use →
          t.EndsWithin id 1 ∧ t.EndsEmpty id use none) ∧
      (start.Undisturbed before →
        (∀ (i : ReceiveId) (r : Receive), t.receives[i]? = some r → r.isFinished = true ∨
          r.status.isAsked = true ∧ t.IsAwaited i) ∧
        (¬ t.IsBeingClosed → t.inFlight = 0 ∧ ∀ r ∈ t.receives, r.isFinished = true) ∧
        ∀ (id : TaskId) (status : TaskStatus) (receive : ReceiveId) (pull : Pull),
          t.statuses[id]? = some status → InPull receive pull status →
            t.EndsWithin id 3 ∧
            ((∀ r, t.receives[receive]? = some r → r.hasArrived = false) →
              t.EndsEmpty id pull.use (t.failureOf receive)))) := by
  intro s t
  obtain ⟨limit, -, rfl⟩ := exists_fresh rfl built
  obtain ⟨first, second⟩ := calls_append.mp calls
  have start : (fresh .socket codec settings e limit).Fit := .start calm unused.waiting
  obtain ⟨fit, managed⟩ := schedule_keep (fun _ _ _ change fit h => change.managed fit h)
    start first (.start unused)
  refine ⟨fun returned => returned.closed start rfl first, fun closed => ?_⟩
  have roused : s.Roused none := Roused.start.schedule start first
  obtain ⟨shut, since⟩ := Shut.schedule ⟨fit, managed, roused, closed⟩ second
  refine ⟨since.closed, since.length, ?_, fun undisturbed => ?_⟩
  · intro id action cancelled use queued pulls
    have ends : Nears t.receives 1 (.queued action cancelled) := .queued pulls cancelled 0
    have vain : Fruitless t.receives use none (.queued action cancelled) := .queued pulls cancelled
    exact ⟨ends.endsWithin shut queued, vain.endsEmpty shut queued⟩
  · have tidy := (Tidy.start calm unused).schedule first undisturbed
    have idle := tidy.closed closed
    have settled {i : ReceiveId} {r : Receive} (there : t.receives[i]? = some r) :
        r.isSettled = true :=
      since.settled (fun r => managed.single.settled fit idle) (List.mem_of_getElem? there)
    have awaited {i : ReceiveId} {r : Receive} (there : t.receives[i]? = some r)
        (going : r.isFinished = false) : t.IsAwaited i := by
      refine (shut.managed.accompanied i r there going).resolve_left fun current => ?_
      obtain ⟨receiver, found⟩ := shut.fit.receiver
      obtain ⟨spare, state⟩ := since.idle idle receiver found
      cases current.symm.trans ((state?_eq found).trans (congrArg some state))
    refine ⟨fun i r there => ?_, fun returned => ?_, fun id status receive pull found inside => ?_⟩
    · cases going : r.isFinished with
      | true => exact .inl rfl
      | false =>
        exact .inr ⟨Receive.isAsked_of_isSettled (settled there) going, awaited there going⟩
    · have finished (r : Receive) (member : r ∈ t.receives) : r.isFinished = true := by
        obtain ⟨i, there⟩ := List.mem_iff_getElem?.mp member
        by_contra going
        obtain ⟨id, cancelled, outcome, waits⟩ := awaited there (Bool.eq_false_iff.mpr going)
        exact returned (isBeingClosed_of waits rfl)
      exact ⟨inFlight_eq_zero shut.fit finished, finished⟩
    · refine ⟨(inside.nears fun r => settled).endsWithin shut found, fun nothing => ?_⟩
      have vain (r : Receive) (there : t.receives[receive]? = some r) :
          r.IsVain (t.failureOf receive) := by
        rw [failureOf, there]
        exact Receive.isVain_of_isSettled (settled there) (nothing r there)
      exact (inside.fruitless vain).endsEmpty shut found

def idleSocket : Session := fresh .socket .osc .default (.inMemory (.quiet [])) 65536

/-- A sender is made and a task pulls. -/
def firstPull : List Choice := [
  .spawn (Text.ofString "s") (.sender (Text.ofString "s")), .turn 0,
  .spawn (Text.ofString "a") (.recv 0), .turn 0, .turn 0]

/-- The socket is closed, and the call is told of the end of the operation before the pull is. -/
def closedPull : List Choice := firstPull ++ [
  .spawn (Text.ofString "c") (.close socketName), .turn 0, .turn 0, .turn 1, .turn 1]

/-- A pull of the closed socket. -/
def nextPull : List Choice := [.spawn (Text.ofString "b") (.recv 0)]

theorem settled_of_closed_nextPull :
    let s := idleSocket.schedule closedPull
    let t := s.schedule nextPull
    Calls .socket (closedPull ++ nextPull) ∧ idleSocket.HasReturned closedPull ∧
      s.isHandleClosed socketHandle = true ∧ idleSocket.Undisturbed closedPull ∧
      ¬ t.IsBeingClosed ∧ t.isEndpointClosed = false ∧ t.receives.length = 1 ∧ t.inFlight = 0 ∧
      t.EndsWithin 1 3 ∧ t.EndsEmpty 1 (.stream .packet) none ∧
      t.EndsWithin 3 1 ∧ t.EndsEmpty 3 (.stream .packet) none ∧
      (t.schedule [.turn 0, .turn 0, .turn 0]).tasks.map Task.outcome? =
        [some (.value .sameEndpoint), some (.fault (.transport .socketClosed)),
          some (.value .nothing), some (.fault (.transport .socketClosed))] := by
  intro s t
  have unused : IsFresh (.inMemory (.quiet [])) := ⟨rfl, rfl, rfl, rfl⟩
  have built : (bare .socket .osc (.ok .default) []).attach .default (.inMemory (.quiet [])) =
      .ok idleSocket := rfl
  have calls : Calls .socket (closedPull ++ nextPull) := by decide
  have returned : idleSocket.HasReturned closedPull :=
    ⟨closedPull.take 6, closedPull.drop 7, 0, 2, socketName, rfl, rfl, rfl, rfl, rfl⟩
  have undisturbed : idleSocket.Undisturbed closedPull := by decide +kernel
  have nobody : ¬ t.IsBeingClosed := by decide +kernel
  obtain ⟨closes, after⟩ := settled_of_closed Codec.osc_isCalm unused built calls
  have closed : s.isHandleClosed socketHandle = true := closes returned
  obtain ⟨-, length, unbegun, settled⟩ := after closed
  obtain ⟨-, over', waiting⟩ := settled undisturbed
  obtain ⟨ends, vain⟩ := waiting 1 _ 0 ⟨.stream .packet, 0⟩ rfl .blocked
  obtain ⟨ends', vain'⟩ := unbegun 3 (.recv 0) false (.stream .packet) rfl rfl
  refine ⟨calls, returned, closed, undisturbed, nobody, rfl, length, (over' nobody).1, ends,
    vain fun r there => ?_, ends', vain', rfl⟩
  cases there
  rfl

/-- An earlier pull was cancelled, which left its operation to the next one; that pull begins while
the call of close waits for the end of the operation. -/
def latePull : List Choice := firstPull ++ [
  .spawn (Text.ofString "d") (.cancel (Text.ofString "a")), .turn 0, .turn 0,
  .spawn (Text.ofString "c") (.close socketName), .spawn (Text.ofString "b") (.recv 0),
  .turn 0, .turn 0, .turn 0, .turn 0, .turn 0, .turn 0]

/-- A datagram arrives. -/
def feedPacket : Choice := .spawn (Text.ofString "f") (.feed (.datagram [47, 97, 0, 0] (.int 7)))

/-- What the datagram is to a pull. -/
def fedPacket : Outcome := .value (.packet (.message (Text.ofString "/a") []) (.int 7))

/-- The call of close has returned, but an operation that was started while it waited still needs
an arrival, and its pull gets the packet from the closed socket. -/
theorem closed_socket_delivers :
    let s := idleSocket.schedule latePull
    let later := [feedPacket, .turn 0, .turn 0, .turn 0, .turn 0]
    Calls .socket (latePull ++ later) ∧ ¬ idleSocket.Undisturbed latePull ∧
      (s.task? 3).bind Task.outcome? = some (.value .nothing) ∧
      s.isHandleClosed socketHandle = true ∧ s.ready = [] ∧ s.inFlight = 1 ∧
      s.receives.map Receive.isSettled = [true, false] ∧
      ((s.schedule later).task? 4).bind Task.outcome? = some fedPacket := by
  have disturbed : ¬ idleSocket.Undisturbed latePull := by decide +kernel
  exact ⟨by decide, disturbed, rfl, rfl, rfl, rfl, rfl, rfl⟩

/-- A second call of close begins while the first one waits, and finds the receiver idle. -/
def secondClose : List Choice := firstPull ++ [
  .spawn (Text.ofString "c") (.close socketName), .spawn (Text.ofString "d") (.close socketName),
  .turn 0, .turn 0]

/-- Without such an operation, the one that another call still waits for is inside the endpoint. -/
theorem closed_socket_inFlight :
    let s := idleSocket.schedule secondClose
    Calls .socket secondClose ∧ idleSocket.Undisturbed secondClose ∧
      (s.task? 3).bind Task.outcome? = some (.value .nothing) ∧
      s.isHandleClosed socketHandle = true ∧ s.IsBeingClosed ∧ s.inFlight = 1 := by
  have undisturbed : idleSocket.Undisturbed secondClose := by decide +kernel
  have waits : (idleSocket.schedule secondClose).IsBeingClosed := by decide +kernel
  exact ⟨by decide, undisturbed, rfl, rfl, waits, rfl⟩

/-- The datagram arrives for the first pull, and the call of close is told of the end of the
operation before the pull is. -/
def fedPull : List Choice := firstPull ++ [feedPacket, .turn 0, .turn 0,
  .spawn (Text.ofString "c") (.close socketName), .turn 1, .turn 1, .turn 1]

/-- With all calls of close over, a pull for which a datagram was brought before gets it. -/
theorem closed_socket_delivers_brought :
    let s := idleSocket.schedule fedPull
    Calls .socket fedPull ∧ idleSocket.Undisturbed fedPull ∧
      (s.task? 3).bind Task.outcome? = some (.value .nothing) ∧
      s.isHandleClosed socketHandle = true ∧ ¬ s.IsBeingClosed ∧ s.inFlight = 0 ∧
      ((s.schedule [.turn 0, .turn 0]).task? 1).bind Task.outcome? = some fedPacket := by
  have undisturbed : idleSocket.Undisturbed fedPull := by decide +kernel
  have returned : ¬ (idleSocket.schedule fedPull).IsBeingClosed := by decide +kernel
  exact ⟨by decide, undisturbed, rfl, rfl, returned, rfl, rfl⟩

end Session

end Osc
