import Osc.Proofs.Pulls

/-!
The steps of a session around a receiver. What holds of the receiver, of the tasks and of the
account of arrivals is kept by every step: a task is started, goes on, is told or is cancelled,
something arrives, or a receive operation has its turn.
-/

namespace Osc.Session

variable {capacity : Nat} {actions : List Action} {s t : Session} {id : TaskId}
  {status : TaskStatus}

/-- What holds of the receiver and of the tasks, whatever has arrived. -/
structure Standing (capacity : Nat) (actions : List Action) (s : Session) : Prop where
  desk : ∃ e r, Desk capacity s e r
  consumers : Consumers actions s.statuses s.ready s.view
  recorded : s.Recorded
  deliberate : s.Deliberate

namespace Standing

theorem action (h : Standing capacity actions s) (found : s.statuses[id]? = some status) :
    ∃ action, actions[id]? = some action ∧ Follows action s.view.current s.view.done status :=
  h.consumers.follows id status found

/-- Only blocked tasks watch. -/
theorem unwatched (h : Standing capacity actions s) (found : s.statuses[id]? = some status)
    (awake : ∀ wait, status ≠ .blocked wait) : id ∉ s.view.watchers := by
  intro member
  obtain ⟨wait, blocked⟩ := h.consumers.watch id member
  exact awake wait (Option.some.inj (found.symm.trans blocked))

/-- A task that is not inside a pull ends. -/
theorem finish (h : Standing capacity actions s) (found : s.statuses[id]? = some status)
    (running : status.isOver = false) (awake : ∀ wait, status ≠ .blocked wait)
    (outside : s.view.waiting = true → status.isPulling = false) {outcome : Outcome}
    (asked : outcome = .cancelled → status.isCancelled = true) :
    Standing capacity actions (s.finish id outcome) where
  desk := by
    obtain ⟨e, r, desk⟩ := h.desk
    exact ⟨e, r, { desk with }⟩
  consumers := by
    rw [statuses_finish]
    refine h.consumers.replace found running ?_ ?_ ?_ ?_ ?_
    · exact fun _ _ => .finished outcome
    · exact fun pull => by cases pull
    · exact fun waiting pulling => by simp [outside waiting] at pulling
    · exact fun _ _ => .inl rfl
    · exact fun member => absurd member (h.unwatched found awake)
  recorded := h.recorded.finish found running (statuses_finish s id outcome) rfl
  deliberate := by
    refine h.deliberate.set found ?_ (statuses_finish s id outcome)
      (s.cancelRequests_setStatus id _)
    intro cancelled
    refine .inl (asked ?_)
    cases outcome with
    | cancelled => rfl
    | _ => cases cancelled

/-- What a step keeps that tasks do not notice. -/
theorem silent (h : Standing capacity actions s) (unnoticed : Silent s t)
    (desk : ∃ e r, Desk capacity t e r) :
    Standing capacity actions t ∧ t.history actions = s.history actions := by
  have statuses := statuses_eq unnoticed.tasks
  refine ⟨⟨desk, ?_, h.recorded.keep statuses unnoticed.finished, ?_⟩,
    history_eq unnoticed.finished fun id _ => by rw [statuses]⟩
  · rw [statuses, unnoticed.view]
    exact h.consumers.turns unnoticed.signals
  · exact h.deliberate.keep statuses fun id => by rw [cancelRequests_eq unnoticed.tasks]

end Standing

/-- What holds of a session after any schedule. -/
structure Sound (capacity : Nat) (actions : List Action) (s : Session) : Prop
    extends Standing capacity actions s where
  account : Balanced capacity (s.history actions) s.undelivered s.untaken

namespace Sound

/-- A task that has no part in the account ends. -/
theorem finish (h : Sound capacity actions s) (found : s.statuses[id]? = some status)
    (running : status.isOver = false) (awake : ∀ wait, status ≠ .blocked wait)
    (outside : s.view.waiting = true → status.isPulling = false) {action : Action}
    (here : actions[id]? = some action) {outcome : Outcome}
    (asked : outcome = .cancelled → status.isCancelled = true)
    (idle : isIdle (action, outcome) = true) :
    Sound capacity actions (s.finish id outcome) := by
  refine ⟨h.toStanding.finish found running awake outside asked, ?_⟩
  rw [h.recorded.history_finish found running here (s.statuses_finish id outcome) rfl]
  exact h.account.idle idle

/-- A task goes on to another status. -/
theorem setStatus (h : Sound capacity actions s) (found : s.statuses[id]? = some status)
    (running : status.isOver = false) {new : TaskStatus}
    (follows : ∀ action, Follows action s.view.current s.view.done status →
      Follows action s.view.current s.view.done new)
    (pull : new.isPull = true → status.isPull = true)
    (pulling : status.isPulling = true → new.isPulling = true)
    (watch : id ∈ s.view.watchers → ∃ wait, new = .blocked wait)
    (asked : new.isCancelled = true → status.isCancelled = true ∨ s.cancelRequests id ≠ 0) :
    Sound capacity actions (s.setStatus id new) := by
  have statuses := s.statuses_setStatus id new
  refine ⟨⟨?_, ?_, ?_, ?_⟩, ?_⟩
  · obtain ⟨e, r, desk⟩ := h.desk
    exact ⟨e, r, { desk with }⟩
  · rw [statuses]
    exact h.consumers.replace found running follows pull (fun _ => pulling)
      (fun _ before => .inr (pulling before)) watch
  · exact h.recorded.set found running statuses rfl
  · exact h.deliberate.set found asked statuses (s.cancelRequests_setStatus id new)
  · rw [h.recorded.history_set found running statuses rfl]
    exact h.account

/-- A task that is not inside a pull starts to run. -/
theorem run (h : Sound capacity actions s) {action : Action} {cancelled : Bool}
    (found : s.statuses[id]? = some (.queued action cancelled)) :
    Sound capacity actions (s.setStatus id (.running false)) := by
  refine h.setStatus found rfl ?_ ?_ ?_ ?_ ?_
  · exact fun _ _ => .running false
  · exact fun pull => by cases pull
  · exact fun pulling => by cases pulling
  · exact fun member => absurd member (h.unwatched found (by simp))
  · exact fun cancelled => by cases cancelled

/-- Turns that signal nobody are all the same. -/
theorem turns (h : Sound capacity actions s) {ready : List Turn}
    (fewer : ∀ id, .signal id ∈ ready → .signal id ∈ s.ready) :
    Sound capacity actions { s with ready := ready } where
  desk := by
    obtain ⟨e, r, desk⟩ := h.desk
    exact ⟨e, r, { desk with }⟩
  consumers := h.consumers.turns fewer
  recorded := h.recorded
  deliberate := h.deliberate
  account := h.account

theorem queue_resume (h : Sound capacity actions s) (id : TaskId) :
    Sound capacity actions (s.queue [.resume id]) :=
  h.turns fun other member => by simpa using member

theorem unsignal (h : Sound capacity actions s) (id : TaskId) :
    Sound capacity actions (s.unsignal id) :=
  h.turns fun _ member => List.mem_of_mem_filter member

/-- The task that was said to wait does not any more. -/
theorem unwait (h : Sound capacity actions s) :
    Sound capacity actions (s.setReceiver fun r => { r with waiting := false }) := by
  obtain ⟨e, r, desk⟩ := h.desk
  refine ⟨⟨⟨e, _, desk.setWaiting false⟩, ?_, h.recorded, h.deliberate⟩, ?_⟩
  · rw [desk.view_setWaiting false]
    exact h.consumers.unwait
  · rw [desk.undelivered_setWaiting false]
    exact h.account

theorem spawn (h : Sound capacity actions s) (name : Text) {action : Action}
    (permitted : s.permits (.spawn name action)) :
    Sound capacity (actions ++ [action]) (s.spawn name action) := by
  obtain ⟨traffic, single⟩ := permitted
  have statuses : (s.spawn name action).statuses = s.statuses ++ [.queued action false] :=
    List.map_append
  have inside (id : TaskId) (member : id ∈ s.finished) : id < s.statuses.length := by
    obtain ⟨outcome, ended⟩ := h.recorded id member
    exact (List.getElem?_eq_some_iff.mp ended).1
  have old (id : TaskId) (member : id ∈ s.finished) :
      (s.spawn name action).statuses[id]? = s.statuses[id]? := by
    rw [statuses, List.getElem?_append_left (inside id member)]
  refine ⟨⟨?_, ?_, ?_, ?_⟩, ?_⟩
  · obtain ⟨e, r, desk⟩ := h.desk
    exact ⟨e, r, { desk with }⟩
  · have consumers := h.consumers.spawn traffic fun pull status member => by
      obtain ⟨task, there, rfl⟩ := List.mem_map.mp member
      exact single pull task there
    rw [Session.statuses, List.length_map] at consumers
    rw [statuses]
    exact consumers
  · intro id member
    rw [old id member]
    exact h.recorded id member
  · intro id status found cancelled
    rw [statuses] at found
    rcases getElem?_concat_eq_some.mp found with old | ⟨-, rfl⟩
    · have requests : (s.spawn name action).cancelRequests id = s.cancelRequests id := by
        have inside := (List.getElem?_eq_some_iff.mp old).1
        rw [Session.statuses, List.length_map] at inside
        have task : (s.spawn name action).task? id = s.task? id :=
          List.getElem?_append_left inside
        rw [cancelRequests, cancelRequests, task]
      rw [requests]
      exact h.deliberate id status old cancelled
    · cases cancelled
  · rw [h.recorded.history_spawn h.consumers.length name action]
    exact h.account

theorem silent (h : Sound capacity actions s) (unnoticed : Silent s t)
    (desk : ∃ e r, Desk capacity t e r) (untaken : t.untaken = s.untaken) :
    Sound capacity actions t := by
  obtain ⟨standing, history⟩ := h.toStanding.silent unnoticed desk
  refine ⟨standing, ?_⟩
  rw [history, unnoticed.undelivered, untaken]
  exact h.account

theorem turnReceive (h : Sound capacity actions s) (id : ReceiveId) :
    Sound capacity actions (s.turnReceive id) := by
  obtain ⟨e, r, desk⟩ := h.desk
  obtain ⟨⟨e', after⟩, passed | received⟩ := desk.turnReceive id
  · exact h.silent passed.toSilent ⟨e', r, after⟩ passed.untaken
  · have statuses := statuses_eq received.tasks
    refine ⟨⟨⟨e', r, after⟩, ?_, h.recorded.keep statuses received.finished, ?_⟩, ?_⟩
    · rw [statuses, received.view, received.ready]
      exact h.consumers.finish received.undone
    · exact h.deliberate.keep statuses fun id => by rw [cancelRequests_eq received.tasks]
    · obtain ⟨arrival, first, took⟩ := received.took
      have account := h.account
      rw [received.nothing, first] at account
      rw [history_eq received.finished fun id _ => by rw [statuses], took]
      exact account.receive

/-- A task is told of the end of the operation that it waits for. -/
theorem signal (h : Sound capacity actions s)
    (told : ∃ status : TaskStatus, s.statuses[id]? = some status ∧
      (status.isOver = true ∨ status.isPulling = true ∧ s.view.done = true)) :
    Sound capacity actions (s.signal id) := by
  obtain ⟨status, found, either⟩ := told
  rw [Session.signal, status_eq found]
  cases status with
  | blocked wait =>
    rcases either with ended | ⟨-, done⟩
    · cases ended
    · obtain ⟨action, here, follows⟩ := h.action found
      cases follows with
      | blocked patience pull joined =>
        refine (h.setStatus found rfl ?_ (fun _ => rfl) (fun _ => rfl) ?_ ?_).queue_resume id
        · intro action' follows
          cases follows with
          | blocked _ pull joined => exact .woken patience pull joined fun _ => done
        · intro member
          rw [h.consumers.told done] at member
          cases member
        · exact fun cancelled => by cases cancelled
  | _ => exact h

/-- A task stops to wait when it is cancelled, and will not be told any more. -/
theorem cancelWait (h : Sound capacity actions s) {wait : Wait}
    (found : s.statuses[id]? = some (.blocked wait)) (asked : s.cancelRequests id ≠ 0) :
    Sound capacity actions (s.cancelWait id wait) := by
  obtain ⟨e, r, desk⟩ := h.desk
  obtain ⟨action, -, follows⟩ := h.action found
  cases follows with
  | @blocked receive patience pull joined =>
    obtain ⟨after, view, undelivered, -⟩ := desk.unwatch joined id
    have unwatched : Sound capacity actions (s.unwatch receive id) := by
      refine ⟨⟨⟨e, r, after⟩, ?_, h.recorded, h.deliberate⟩, ?_⟩
      · rw [view]
        exact h.consumers.unwatch id
      · rw [undelivered]
        exact h.account
    refine ((unwatched.setStatus found rfl ?_ (fun _ => rfl) (fun _ => rfl) ?_ ?_).unsignal
      id).queue_resume id
    · intro action' follows
      cases follows with
      | blocked _ pull joined => exact .woken patience pull joined fun told => absurd rfl told
    · intro member
      rw [view] at member
      exact absurd member h.consumers.nodup.not_mem_erase
    · exact fun _ => .inr asked

theorem asked (h : Sound capacity actions s) (id : TaskId) :
    Sound capacity actions (s.asked id) := by
  have statuses := s.statuses_asked id
  have history : (s.asked id).history actions = s.history actions :=
    history_eq rfl fun id _ => by rw [statuses]
  refine ⟨⟨?_, ?_, h.recorded.keep statuses rfl, ?_⟩, ?_⟩
  · obtain ⟨e, r, desk⟩ := h.desk
    exact ⟨e, r, { desk with }⟩
  · rw [statuses]
    exact h.consumers
  · exact h.deliberate.keep statuses (s.le_cancelRequests_asked id)
  · rw [history]
    exact h.account

/-- A task is cancelled: at once, when it goes on, or not at all when it is over. -/
theorem cancelTask (h : Sound capacity actions s) (id : TaskId) :
    Sound capacity actions (s.cancelTask id).1 := by
  have sound := h.asked id
  rw [cancelTask_eq, ← s.statuses_asked id]
  cases found : (s.asked id).statuses[id]? with
  | none => exact h
  | some status =>
    have requested : (s.asked id).cancelRequests id ≠ 0 := by
      rw [s.statuses_asked id] at found
      exact cancelRequests_asked found
    cases status with
    | queued action cancelled =>
      refine sound.setStatus found rfl ?_ (fun pull => pull) (fun pulling => pulling) ?_
        (fun _ => .inr requested)
      · intro action' follows
        cases follows with
        | queued _ traffic => exact .queued true traffic
      · exact fun member => absurd member (sound.unwatched found (by simp))
    | running cancelled =>
      refine sound.setStatus found rfl ?_ (fun pull => pull) (fun pulling => pulling) ?_
        (fun _ => .inr requested)
      · exact fun _ _ => .running true
      · exact fun member => absurd member (sound.unwatched found (by simp))
    | blocked wait => exact sound.cancelWait found requested
    | woken wait wake =>
      obtain ⟨action, -, follows⟩ := sound.action found
      cases follows with
      | woken patience pull joined told =>
        refine sound.setStatus found rfl ?_ (fun _ => rfl) (fun _ => rfl) ?_
          (fun _ => .inr requested)
        · intro action' follows
          cases follows with
          | woken _ pull joined told =>
            refine .woken patience pull joined fun different => told ?_
            rintro rfl
            exact different rfl
        · exact fun member => absurd member (sound.unwatched found (by simp))
    | finished outcome => exact h

/-- A task that runs goes on to run when a task is cancelled, even when it is that one. -/
theorem status_cancelTask (h : Sound capacity actions s)
    (found : s.statuses[id]? = some (.running false)) (target : TaskId) :
    ∃ cancelled, (s.cancelTask target).1.statuses[id]? = some (.running cancelled) := by
  have kept (different : target ≠ id) (new : TaskStatus) :
      ((s.asked target).setStatus target new).statuses[id]? = some (.running false) := by
    rw [statuses_setStatus, statuses_asked, List.getElem?_set_ne different, found]
  rw [cancelTask_eq]
  by_cases same : target = id
  · subst same
    have inside := (List.getElem?_eq_some_iff.mp found).1
    rw [found]
    refine ⟨true, ?_⟩
    rw [statuses_setStatus, statuses_asked, List.getElem?_set_self inside]
  · refine ⟨false, ?_⟩
    cases there : s.statuses[target]? with
    | none => exact found
    | some status =>
      cases status with
      | queued action cancelled => exact kept same _
      | running cancelled => exact kept same _
      | blocked wait =>
        obtain ⟨action, -, follows⟩ := h.action there
        cases follows with
        | blocked patience pull joined => exact kept same _
      | woken wait wake => exact kept same _
      | finished outcome => exact found

/-- The task of a pull ends with what was received. -/
theorem taken (h : Sound capacity actions s) (found : s.statuses[id]? = some status)
    (running : status.isOver = false) (single : Only s.statuses id)
    (free : s.view.waiting = false) {patience : Nat} (here : actions[id]? = some (.next patience))
    {outcome : Outcome} (desk : ∃ e r, Desk capacity t e r)
    (taken : Taken (s.setStatus id (.running false)) t outcome) :
    Sound capacity actions (t.settle id (.finished outcome)) := by
  have inside := (List.getElem?_eq_some_iff.mp found).1
  have runs : t.statuses = s.statuses.set id (.running false) :=
    (statuses_eq taken.tasks).trans (s.statuses_setStatus id _)
  have ends : (t.finish id outcome).statuses = s.statuses.set id (.finished outcome) := by
    rw [statuses_finish, runs, List.set_set]
  have finished : (t.finish id outcome).finished = s.finished ++ [id] :=
    congrArg (· ++ [id]) taken.finished
  rw [settle_finished (by rw [runs, List.getElem?_set_self inside])]
  have received : s.undelivered = some outcome := taken.outcome
  have account := h.account
  rw [received] at account
  refine ⟨⟨?_, ?_, ?_, ?_⟩, ?_⟩
  · obtain ⟨e, r, desk⟩ := desk
    exact ⟨e, r, { desk with }⟩
  · have view : (t.finish id outcome).view = ⟨false, none, false, []⟩ :=
      taken.view.trans (congrArg (View.mk · none false []) free)
    have ready : (t.finish id outcome).ready = s.ready := taken.ready
    rw [ends, ready, view]
    exact h.consumers.take outcome found single
  · exact h.recorded.finish found running ends finished
  · refine h.deliberate.set found ?_ ends ?_
    · intro cancelled
      have delivered := account.ne_cancelled
      cases outcome with
      | cancelled => exact absurd rfl delivered
      | _ => cases cancelled
    · have requests := cancelRequests_eq taken.tasks
      rw [cancelRequests_setStatus] at requests
      exact (t.cancelRequests_setStatus id _).trans requests
  · have untaken : (t.finish id outcome).untaken = s.untaken := taken.untaken
    have nothing : (t.finish id outcome).undelivered = none := taken.nothing
    rw [h.recorded.history_finish found running here ends finished, nothing, untaken]
    exact account.take patience

/-- The task of a pull waits for an operation. -/
theorem joined (h : Sound capacity actions s) (found : s.statuses[id]? = some status)
    (running : status.isOver = false) (awake : ∀ wait, status ≠ .blocked wait)
    (single : Only s.statuses id) {action : Action} (here : actions[id]? = some action)
    (pull : action.isPull = true) {receive : ReceiveId} (patience : Nat)
    (desk : ∃ e r, Desk capacity t e r)
    (joined : Joined ⟨true, some receive, false, s.view.watchers ++ [id]⟩
      (s.setStatus id (.running false)) t) :
    Sound capacity actions
      (t.settle id (.blocked (.pulling receive ⟨.datagram, patience⟩))) := by
  let blocked : TaskStatus := .blocked (.pulling receive ⟨.datagram, patience⟩)
  have waits : (t.setStatus id blocked).statuses = s.statuses.set id blocked := by
    rw [statuses_setStatus, statuses_eq joined.tasks, statuses_setStatus, List.set_set]
  have finished : (t.setStatus id blocked).finished = s.finished := joined.finished
  refine ⟨⟨?_, ?_, ?_, ?_⟩, ?_⟩
  · obtain ⟨e, r, desk⟩ := desk
    exact ⟨e, r, { desk with }⟩
  · have view : (t.setStatus id blocked).view =
        ⟨true, some receive, false, s.view.watchers ++ [id]⟩ := joined.view
    have consumers := h.consumers.join receive patience found running (h.unwatched found awake)
      single (fun action' there => Option.some.inj (here.symm.trans there) ▸ pull) joined.undone
    rw [settle, waits, view]
    exact consumers.turns joined.signals
  · exact h.recorded.set found running waits finished
  · have requests := cancelRequests_eq joined.tasks
    rw [cancelRequests_setStatus] at requests
    exact h.deliberate.set found (fun cancelled => by cases cancelled) waits
      ((t.cancelRequests_setStatus id blocked).trans requests)
  · have before : s.undelivered = none := joined.before
    have after : (t.setStatus id blocked).undelivered = none := joined.after
    have untaken : (t.setStatus id blocked).untaken = s.untaken := joined.untaken
    have account := h.account
    rw [before] at account
    rw [settle, h.recorded.history_set found running waits finished, after, untaken]
    exact account

/-- A task pulls when no task is said to wait. -/
theorem pull (h : Sound capacity actions s) (found : s.statuses[id]? = some status)
    (running : status.isOver = false) (awake : ∀ wait, status ≠ .blocked wait)
    (single : Only s.statuses id) (free : s.view.waiting = false) {patience : Nat}
    (here : actions[id]? = some (.next patience)) (left : Nat) {progress : Progress}
    (pulled : (s.setStatus id (.running false)).pull id ⟨.datagram, left⟩ = (t, progress)) :
    Sound capacity actions (t.settle id progress) := by
  obtain ⟨e, r, desk⟩ := h.desk
  have runs : Desk capacity (s.setStatus id (.running false)) e r := { desk with }
  rcases runs.pull free id left with
    ⟨t', outcome, took, ⟨r', after⟩, taken⟩ | ⟨t', receive, waits, ⟨r', after⟩, joined⟩
  · cases pulled.symm.trans took
    exact h.taken found running single free here ⟨e, r', after⟩ taken
  · cases pulled.symm.trans waits
    exact h.joined found running awake single here rfl left ⟨e, r', after⟩ joined

/-- A task goes on after it waited in a pull. -/
theorem resumePull (h : Sound capacity actions s) {receive : ReceiveId} {left : Nat}
    {wake : Wake}
    (found : s.statuses[id]? = some (.woken (.pulling receive ⟨.datagram, left⟩) wake))
    {progress : Progress}
    (resumed : (s.setStatus id (.running false)).resumePull id receive ⟨.datagram, left⟩ wake =
      (t, progress)) :
    Sound capacity actions (t.settle id progress) := by
  obtain ⟨e, r, desk⟩ := h.desk
  -- A task that was told may run while its signal is still queued, so the session is not sound
  -- on the way: the new status is put in place of the old one at once.
  have runs : Desk capacity (s.setStatus id (.running false)) e r := { desk with }
  have single := h.consumers.only found rfl
  have inside := (List.getElem?_eq_some_iff.mp found).1
  obtain ⟨action, here, follows⟩ := h.action found
  cases follows with
  | woken _ pull current told =>
    obtain ⟨patience, rfl⟩ : ∃ patience, action = .next patience := by
      cases action with
      | next patience => exact ⟨patience, rfl⟩
      | _ => cases pull
    have free : (s.setReceiver fun r => { r with waiting := false }).view.waiting = false := by
      rw [desk.view_setWaiting false]
    cases cancelled : wake.isCancelled with
    | false =>
      cases wake with
      | dueCancelled => cases cancelled
      | cancelled => cases cancelled
      | due =>
        obtain ⟨t', outcome, took, ⟨r', after⟩, taken⟩ :=
          runs.resumePull_due current (told (by simp)) id left
        cases resumed.symm.trans took
        exact h.unwait.taken found rfl single free here ⟨e, r', after⟩ taken
    | true =>
      cases left with
      | zero =>
        rw [runs.resumePull_cancelled current cancelled id] at resumed
        cases resumed
        have runs := statuses_run inside
        have idle : isIdle (.next patience, .cancelled) = true := rfl
        have ends := h.unwait.finish found rfl (by simp)
          (fun waiting => absurd (free.symm.trans waiting) (by simp)) here (fun _ => cancelled) idle
        rw [← finish_setStatus _ id (.running false)] at ends
        rw [settle_finished (s := (s.setStatus id (.running false)).setReceiver _) runs]
        exact ends
      | succ left =>
        rw [runs.resumePull_patient current cancelled id left] at resumed
        exact h.unwait.pull found rfl (by simp) single free here left resumed

/-- The task of an arrival runs to its end. -/
theorem feed (h : Sound capacity actions s) (found : s.statuses[id]? = some (.running false))
    {arrival : Arrival} (here : actions[id]? = some (.feed arrival)) :
    Sound capacity actions ((s.feed arrival).settle id (.finished (.value .nothing))) := by
  obtain ⟨e, r, desk⟩ := h.desk
  obtain ⟨⟨e', after⟩, silent, untaken⟩ := desk.feed arrival
  -- Until its task ends the arrival is in the inbox and not in the history, so that only the
  -- standing can be kept on the way.
  obtain ⟨standing, history⟩ := h.toStanding.silent silent ⟨e', r, after⟩
  have runs : (s.feed arrival).statuses[id]? = some (.running false) := by
    rw [statuses_eq silent.tasks, found]
  rw [settle_finished runs]
  refine ⟨standing.finish runs rfl (by simp) (fun _ => rfl) (by simp), ?_⟩
  rw [standing.recorded.history_finish runs rfl here (statuses_finish _ id _) rfl, history]
  have undelivered : ((s.feed arrival).finish id (.value .nothing)).undelivered = s.undelivered :=
    silent.undelivered
  have added : ((s.feed arrival).finish id (.value .nothing)).untaken = s.untaken ++ [arrival] :=
    untaken
  rw [undelivered, added]
  exact h.account.feed arrival

/-- The task of a cancellation runs to its end, which may be a cancellation of its own. -/
theorem cancel (h : Sound capacity actions s) (found : s.statuses[id]? = some (.running false))
    {name : Text} (here : actions[id]? = some (.cancel name)) {progress : Progress}
    (performed : s.perform id (.cancel name) = (t, progress)) :
    Sound capacity actions (t.settle id progress) := by
  have ends {t : Session} (sound : Sound capacity actions t) {cancelled : Bool}
      (found : t.statuses[id]? = some (.running cancelled)) {outcome : Outcome}
      (other : outcome ≠ .cancelled) :
      Sound capacity actions (t.settle id (.finished outcome)) := by
    rw [settle_running found]
    refine sound.finish found rfl (by simp) (fun _ => rfl) here ?_ rfl
    cases cancelled with
    | false => exact fun same => absurd same other
    | true => exact fun _ => rfl
  rw [perform] at performed
  cases known : s.taskId? name with
  | none =>
    rw [known] at performed
    cases performed
    exact ends h found (by simp)
  | some target =>
    rw [known] at performed
    cases performed
    obtain ⟨cancelled, runs⟩ := h.status_cancelTask found target
    exact ends (h.cancelTask target) runs (by simp)

theorem resume (h : Sound capacity actions s) (id : TaskId) :
    Sound capacity actions (s.resume id) := by
  rw [resume_eq]
  cases found : s.statuses[id]? with
  | none => exact h
  | some status =>
    have inside := (List.getElem?_eq_some_iff.mp found).1
    obtain ⟨action, here, follows⟩ := h.action found
    cases follows with
    | running cancelled => exact h
    | blocked patience pull joined => exact h
    | finished outcome => exact h
    | woken patience pull joined told => exact h.resumePull found rfl
    | queued cancelled traffic =>
      cases cancelled with
      | true =>
        have idle : isIdle (action, .cancelled) = true := by
          cases action with
          | _ => rfl
        exact h.finish found rfl (by simp) (fun _ => rfl) here (fun _ => rfl) idle
      | false =>
        obtain ⟨e, r, desk⟩ := h.desk
        have sat : Desk capacity (s.setStatus id (.running false)) e r := { desk with }
        have runs := statuses_run inside
        dsimp only
        rw [begin_up sat.link]
        cases action with
        | feed arrival => exact (h.run found).feed runs here
        | cancel name => exact (h.run found).cancel runs here rfl
        | next patience =>
          have single := h.consumers.only found rfl
          have free := h.consumers.free found single rfl
          rw [sat.perform_next]
          exact h.pull found rfl (by simp) single free here patience rfl
        | _ => cases traffic

/-- Whoever is given a turn. -/
theorem turnAt (h : Sound capacity actions s) (place : Nat) :
    Sound capacity actions (s.turnAt place) := by
  rw [Session.turnAt]
  cases found : s.ready[place]? with
  | none => exact h
  | some turn =>
    have member : turn ∈ s.ready := List.mem_of_getElem? found
    have rest : Sound capacity actions { s with ready := s.ready.eraseIdx place } :=
      h.turns fun _ left => List.mem_of_mem_eraseIdx left
    cases turn with
    | resume id => exact rest.resume id
    | signal id => exact rest.signal (h.consumers.signals id member)
    | receive id => exact rest.turnReceive id

end Sound

end Osc.Session
