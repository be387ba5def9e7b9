import Osc.Proofs.Schedule

/-!
Histories: what the tasks of a session are at, and which of them have ended with what. The
history only grows, by the task that ends. Arrivals, pulls and what lies between them are
balanced over it.
-/

namespace Osc

/-- The status of a task after a turn. -/
def Progress.status : Progress → TaskStatus
  | .finished outcome => .finished outcome
  | .blocked wait => .blocked wait

namespace Session

def statuses (s : Session) : List TaskStatus := s.tasks.map Task.status

/-- The tasks that are listed as ended are over. -/
def Recorded (s : Session) : Prop :=
  ∀ id ∈ s.finished, ∃ outcome, s.statuses[id]? = some (.finished outcome)

variable {actions : List Action} {s t : Session} {id : TaskId} {status : TaskStatus}

theorem statuses_setStatus (s : Session) (id : TaskId) (status : TaskStatus) :
    (s.setStatus id status).statuses = s.statuses.set id status := by
  apply List.ext_getElem?
  intro i
  simp only [statuses, setStatus, List.getElem?_map, List.getElem?_modify, List.getElem?_set,
    List.length_map]
  by_cases same : id = i
  · subst same
    by_cases inside : id < s.tasks.length
    · simp [inside]
    · simp [inside]
  · simp [same]

theorem statuses_finish (s : Session) (id : TaskId) (outcome : Outcome) :
    (s.finish id outcome).statuses = s.statuses.set id (.finished outcome) :=
  s.statuses_setStatus id (.finished outcome)

theorem status_eq (found : s.statuses[id]? = some status) :
    (s.task? id).map Task.status = some status := by
  rw [task?, ← found, statuses, List.getElem?_map]

theorem outcome?_eq (s : Session) (id : TaskId) :
    (s.task? id).bind Task.outcome? = s.statuses[id]?.bind fun
      | .finished outcome => some outcome
      | _ => none := by
  rw [task?, statuses, List.getElem?_map]
  cases s.tasks[id]? <;> rfl

/-- A task that runs ends with its outcome, or cancelled if it cancelled itself. -/
theorem settle_running {cancelled : Bool} (found : s.statuses[id]? = some (.running cancelled))
    (outcome : Outcome) :
    s.settle id (.finished outcome) = s.finish id (if cancelled then .cancelled else outcome) := by
  rw [settle, status_eq found]
  cases cancelled <;> rfl

theorem settle_finished (found : s.statuses[id]? = some (.running false)) (outcome : Outcome) :
    s.settle id (.finished outcome) = s.finish id outcome := settle_running found outcome

theorem finish_setStatus (s : Session) (id : TaskId) (status : TaskStatus) (outcome : Outcome) :
    (s.setStatus id status).finish id outcome = s.finish id outcome := by
  simp only [finish, setStatus, List.modify_modify_eq]
  rfl

/-- To end or to block changes nothing but the task. -/
theorem settle_stays (s : Session) (id : TaskId) (progress : Progress) :
    (s.settle id progress).link = s.link ∧ (s.settle id progress).handles = s.handles ∧
      (s.settle id progress).references = s.references ∧
      (s.settle id progress).codec = s.codec := by
  cases progress with
  | blocked wait => exact ⟨rfl, rfl, rfl, rfl⟩
  | finished outcome =>
    rw [settle]
    split <;> exact ⟨rfl, rfl, rfl, rfl⟩

section Turns

variable {place : Nat} {e : Endpoint}

theorem resume_eq (s : Session) (id : TaskId) :
    s.resume id = match s.statuses[id]? with
      | some (.queued _ true) => s.finish id .cancelled
      | some (.queued action false) =>
        let p := (s.setStatus id (.running false)).begin id action
        p.1.settle id p.2
      | some (.woken wait wake) =>
        let p := (s.setStatus id (.running false)).proceed id wake wait
        p.1.settle id p.2
      | _ => s := by
  rw [resume, statuses, List.getElem?_map]
  rfl

theorem begin_up (up : s.link = .up e) (id : TaskId) (action : Action) :
    s.begin id action = s.perform id action := by
  simp only [begin, up]

theorem statuses_run (inside : id < s.statuses.length) :
    (s.setStatus id (.running false)).statuses[id]? = some (.running false) := by
  rw [statuses_setStatus]
  exact List.getElem?_set_self inside

theorem status_settle (runs : s.statuses[id]? = some (.running false)) (progress : Progress) :
    (s.settle id progress).statuses[id]? = some progress.status := by
  have inside := (List.getElem?_eq_some_iff.mp runs).1
  cases progress with
  | blocked wait =>
    rw [settle, statuses_setStatus]
    exact List.getElem?_set_self inside
  | finished outcome =>
    rw [settle_finished runs, statuses_finish]
    exact List.getElem?_set_self inside

/-- The session in which a task runs that was given the turn at a place. -/
def begun (s : Session) (place : Nat) (id : TaskId) : Session :=
  { s with ready := s.ready.eraseIdx place }.setStatus id (.running false)

theorem statuses_begun (place : Nat) (inside : id < s.statuses.length) :
    (s.begun place id).statuses[id]? = some (.running false) :=
  statuses_run (s := { s with ready := s.ready.eraseIdx place }) inside

theorem turnAt_resume (first : s.ready[place]? = some (.resume id)) :
    s.turnAt place = { s with ready := s.ready.eraseIdx place }.resume id := by
  rw [turnAt, first]
  rfl

/-- The first turn of a task, over an endpoint that is there. -/
theorem turnAt_queued (up : s.link = .up e) (first : s.ready[place]? = some (.resume id))
    {action : Action} (queued : s.statuses[id]? = some (.queued action false)) :
    s.turnAt place =
      let p := (s.begun place id).perform id action
      p.1.settle id p.2 := by
  have here : { s with ready := s.ready.eraseIdx place }.statuses[id]? =
      some (.queued action false) := queued
  rw [turnAt_resume first, resume_eq, here]
  change ((s.begun place id).begin id action).1.settle id ((s.begun place id).begin id action).2 = _
  rw [begin_up (s := s.begun place id) up]

/-- The turn of a task that waited. -/
theorem turnAt_woken (first : s.ready[place]? = some (.resume id)) {wait : Wait} {wake : Wake}
    (woken : s.statuses[id]? = some (.woken wait wake)) :
    s.turnAt place =
      let p := (s.begun place id).proceed id wake wait
      p.1.settle id p.2 := by
  have here : { s with ready := s.ready.eraseIdx place }.statuses[id]? = some (.woken wait wake) :=
    woken
  rw [turnAt_resume first, resume_eq, here]
  rfl

/-- A task that ends in its first turn without a change to the session. -/
theorem turnAt_ends (up : s.link = .up e) (first : s.ready[place]? = some (.resume id))
    {action : Action} (queued : s.statuses[id]? = some (.queued action false)) {outcome : Outcome}
    (ends : (s.begun place id).perform id action = (s.begun place id, .finished outcome)) :
    s.turnAt place = { s with ready := s.ready.eraseIdx place }.finish id outcome := by
  have runs := s.statuses_begun place (List.getElem?_eq_some_iff.mp queued).1
  rw [turnAt_queued up first queued, ends]
  exact (settle_finished runs outcome).trans (finish_setStatus _ id _ outcome)

end Turns

/-- The session in which a task was asked to stop once more. -/
def asked (s : Session) (id : TaskId) : Session :=
  { s with tasks := s.tasks.modify id fun t => { t with cancelRequests := t.cancelRequests + 1 } }

theorem statuses_asked (s : Session) (id : TaskId) : (s.asked id).statuses = s.statuses := by
  apply List.ext_getElem?
  intro i
  simp only [statuses, asked, List.getElem?_map, List.getElem?_modify]
  cases s.tasks[i]? with
  | none => rfl
  | some task => by_cases same : id = i <;> simp [same]

theorem cancelTask_eq (s : Session) (id : TaskId) :
    (s.cancelTask id).1 = match s.statuses[id]? with
      | none | some (.finished _) => s
      | some (.queued action _) => (s.asked id).setStatus id (.queued action true)
      | some (.running _) => (s.asked id).setStatus id (.running true)
      | some (.blocked wait) => (s.asked id).cancelWait id wait
      | some (.woken wait wake) => (s.asked id).setStatus id (.woken wait wake.cancel) := by
  have status : s.statuses[id]? = (s.task? id).map Task.status := List.getElem?_map
  rw [cancelTask, status]
  cases (s.task? id).map Task.status with
  | none => rfl
  | some status => cases status <;> rfl

theorem statuses_eq (same : t.tasks = s.tasks) : t.statuses = s.statuses := by
  rw [statuses, statuses, same]

theorem cancelRequests_eq (same : t.tasks = s.tasks) : t.cancelRequests = s.cancelRequests := by
  funext id
  rw [cancelRequests, cancelRequests, task?, task?, same]

theorem cancelRequests_setStatus (s : Session) (id : TaskId) (status : TaskStatus) :
    (s.setStatus id status).cancelRequests = s.cancelRequests := by
  funext other
  simp only [cancelRequests, task?, setStatus, List.getElem?_modify]
  cases s.tasks[other]? with
  | none => rfl
  | some task => by_cases same : id = other <;> simp [same]

/-- A task that is asked to stop was asked at least once. -/
theorem cancelRequests_asked (found : s.statuses[id]? = some status) :
    (s.asked id).cancelRequests id ≠ 0 := by
  rw [statuses, List.getElem?_map] at found
  obtain ⟨task, there, -⟩ := Option.map_eq_some_iff.mp found
  simp [cancelRequests, task?, asked, there]

theorem le_cancelRequests_asked (s : Session) (id other : TaskId) :
    s.cancelRequests other ≤ (s.asked id).cancelRequests other := by
  simp only [cancelRequests, task?, asked, List.getElem?_modify]
  cases s.tasks[other]? with
  | none => exact Nat.le_refl _
  | some task => by_cases same : id = other <;> simp [same]

/-- Only tasks that were asked to stop are cancelled. -/
def Deliberate (s : Session) : Prop :=
  ∀ (id : TaskId) (status : TaskStatus), s.statuses[id]? = some status →
    status.isCancelled = true → s.cancelRequests id ≠ 0

namespace Deliberate

theorem keep (h : s.Deliberate) (statuses : t.statuses = s.statuses)
    (requests : ∀ id, s.cancelRequests id ≤ t.cancelRequests id) : t.Deliberate := by
  intro id status found cancelled
  rw [statuses] at found
  have asked := h id status found cancelled
  have more := requests id
  omega

/-- A task is not cancelled on its own account when it goes on. -/
theorem set (h : s.Deliberate) (found : s.statuses[id]? = some status) {new : TaskStatus}
    (asked : new.isCancelled = true → status.isCancelled = true ∨ s.cancelRequests id ≠ 0)
    (statuses : t.statuses = s.statuses.set id new)
    (requests : t.cancelRequests = s.cancelRequests) : t.Deliberate := by
  intro other status' found' cancelled
  rw [statuses] at found'
  rw [requests]
  by_cases same : id = other
  · subst same
    rw [List.getElem?_set_self (List.getElem?_eq_some_iff.mp found).1] at found'
    cases found'
    rcases asked cancelled with before | requested
    · exact h id status found before
    · exact requested
  · rw [List.getElem?_set_ne same] at found'
    exact h other status' found' cancelled

/-- A task that ends cancelled was asked to stop. -/
theorem asked (h : s.Deliberate) {task : Task} (member : task ∈ s.tasks)
    (cancelled : task.outcome? = some .cancelled) : task.cancelRequests ≠ 0 := by
  obtain ⟨id, inside⟩ := List.mem_iff_getElem?.mp member
  have ended : task.status = .finished .cancelled := by
    obtain ⟨name, status, requests⟩ := task
    cases status with
    | finished outcome => exact congrArg TaskStatus.finished (Option.some.inj cancelled)
    | _ => cases cancelled
  have found : s.statuses[id]? = some (.finished .cancelled) := by
    rw [Session.statuses, List.getElem?_map, inside, ← ended]
    rfl
  have requests : s.cancelRequests id = task.cancelRequests := by
    rw [cancelRequests, task?, inside]
    rfl
  rw [← requests]
  exact h id _ found rfl

end Deliberate

/-- Histories are the same when tasks that are over stay so, and no others end. -/
theorem history_eq (finished : t.finished = s.finished)
    (same : ∀ id ∈ s.finished, t.statuses[id]? = s.statuses[id]?) :
    t.history actions = s.history actions := by
  rw [history, history, finished]
  apply List.filterMap_congr
  intro id member
  rw [outcome?_eq, outcome?_eq, same id member]

namespace Recorded

/-- Tasks that are over are not the one that goes on. -/
theorem getElem?_set (h : s.Recorded) (found : s.statuses[id]? = some status)
    (running : status.isOver = false) (new : TaskStatus) :
    ∀ other ∈ s.finished, (s.statuses.set id new)[other]? = s.statuses[other]? := by
  intro other member
  have different : id ≠ other := by
    rintro rfl
    obtain ⟨outcome, ended⟩ := h id member
    cases found.symm.trans ended
    cases running
  exact List.getElem?_set_ne different

/-- A task that goes on to another status is not in the history, and neither is any other. -/
theorem history_set (h : s.Recorded) (found : s.statuses[id]? = some status)
    (running : status.isOver = false) {new : TaskStatus}
    (statuses : t.statuses = s.statuses.set id new) (finished : t.finished = s.finished) :
    t.history actions = s.history actions := by
  apply history_eq finished
  intro other member
  rw [statuses]
  exact h.getElem?_set found running new other member

theorem set (h : s.Recorded) (found : s.statuses[id]? = some status)
    (running : status.isOver = false) {new : TaskStatus}
    (statuses : t.statuses = s.statuses.set id new) (finished : t.finished = s.finished) :
    t.Recorded := by
  intro other member
  rw [finished] at member
  rw [statuses, h.getElem?_set found running new other member]
  exact h other member

/-- The history grows by the task that ends. -/
theorem history_finish (h : s.Recorded) (found : s.statuses[id]? = some status)
    (running : status.isOver = false) {action : Action} (here : actions[id]? = some action)
    {outcome : Outcome} (statuses : t.statuses = s.statuses.set id (.finished outcome))
    (finished : t.finished = s.finished ++ [id]) :
    t.history actions = s.history actions ++ [(action, outcome)] := by
  have inside := (List.getElem?_eq_some_iff.mp found).1
  have before : { t with finished := s.finished }.history actions = s.history actions :=
    h.history_set found running statuses rfl
  have ended : (t.task? id).bind Task.outcome? = some outcome := by
    rw [outcome?_eq, statuses, List.getElem?_set_self inside]
    rfl
  rw [← before, history, finished, List.filterMap_append]
  simp only [List.filterMap_cons, List.filterMap_nil, here, Option.bind_some, ended,
    Option.map_some]
  rfl

theorem finish (h : s.Recorded) (found : s.statuses[id]? = some status)
    (running : status.isOver = false) {outcome : Outcome}
    (statuses : t.statuses = s.statuses.set id (.finished outcome))
    (finished : t.finished = s.finished ++ [id]) : t.Recorded := by
  intro other member
  rw [finished] at member
  rcases List.mem_append.mp member with old | new
  · rw [statuses, h.getElem?_set found running _ other old]
    exact h other old
  · cases List.mem_singleton.mp new
    rw [statuses]
    exact ⟨outcome, List.getElem?_set_self (List.getElem?_eq_some_iff.mp found).1⟩

/-- A task that is started adds nothing to the history yet. -/
theorem history_spawn (h : s.Recorded) (length : s.statuses.length = actions.length)
    (name : Text) (action : Action) :
    (s.spawn name action).history (actions ++ [action]) = s.history actions := by
  have statuses : (s.spawn name action).statuses = s.statuses ++ [.queued action false] :=
    List.map_append
  rw [history, history]
  apply List.filterMap_congr
  intro id member
  obtain ⟨outcome, ended⟩ := h id member
  have inside : id < s.statuses.length := (List.getElem?_eq_some_iff.mp ended).1
  rw [outcome?_eq, outcome?_eq, statuses, List.getElem?_append_left inside,
    List.getElem?_append_left (length ▸ inside)]

theorem keep (h : s.Recorded) (statuses : t.statuses = s.statuses)
    (finished : t.finished = s.finished) : t.Recorded := by
  rw [Recorded, statuses, finished]
  exact h

end Recorded

/-- Arrivals in order: what pulls have got, what was received, and what was not. -/
def Balanced (capacity : Nat) (history : List (Action × Outcome)) (undelivered : Option Outcome)
    (untaken : List Arrival) : Prop :=
  (arrived history).map (Arrival.delivery capacity) =
    pulled history ++ undelivered.toList ++ untaken.map (Arrival.delivery capacity)

/-- The end of a task that is neither an arrival nor the end of a pull which got something. -/
def isIdle : Action × Outcome → Bool
  | (.feed _, .value .nothing) => false
  | (.next _, .cancelled) => true
  | (.next _, _) => false
  | _ => true

theorem arrived_append (first second : List (Action × Outcome)) :
    arrived (first ++ second) = arrived first ++ arrived second := List.filterMap_append

theorem pulled_append (first second : List (Action × Outcome)) :
    pulled (first ++ second) = pulled first ++ pulled second := List.filterMap_append

namespace Balanced

variable {capacity : Nat} {history : List (Action × Outcome)} {undelivered : Option Outcome}
  {untaken : List Arrival}

theorem start : Balanced capacity [] none [] := rfl

theorem feed (h : Balanced capacity history undelivered untaken) (arrival : Arrival) :
    Balanced capacity (history ++ [(.feed arrival, .value .nothing)]) undelivered
      (untaken ++ [arrival]) := by
  rw [Balanced, arrived_append, pulled_append, List.map_append, h, List.map_append]
  simp [arrived, pulled]

theorem idle (h : Balanced capacity history undelivered untaken) {entry : Action × Outcome}
    (idle : isIdle entry = true) :
    Balanced capacity (history ++ [entry]) undelivered untaken := by
  have nobody : arrived [entry] = [] ∧ pulled [entry] = [] := by
    obtain ⟨action, outcome⟩ := entry
    cases action with
    | feed arrival =>
      cases outcome with
      | value result =>
        cases result with
        | nothing => cases idle
        | _ => exact ⟨rfl, rfl⟩
      | _ => exact ⟨rfl, rfl⟩
    | next patience =>
      cases outcome with
      | cancelled => exact ⟨rfl, rfl⟩
      | _ => cases idle
    | _ => exact ⟨rfl, rfl⟩
  rw [Balanced, arrived_append, pulled_append, nobody.1, nobody.2, List.append_nil, List.append_nil]
  exact h

theorem receive {arrival : Arrival} (h : Balanced capacity history none (arrival :: untaken)) :
    Balanced capacity history (some (arrival.delivery capacity)) untaken := by
  rw [Balanced, h]
  simp

/-- Nothing that was received is a cancellation. -/
theorem ne_cancelled {outcome : Outcome}
    (h : Balanced capacity history (some outcome) untaken) : outcome ≠ .cancelled := by
  have member : outcome ∈ (arrived history).map (Arrival.delivery capacity) := by
    rw [h]
    simp
  obtain ⟨arrival, -, rfl⟩ := List.mem_map.mp member
  cases arrival <;> simp [Arrival.delivery]

theorem take {outcome : Outcome} (h : Balanced capacity history (some outcome) untaken)
    (patience : Nat) :
    Balanced capacity (history ++ [(.next patience, outcome)]) none untaken := by
  have got : pulled [(.next patience, outcome)] = [outcome] := by
    cases outcome with
    | cancelled => exact absurd rfl h.ne_cancelled
    | _ => rfl
  rw [Balanced, arrived_append, pulled_append, got]
  have none : arrived [(.next patience, outcome)] = [] := rfl
  rw [none, List.append_nil, h]
  simp

end Balanced

end Session

end Osc
