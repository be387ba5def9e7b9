import Osc.Proofs.Steps

/-!
Sessions at rest. Nobody is forgotten: a task that is not over has a turn, or waits for an
operation that will tell it, and the operation has a turn or waits while there is nothing to
take. So when no turn is left, a task that is not over waits for an arrival that has not come.
-/

namespace Osc.Session

/-- A task that is not over has a turn, or will be told; one that runs has its turn in hand. -/
inductive Attended (hands turns : List Turn) (watchers : List TaskId) (id : TaskId) :
    TaskStatus → Prop where
  | queued (action : Action) (cancelled : Bool) (turn : .resume id ∈ turns) :
      Attended hands turns watchers id (.queued action cancelled)
  | running (cancelled : Bool) (turn : .resume id ∈ hands) :
      Attended hands turns watchers id (.running cancelled)
  | woken (wait : Wait) (wake : Wake) (turn : .resume id ∈ turns) :
      Attended hands turns watchers id (.woken wait wake)
  | watching (wait : Wait) (watches : id ∈ watchers) :
      Attended hands turns watchers id (.blocked wait)
  | told (wait : Wait) (turn : .signal id ∈ turns) :
      Attended hands turns watchers id (.blocked wait)
  | finished (outcome : Outcome) : Attended hands turns watchers id (.finished outcome)

/-- Nobody is forgotten, while some turns are in hand and the others in the queue. -/
structure Lively (hands : List Turn) (s : Session) : Prop where
  tasks : ∀ (id : TaskId) (status : TaskStatus), s.statuses[id]? = some status →
    Attended hands (hands ++ s.ready) s.view.watchers id status
  operation : s.Operates (hands ++ s.ready)

variable {capacity : Nat} {actions : List Action} {hands : List Turn} {s t : Session}
  {id : TaskId} {status : TaskStatus}

theorem Attended.mono {turns more : List Turn} {watchers others : List TaskId}
    (h : Attended hands turns watchers id status) (resumes : .resume id ∈ turns → .resume id ∈ more)
    (signals : .signal id ∈ turns → .signal id ∈ more)
    (watches : id ∈ watchers → id ∈ others ∨ .signal id ∈ more) :
    Attended hands more others id status := by
  cases h with
  | queued action cancelled turn => exact .queued action cancelled (resumes turn)
  | running cancelled turn => exact .running cancelled turn
  | woken wait wake turn => exact .woken wait wake (resumes turn)
  | watching wait member =>
    rcases watches member with still | told
    · exact .watching wait still
    · exact .told wait told
  | told wait turn => exact .told wait (signals turn)
  | finished outcome => exact .finished outcome

theorem Attended.hold {turns : List Turn} {watchers : List TaskId}
    (h : Attended [] turns watchers id status) (hands : List Turn) :
    Attended hands turns watchers id status := by
  cases h with
  | queued action cancelled turn => exact .queued action cancelled turn
  | running cancelled turn => cases turn
  | woken wait wake turn => exact .woken wait wake turn
  | watching wait watches => exact .watching wait watches
  | told wait turn => exact .told wait turn
  | finished outcome => exact .finished outcome

/-- A turn in hand that is not spent on a task may be given up. -/
theorem Attended.drop {turn : Turn} {ready : List Turn} {watchers : List TaskId}
    (h : Attended [turn] ([turn] ++ ready) watchers id status)
    (resumes : turn = .resume id → status.isOver = true ∨ ∃ wait, status = .blocked wait)
    (signals : turn = .signal id → ∀ wait, status ≠ .blocked wait) :
    Attended [] ready watchers id status := by
  have left {wanted : Turn} (member : wanted ∈ [turn] ++ ready) (other : turn ≠ wanted) :
      wanted ∈ ready :=
    (List.mem_cons.mp member).resolve_left (Ne.symm other)
  cases h with
  | queued action cancelled member =>
    refine .queued action cancelled (left member ?_)
    intro same
    simpa [TaskStatus.isOver] using resumes same
  | running cancelled member =>
    simpa [TaskStatus.isOver] using resumes (List.mem_singleton.mp member).symm
  | woken wait wake member =>
    refine .woken wait wake (left member ?_)
    intro same
    simpa [TaskStatus.isOver] using resumes same
  | watching wait watches => exact .watching wait watches
  | told wait member => exact .told wait (left member fun same => signals same wait rfl)
  | finished outcome => exact .finished outcome

private theorem done_of_undelivered {outcome : Outcome} (h : s.undelivered = some outcome) :
    s.view.done = true := by
  rw [undelivered] at h
  split at h
  · next receive under =>
    obtain ⟨found, there, -⟩ := Option.map_eq_some_iff.mp h
    simp [view, under, Receive.isFinished, there]
  · cases h

namespace Lively

theorem mem_hands {turns : List Turn} {turn : Turn} (ready : s.ready ⊆ turns)
    (member : turn ∈ hands ++ s.ready) : turn ∈ hands ++ turns :=
  (List.mem_append.mp member).elim (List.mem_append_left _)
    fun queued => List.mem_append_right _ (ready queued)

/-- All tasks stay as they are. -/
theorem keep (h : Lively hands s) (tasks : t.tasks = s.tasks) (ready : s.ready ⊆ t.ready)
    (watchers : ∀ id ∈ s.view.watchers, id ∈ t.view.watchers ∨ .signal id ∈ t.ready)
    (operation : t.Operates (hands ++ t.ready)) : Lively hands t := by
  refine ⟨?_, operation⟩
  intro id status found
  rw [statuses_eq tasks] at found
  refine (h.tasks id status found).mono (mem_hands ready) (mem_hands ready) ?_
  intro watches
  exact (watchers id watches).imp_right (List.mem_append_right hands)

/-- One task goes on, and is not forgotten itself. A turn to tell it may be given up. -/
theorem replace (h : Lively hands s) {new : TaskStatus}
    (statuses : t.statuses = s.statuses.set id new)
    (ready : ∀ turn ∈ s.ready, turn ≠ .signal id → turn ∈ t.ready)
    (here : Attended hands (hands ++ t.ready) t.view.watchers id new)
    (watchers : ∀ other ∈ s.view.watchers, other ≠ id → other ∈ t.view.watchers)
    (operation : t.Operates (hands ++ t.ready)) : Lively hands t := by
  refine ⟨?_, operation⟩
  intro other status found
  rw [statuses, List.getElem?_set] at found
  split at found
  · next same =>
    subst same
    split at found
    · cases found
      exact here
    · cases found
  · next different =>
    have kept {turn : Turn} (unlike : turn ≠ .signal id) (member : turn ∈ hands ++ s.ready) :
        turn ∈ hands ++ t.ready :=
      (List.mem_append.mp member).elim (List.mem_append_left _)
        fun queued => List.mem_append_right _ (ready turn queued unlike)
    refine (h.tasks other status found).mono (kept (by simp))
      (kept (by simpa using Ne.symm different)) ?_
    exact fun watches => .inl (watchers other watches (Ne.symm different))

theorem setStatus (h : Lively hands s) {new : TaskStatus}
    (here : Attended hands (hands ++ s.ready) s.view.watchers id new) :
    Lively hands (s.setStatus id new) :=
  h.replace (s.statuses_setStatus id new) (fun _ member _ => member) here
    (fun _ member _ => member) h.operation

/-- A task starts to run in its turn. -/
theorem run (h : Lively [.resume id] s) : Lively [.resume id] (s.setStatus id (.running false)) :=
  h.setStatus (.running false List.mem_cons_self)

/-- No operation misses a turn that is in hand for a task. -/
theorem operates {turn : Turn} (h : Lively [turn] s) (other : ∀ receive, turn ≠ .receive receive) :
    s.Operates s.ready := by
  refine h.operation.mono ?_
  intro receive _ member
  exact (List.mem_cons.mp member).resolve_left (Ne.symm (other receive))

/-- The turn of a task is spent when the task ends or waits. -/
theorem spend (h : Lively [.resume id] s)
    (spent : ∀ status ∈ s.statuses[id]?, status.isOver = true ∨ ∃ wait, status = .blocked wait) :
    Lively [] s where
  tasks other status found := by
    refine (h.tasks other status found).drop ?_ (fun same => by cases same)
    rintro ⟨⟩
    exact spent status found
  operation := h.operates (by simp)

/-- A signal is spent on a task that does not wait. -/
theorem spend_signal (h : Lively [.signal id] s)
    (spent : ∀ wait, s.statuses[id]? ≠ some (.blocked wait)) : Lively [] s where
  tasks other status found := by
    refine (h.tasks other status found).drop (fun same => by cases same) ?_
    rintro ⟨⟩ wait rfl
    exact spent wait found
  operation := h.operates (by simp)

theorem finish (h : Lively [.resume id] s) (outcome : Outcome) :
    Lively [] (s.finish id outcome) := by
  have statuses := s.statuses_finish id outcome
  have ended : Lively [.resume id] (s.finish id outcome) :=
    h.replace statuses (fun _ member _ => member) (.finished outcome)
      (fun _ member _ => member) h.operation
  refine ended.spend ?_
  intro status found
  rw [statuses, Option.mem_def, List.getElem?_set_self'] at found
  obtain ⟨_, -, rfl⟩ := Option.map_eq_some_iff.mp found
  exact .inl rfl

/-- The turn of a task ends with its end. -/
theorem settle (h : Lively [.resume id] s) (outcome : Outcome) :
    Lively [] (s.settle id (.finished outcome)) := by
  rw [Session.settle]
  split
  · exact h.finish .cancelled
  · exact h.finish outcome

/-- The turn of a task ends with a wait for the operation under way. -/
theorem block (h : Lively [.resume id] s) (watches : id ∈ s.view.watchers) (wait : Wait) :
    Lively [] (s.settle id (.blocked wait)) := by
  refine (h.setStatus (.watching wait watches)).spend ?_
  intro status found
  rw [statuses_setStatus, Option.mem_def, List.getElem?_set_self'] at found
  obtain ⟨_, -, rfl⟩ := Option.map_eq_some_iff.mp found
  exact .inr ⟨wait, rfl⟩

theorem spawn (h : Lively [] s) (name : Text) (action : Action) :
    Lively [] (s.spawn name action) := by
  have ready : s.ready ⊆ (s.spawn name action).ready := List.subset_append_left ..
  refine ⟨?_, h.operation.mono fun _ _ member => ready member⟩
  intro id status found
  have statuses : (s.spawn name action).statuses = s.statuses ++ [.queued action false] :=
    List.map_append
  rw [statuses] at found
  rcases getElem?_concat_eq_some.mp found with old | ⟨rfl, rfl⟩
  · exact (h.tasks id status old).mono (mem_hands ready) (mem_hands ready) .inl
  · refine .queued action false ?_
    simp [Session.spawn, queue, Session.statuses]

/-- Tasks are told of the end of an operation. -/
theorem turnReceive {receive : ReceiveId} (h : Lively [.receive receive] s)
    (desk : ∃ e r, Desk capacity s e r) : Lively [] (s.turnReceive receive) := by
  obtain ⟨e, r, desk⟩ := desk
  have tended (id : TaskId) (status : TaskStatus) (found : s.statuses[id]? = some status) :
      Attended [] s.ready s.view.watchers id status :=
    (h.tasks id status found).drop (fun same => by cases same) (fun same => by cases same)
  obtain ⟨-, passed | received⟩ := desk.turnReceive receive
  · refine ⟨?_, passed.operates h.operation⟩
    intro id status found
    rw [statuses_eq passed.tasks] at found
    rw [passed.view]
    exact (tended id status found).mono (fun member => passed.ready member)
      (fun member => passed.ready member) .inl
  · have ready : s.ready ⊆ (s.turnReceive receive).ready := by
      rw [received.ready]
      exact List.subset_append_left ..
    refine ⟨?_, operates_done (by rw [received.view])⟩
    intro id status found
    rw [statuses_eq received.tasks] at found
    refine (tended id status found).mono (fun turn => ready turn) (fun turn => ready turn) ?_
    intro watches
    exact .inr (by simp [received.ready, watches])

/-- A task that was told has a turn. -/
theorem signal (h : Lively [.signal id] s) : Lively [] (s.signal id) := by
  have status : (s.task? id).map Task.status = s.statuses[id]? := List.getElem?_map.symm
  rw [Session.signal, status]
  cases found : s.statuses[id]? with
  | none => exact h.spend_signal (by simp [found])
  | some status =>
    cases status with
    | blocked wait =>
      let t := (s.setStatus id (.woken wait .due)).queue [.resume id]
      have statuses : t.statuses = s.statuses.set id (.woken wait .due) :=
        s.statuses_setStatus id _
      have ready : s.ready ⊆ t.ready := List.subset_append_left ..
      have awake : Lively [.signal id] t :=
        h.replace statuses (fun _ member _ => ready member) (.woken wait .due (by simp [t, queue]))
          (fun _ member _ => member) (h.operation.mono fun _ _ => mem_hands ready)
      refine awake.spend_signal ?_
      intro other blocked
      rw [statuses, List.getElem?_set_self (List.getElem?_eq_some_iff.mp found).1] at blocked
      cases blocked
    | _ => exact h.spend_signal (by simp [found])

theorem asked (h : Lively hands s) (id : TaskId) : Lively hands (s.asked id) where
  tasks other status found := by
    rw [statuses_asked] at found
    exact h.tasks other status found
  operation := h.operation

/-- A task that is cancelled while it waits has a turn. -/
theorem cancelWait (h : Lively hands s) (desk : ∃ e r, Desk capacity s e r) {receive : ReceiveId}
    (current : s.view.current = some receive) (pull : Pull) :
    Lively hands (s.cancelWait id (.pulling receive pull)) := by
  obtain ⟨e, r, desk⟩ := desk
  obtain ⟨-, view, -, operates⟩ := desk.unwatch current id
  let woken : TaskStatus := .woken (.pulling receive pull) .cancelled
  let t := (((s.unwatch receive id).setStatus id woken).unsignal id).queue [.resume id]
  have statuses : t.statuses = s.statuses.set id woken := statuses_setStatus ..
  have ready (turn : Turn) (member : turn ∈ s.ready) (unlike : turn ≠ .signal id) :
      turn ∈ t.ready :=
    List.mem_append_left _ (List.mem_filter.mpr ⟨member, by simpa using unlike⟩)
  have watchers : t.view.watchers = s.view.watchers.erase id := congrArg View.watchers view
  have here : Attended hands (hands ++ t.ready) t.view.watchers id woken :=
    .woken _ _ (by simp [t, queue])
  have receives (turn : ReceiveId) (member : .receive turn ∈ hands ++ s.ready) :
      .receive turn ∈ hands ++ t.ready :=
    (List.mem_append.mp member).elim (List.mem_append_left _)
      fun queued => List.mem_append_right _ (ready _ queued (by simp))
  refine h.replace statuses ready here ?_
    (operates _ (h.operation.mono fun turn _ => receives turn))
  intro other member different
  change other ∈ t.view.watchers
  rw [watchers]
  exact (List.mem_erase_of_ne different).mpr member

/-- A task that is cancelled has a turn, if it is not over. -/
theorem cancelTask (h : Lively hands s) (sound : Sound capacity actions s) (id : TaskId) :
    Lively hands (s.cancelTask id).1 := by
  have asked := h.asked id
  rw [cancelTask_eq, ← s.statuses_asked id]
  cases found : (s.asked id).statuses[id]? with
  | none => exact h
  | some status =>
    have attended := asked.tasks id status found
    cases attended with
    | queued action cancelled turn => exact asked.setStatus (.queued action true turn)
    | running cancelled turn => exact asked.setStatus (.running true turn)
    | woken wait wake turn => exact asked.setStatus (.woken wait wake.cancel turn)
    | finished outcome => exact h
    | watching wait _ | told wait _ =>
      obtain ⟨action, -, follows⟩ := (sound.asked id).action found
      cases follows with
      | blocked patience pull current => exact asked.cancelWait (sound.asked id).desk current _

/-- An arrival forgets nobody. -/
theorem feed (h : Lively [.resume id] s) (desk : ∃ e r, Desk capacity s e r) (arrival : Arrival) :
    Lively [.resume id] (s.feed arrival) := by
  obtain ⟨e, r, desk⟩ := desk
  obtain ⟨-, silent, -⟩ := desk.feed arrival
  have after := desk.operates_feed arrival (h.operates (by simp))
  refine h.keep silent.tasks silent.ready ?_ (after.mono fun _ _ => List.mem_append_right _)
  intro task watches
  rw [silent.view]
  exact .inl watches

/-- The turn of a task ends when it has taken what was received. -/
theorem taken (h : Lively [.resume id] s) (told : s.view.done = true → s.view.watchers = [])
    {outcome : Outcome} (taken : Taken s t outcome) :
    Lively [] (t.settle id (.finished outcome)) := by
  have nobody := told (done_of_undelivered taken.outcome)
  have idle : t.view.current = none := by rw [taken.view]
  have ready : s.ready ⊆ t.ready := by
    rw [taken.ready]
    exact List.Subset.refl _
  exact (h.keep taken.tasks ready (by simp [nobody]) (operates_idle idle)).settle outcome

/-- A pull takes what was received, or will be told of the end of the operation that it joins. -/
theorem pull (h : Lively [.resume id] s) {e : Endpoint} {r : Receiver} (desk : Desk capacity s e r)
    (free : s.view.waiting = false) (told : s.view.done = true → s.view.watchers = [])
    {patience : Nat} {progress : Progress}
    (pulled : s.pull id ⟨.datagram, patience⟩ = (t, progress)) :
    Lively [] (t.settle id progress) := by
  rcases desk.pull free id patience with
    ⟨t', outcome, took, -, taken⟩ | ⟨t', receive, waits, -, joined⟩
  · cases pulled.symm.trans took
    exact h.taken told taken
  · cases pulled.symm.trans waits
    have watchers : t.view.watchers = s.view.watchers ++ [id] := by rw [joined.view]
    have after := (joined.operates (h.operates (by simp))).mono fun _ _ =>
      List.mem_append_right [Turn.resume id]
    have still (task : TaskId) (watches : task ∈ s.view.watchers) :
        task ∈ t.view.watchers ∨ .signal task ∈ t.ready := by
      rw [watchers]
      exact .inl (List.mem_append_left [id] watches)
    have kept := h.keep joined.tasks joined.ready still after
    exact kept.block (by simp [watchers]) _

/-- A task goes on after it waited in a pull. -/
theorem resumePull (h : Lively [.resume id] s) (sound : Sound capacity actions s)
    {receive : ReceiveId} {left : Nat} {wake : Wake}
    (found : s.statuses[id]? = some (.woken (.pulling receive ⟨.datagram, left⟩) wake))
    {progress : Progress}
    (resumed : (s.setStatus id (.running false)).resumePull id receive ⟨.datagram, left⟩ wake =
      (t, progress)) :
    Lively [] (t.settle id progress) := by
  obtain ⟨e, r, desk⟩ := sound.desk
  have runs : Desk capacity (s.setStatus id (.running false)) e r := { desk with }
  let unwaited := (s.setStatus id (.running false)).setReceiver fun r => { r with waiting := false }
  have view : unwaited.view = { s.view with waiting := false } := runs.view_setWaiting false
  have told : unwaited.view.done = true → unwaited.view.watchers = [] := by
    rw [view]
    exact sound.consumers.told
  have lively : Lively [.resume id] unwaited := by
    refine h.run.keep rfl (List.Subset.refl _) ?_ (runs.operates_setWaiting false h.run.operation)
    intro task watches
    rw [view]
    exact .inl watches
  obtain ⟨action, -, follows⟩ := sound.action found
  cases follows with
  | woken _ pull current due =>
    cases cancelled : wake.isCancelled with
    | false =>
      cases wake with
      | dueCancelled => cases cancelled
      | cancelled => cases cancelled
      | due =>
        obtain ⟨t', outcome, took, -, taken⟩ := runs.resumePull_due current (due (by simp)) id left
        cases resumed.symm.trans took
        exact lively.taken told taken
    | true =>
      cases left with
      | zero =>
        rw [runs.resumePull_cancelled current cancelled id] at resumed
        cases resumed
        exact lively.settle .cancelled
      | succ left =>
        rw [runs.resumePull_patient current cancelled id left] at resumed
        exact lively.pull (runs.setWaiting false) (by rw [view]) told resumed

theorem resume (h : Lively [.resume id] s) (sound : Sound capacity actions s)
    (rests : ∀ cancelled, s.statuses[id]? ≠ some (.running cancelled)) :
    Lively [] (s.resume id) := by
  rw [resume_eq]
  cases found : s.statuses[id]? with
  | none => exact h.spend (by simp [found])
  | some status =>
    obtain ⟨action, here, follows⟩ := sound.action found
    cases follows with
    | running cancelled => exact absurd found (rests cancelled)
    | blocked patience pull joined => exact h.spend (by simp [found])
    | finished outcome => exact h.spend (by simp [found, TaskStatus.isOver])
    | woken patience pull joined told => exact h.resumePull sound found rfl
    | queued cancelled traffic =>
      cases cancelled with
      | true => exact h.finish .cancelled
      | false =>
        obtain ⟨e, r, desk⟩ := sound.desk
        have runs : Desk capacity (s.setStatus id (.running false)) e r := { desk with }
        dsimp only
        rw [begin_up runs.link]
        cases action with
        | feed arrival => exact (h.run.feed ⟨e, r, runs⟩ arrival).settle _
        | cancel name =>
          rw [perform]
          cases (s.setStatus id (.running false)).taskId? name with
          | none => exact h.run.settle _
          | some target => exact (h.run.cancelTask (sound.run found) target).settle _
        | next patience =>
          have free := sound.consumers.free found (sound.consumers.only found rfl) rfl
          rw [runs.perform_next]
          exact h.run.pull runs free sound.consumers.told rfl
        | _ => cases traffic

/-- Whoever is given a turn. -/
theorem turnAt (h : Lively [] s) (sound : Sound capacity actions s) (place : Nat) :
    Lively [] (s.turnAt place) := by
  rw [Session.turnAt]
  cases found : s.ready[place]? with
  | none => exact h
  | some turn =>
    -- The turn leaves the queue and is in hand until it is spent.
    let rest := { s with ready := s.ready.eraseIdx place }
    have subset : s.ready ⊆ turn :: rest.ready := by
      obtain ⟨inside, rfl⟩ := List.getElem?_eq_some_iff.mp found
      exact (List.getElem_cons_eraseIdx_perm inside).symm.subset
    have given : Lively [turn] rest := by
      refine ⟨?_, h.operation.mono fun _ _ member => subset member⟩
      intro id status there
      exact ((h.tasks id status there).hold [turn]).mono (fun member => subset member)
        (fun member => subset member) .inl
    have sound : Sound capacity actions rest :=
      sound.turns fun _ left => List.mem_of_mem_eraseIdx left
    cases turn with
    | resume id =>
      refine given.resume sound ?_
      intro cancelled running
      cases h.tasks id _ running with | running _ member => cases member
    | signal id => exact given.signal
    | receive id => exact given.turnReceive sound.desk

/-- When no turn is left, a task that waits to be told waits for an arrival. -/
theorem waits (h : Lively [] s) (sound : Sound capacity actions s) (quiet : s.ready = [])
    (watches : id ∈ s.view.watchers) : s.undelivered = none ∧ s.untaken = [] := by
  obtain ⟨wait, blocked⟩ := sound.consumers.watch id watches
  obtain ⟨action, -, follows⟩ := sound.action blocked
  obtain ⟨e, r, desk⟩ := sound.desk
  cases follows with
  | blocked patience pull current =>
    obtain ⟨receive, under, found, -⟩ := desk.underWay current
    have moves := h.operation.moves desk.receiver under found
    -- Who is still to be told waits for an operation that is not over.
    have told := sound.consumers.told
    rw [view_eq desk.receiver under found] at told watches
    rw [undelivered_eq desk.receiver under found]
    obtain ⟨buffer, status, watchers⟩ := receive
    rw [quiet] at moves
    cases moves with
    | queued cancelled turn => cases turn
    | woken wake turn => cases turn
    | waiting nothing => exact ⟨rfl, nothing⟩
    | finished outcome =>
      rw [told rfl] at watches
      cases watches

/-- When no turn is left, all tasks are over or nothing is left to take. -/
theorem rest (h : Lively [] s) (sound : Sound capacity actions s) (quiet : s.ready = []) :
    (∀ task ∈ s.tasks, task.isFinished = true) ∨ s.undelivered = none ∧ s.untaken = [] := by
  rw [or_iff_not_imp_left, not_forall]
  rintro ⟨task, unfinished⟩
  obtain ⟨member, unfinished⟩ := Classical.not_imp.mp unfinished
  obtain ⟨id, inside⟩ := List.mem_iff_getElem?.mp member
  have found : s.statuses[id]? = some task.status := by
    rw [Session.statuses, List.getElem?_map, inside]
    rfl
  have attended := h.tasks id task.status found
  rw [quiet] at attended
  obtain ⟨name, status, requests⟩ := task
  cases attended with
  | queued action cancelled turn => cases turn
  | running cancelled turn => cases turn
  | woken wait wake turn => cases turn
  | watching wait watches => exact h.waits sound quiet watches
  | told wait turn => cases turn
  | finished outcome => exact absurd rfl unfinished

end Lively

end Osc.Session
