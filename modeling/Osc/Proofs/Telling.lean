import Osc.Proofs.Turns

/-!
How tasks are told. A task that waits stands in one place that it will be told from: a turn in the
queue, the watchers of an operation, or those who wait until they can write. One that is cancelled
while it waits leaves that place. So a task is told once of the end of an operation, and not before
that end.
-/

namespace Osc

/-- The operation whose end a task waits for. -/
def Wait.watched? : Wait → Option ReceiveId
  | .pulling receive _ | .closing receive _ _ => some receive
  | .writing _ | .taking _ => none

def TaskStatus.isBlocked : TaskStatus → Bool
  | .blocked _ => true
  | _ => false

/-- A task that was told of what it waited for, and did not go on yet. -/
def TaskStatus.isTold : TaskStatus → Bool
  | .woken _ .due => true
  | _ => false

namespace Session

variable {given : Option Turn} {s t u : Session} {id : TaskId}

section Tasks

/-- What a change does to the tasks: it starts one, asks one to stop, or lets one go on that
was not over. A stream that ends had ended before, or its operation has brought nothing. -/
inductive Stir (s t : Session) : Prop where
  | none (same : t.tasks = s.tasks)
  | spawn (name : Text) (action : Action) (more : t.tasks = s.tasks ++ [.start name action])
  | ask (id : TaskId) (more : t.tasks = (s.asked id).tasks)
  | set (id : TaskId) (old new : TaskStatus) (found : s.statuses[id]? = some old)
      (running : old.isOver = false) (now : t.tasks = (s.setStatus id new).tasks)
      (stops : new = .finished (.value .stop) → s.HasEnded ∨
        s.cancelRequests id = 0 ∧ ∃ receive pull brought,
          s.statuses[id]? = some (.woken (.pulling receive pull) .due) ∧
            s.receives[receive]? = some brought ∧ brought.hasBrought = false)

/-- A task goes on, and not to the end of a stream. -/
theorem Stir.go {id : TaskId} {old new : TaskStatus} (found : s.statuses[id]? = some old)
    (running : old.isOver = false) (now : t.tasks = (s.setStatus id new).tasks)
    (other : new ≠ .finished (.value .stop)) : Stir s t :=
  .set id old new found running now fun stop => absurd stop other

theorem tasks_setStatus (same : t.tasks = s.tasks) (id : TaskId) (status : TaskStatus) :
    (t.setStatus id status).tasks = (s.setStatus id status).tasks :=
  congrArg (fun tasks => tasks.modify id fun task => { task with status := status }) same

theorem Change.stir (change : Change given s t) (fit : s.Fit) : Stir s t := by
  cases change with
  | inert same => exact .none same.tasks
  | spawn name call => exact .spawn name _ rfl
  | spend took stale => cases took; exact .none rfl
  | tell took blocked => cases took; exact .go blocked rfl rfl (by simp)
  | drop took queued => cases took; exact .go queued rfl rfl (by simp)
  | start took queued => cases took; exact .go queued rfl rfl (by simp)
  | goOn took woken other => cases took; exact .go woken rfl rfl (by simp)
  | leave took woken => cases took; exact .go woken rfl rfl (by simp)
  | gain took woken there brought => cases took; exact .go woken rfl rfl (by simp)
  | @lose v id receive pull found took woken there brought =>
    have now : ((v.setStatus id (.running false)).finish id (s.pullCancelled id pull)).tasks =
        (s.setStatus id (.finished (s.pullCancelled id pull))).tasks := by
      cases took
      rw [finish_setStatus]
      rfl
    refine .set id _ _ woken rfl now fun stop => .inr ⟨?_, receive, pull, found, woken, there,
      brought⟩
    by_contra requested
    rw [pullCancelled, if_neg requested] at stop
    cases stop
  | join pull runs free receiver current =>
    exact .go runs rfl (tasks_setStatus (aside_watch _ _ _).tasks _ _) (by simp)
  | stop closed handle receiver current => exact .none (aside_cancelReceive s _).tasks
  | halt runs other receiver current =>
    exact .go runs rfl (tasks_setStatus (aside_cancelReceive s _).tasks _ _) (by simp)
  | @close id r receive outcome runs plain there isOpen receiver current =>
    let stopped := (s.cancelReceive receive).setReceiver fun r => { r with state := .idle none }
    have same : (stopped.watch receive id).tasks = s.tasks :=
      (aside_watch stopped receive id).tasks.trans (aside_cancelReceive s receive).tasks
    exact .go runs rfl (tasks_setStatus same _ _) (by simp)
  | release there isOpen counted settled => exact .none (s.tasks_releaseHandle _)
  | overdrawn there isOpen counted => exact (fit.not_overdrawn there isOpen counted).elim
  | block runs fits =>
    obtain ⟨e, up⟩ := fit.up
    rw [awaitWritable_up up]
    exact .go runs rfl rfl (by simp)
  | shut other => exact .none s.tasks_closeEndpoint
  | @wait id found there looks =>
    obtain ⟨e, up⟩ := fit.up
    have here : (s.setReceive id .waiting).link = .up e := up
    rw [setInbox_onto here]
    exact .none rfl
  | ask id => exact .ask id rfl
  | markQueued queued asked => exact .go queued rfl rfl (by simp)
  | markRunning runs asked => exact .go runs rfl rfl (by simp)
  | markWoken woken asked => exact .go woken rfl rfl (by simp)
  | unpull blocked asked => exact .go blocked rfl rfl (by simp)
  | unwrite up blocked asked => exact .go blocked rfl rfl (by simp)
  | urge blocked asked =>
    exact .go blocked rfl (tasks_setStatus (aside_cancelReceive s _).tasks _ _) (by simp)
  | @finish id cancelled outcome runs calm stops =>
    refine .set id _ _ runs rfl rfl fun stop => .inl (stops ?_)
    cases cancelled with
    | true => cases stop
    | false => exact TaskStatus.finished.inj stop
  | _ => exact .none rfl

namespace Stir

theorem requests (h : Stir s t) (id : TaskId) : s.cancelRequests id ≤ t.cancelRequests id := by
  cases h with
  | none same => rw [cancelRequests_eq same]
  | spawn name action more =>
    rw [cancelRequests, cancelRequests, task?, task?, more]
    by_cases inside : id < s.tasks.length
    · rw [List.getElem?_append_left inside]
    · rw [List.getElem?_eq_none (Nat.le_of_not_lt inside)]
      exact Nat.zero_le _
  | ask asked more =>
    rw [cancelRequests_eq more]
    exact s.le_cancelRequests_asked asked id
  | set other old new found running now stops =>
    rw [cancelRequests_eq now, cancelRequests_setStatus]

theorem asked (h : Stir s t) {id : TaskId} (asked : s.cancelRequests id ≠ 0) :
    t.cancelRequests id ≠ 0 :=
  ((Nat.pos_of_ne_zero asked).trans_le (h.requests id)).ne'

/-- Outcomes stay. -/
theorem finished (h : Stir s t) {outcome : Outcome} (ended : .finished outcome ∈ s.statuses) :
    .finished outcome ∈ t.statuses := by
  cases h with
  | none same => rwa [statuses_eq same]
  | spawn name action more =>
    rw [Session.statuses, more, List.map_append]
    exact List.mem_append_left _ ended
  | ask asked more =>
    rw [statuses_eq more, statuses_asked]
    exact ended
  | set id old new found running now stops =>
    obtain ⟨other, there⟩ := List.mem_iff_getElem?.mp ended
    have different : id ≠ other := by
      rintro rfl
      cases found.symm.trans there
      cases running
    rw [statuses_eq now, statuses_setStatus]
    apply List.mem_of_getElem?
    exact (List.getElem?_set_ne different).trans there

end Stir

end Tasks

section Telling

/-- How often a task is listed among those who watch operations. -/
def watching (receives : List Receive) (id : TaskId) : Nat :=
  (receives.map fun r => r.watchers.count id).sum

theorem watching_modify {receives : List Receive} {receive : ReceiveId} {found : Receive}
    (there : receives[receive]? = some found) (f : Receive → Receive) (id : TaskId) :
    watching (receives.modify receive f) id + found.watchers.count id =
      watching receives id + (f found).watchers.count id := by
  induction receives generalizing receive with
  | nil => cases there
  | cons first rest ih =>
    cases receive with
    | zero =>
      cases there
      simp only [watching, List.modify_zero_cons, List.map_cons, List.sum_cons]
      omega
    | succ receive =>
      have there : rest[receive]? = some found := there
      have later := ih there
      simp only [watching, List.modify_succ_cons, List.map_cons, List.sum_cons] at later ⊢
      omega

theorem count_le_watching {receives : List Receive} {receive : ReceiveId} {found : Receive}
    (there : receives[receive]? = some found) (id : TaskId) :
    found.watchers.count id ≤ watching receives id :=
  List.le_sum_of_mem (List.mem_map_of_mem (List.mem_of_getElem? there))

theorem watching_eq_zero {receives : List Receive}
    (nowhere : ∀ (receive : ReceiveId) (found : Receive), receives[receive]? = some found →
      id ∉ found.watchers) : watching receives id = 0 := by
  refine List.sum_eq_zero fun count member => ?_
  obtain ⟨found, listed, rfl⟩ := List.mem_map.mp member
  obtain ⟨receive, there⟩ := List.mem_iff_getElem?.mp listed
  exact List.count_eq_zero.mpr (nowhere receive found there)

theorem latched_withInbox {e : Endpoint} (up : s.link = .up e) (inbox : Inbox) :
    (s.onto (e.withInbox inbox)).latched = s.latched := (latched_up up).symm

/-- A turn that is not the task's signal does not tell it. -/
theorem count_queue (ready : List Turn) {turn : Turn} (other : turn ≠ .signal id) :
    (ready ++ [turn]).count (.signal id) = ready.count (.signal id) := by
  rw [List.count_append, List.count_singleton, if_neg (by simpa using other), Nat.add_zero]

theorem count_resume (ready : List Turn) (task id : TaskId) :
    (ready ++ [Turn.resume task]).count (.signal id) = ready.count (.signal id) :=
  count_queue ready nofun

theorem count_receive (ready : List Turn) (receive : ReceiveId) (id : TaskId) :
    (ready ++ [Turn.receive receive]).count (.signal id) = ready.count (.signal id) :=
  count_queue ready nofun

/-- A task that is not told any more has a turn of its own. -/
theorem count_unsignal (s : Session) (id : TaskId) :
    ((s.unsignal id).queue [.resume id]).ready.count (.signal id) = 0 := by
  refine (count_resume _ id id).trans (List.count_eq_zero.mpr fun member => ?_)
  simp [unsignal] at member

theorem count_unsignal_le (s : Session) (task id : TaskId) :
    ((s.unsignal task).queue [.resume task]).ready.count (.signal id) ≤
      s.ready.count (.signal id) :=
  (count_resume _ task id).trans_le (List.filter_sublist.count_le _)

/-- The number of places at which a task is listed to be told of something. -/
def heard (s : Session) (id : TaskId) : Nat :=
  s.ready.count (.signal id) + watching s.receives id + s.latched.count id

def IsOver (s : Session) (receive : ReceiveId) : Prop :=
  ∃ found, s.receives[receive]? = some found ∧ found.isFinished = true

/-- A task that waits is only listed where it is told of what it waits for. -/
structure Hears (s : Session) (id : TaskId) (wait : Wait) : Prop where
  signal : .signal id ∈ s.ready → ∀ receive, wait.watched? = some receive → s.IsOver receive
  watcher : ∀ (receive : ReceiveId) (found : Receive), s.receives[receive]? = some found →
    id ∈ found.watchers → wait.watched? = some receive
  latch : id ∈ s.latched → wait.watched? = none

/-- A task is told once, while it waits, and not before what it waits for. -/
structure Told (s : Session) (id : TaskId) : Prop where
  once : s.heard id ≤ 1
  hears : 0 < s.heard id → ∃ wait, s.statuses[id]? = some (.blocked wait) ∧ s.Hears id wait
  woken : ∀ receive pull, s.statuses[id]? = some (.woken (.pulling receive pull) .due) →
    s.IsOver receive

/-- As far as a task is concerned nothing is added, and operations that are over stay so. -/
structure Fewer (id : TaskId) (s t : Session) : Prop where
  signals : t.ready.count (.signal id) ≤ s.ready.count (.signal id)
  watcher : ∀ (receive : ReceiveId) (found : Receive), t.receives[receive]? = some found →
    id ∈ found.watchers → ∃ found, s.receives[receive]? = some found ∧ id ∈ found.watchers
  watching : watching t.receives id ≤ watching s.receives id
  latched : t.latched.count id ≤ s.latched.count id
  ended : ∀ receive, s.IsOver receive → t.IsOver receive

theorem Hears.keep {wait : Wait} (h : s.Hears id wait) (fewer : Fewer id s t) :
    t.Hears id wait := by
  constructor
  case signal =>
    intro signal receive watched
    have before := List.count_pos_iff.mp ((List.count_pos_iff.mpr signal).trans_le fewer.signals)
    exact fewer.ended receive (h.signal before receive watched)
  case watcher =>
    intro receive found there member
    obtain ⟨before, there, member⟩ := fewer.watcher receive found there member
    exact h.watcher receive before there member
  case latch =>
    intro member
    exact h.latch (List.count_pos_iff.mp ((List.count_pos_iff.mpr member).trans_le fewer.latched))

namespace Fewer

theorem heard (h : Fewer id s t) : t.heard id ≤ s.heard id :=
  Nat.add_le_add (Nat.add_le_add h.signals h.watching) h.latched

theorem trans (first : Fewer id s t) (second : Fewer id t u) : Fewer id s u where
  signals := second.signals.trans first.signals
  watcher receive found there member := by
    obtain ⟨found, there, member⟩ := second.watcher receive found there member
    exact first.watcher receive found there member
  watching := second.watching.trans first.watching
  latched := second.latched.trans first.latched
  ended receive over' := second.ended receive (first.ended receive over')

theorem ofReceives (receives : t.receives = s.receives)
    (signals : t.ready.count (.signal id) ≤ s.ready.count (.signal id))
    (latched : t.latched.count id ≤ s.latched.count id) : Fewer id s t where
  signals := signals
  watcher receive found there member := ⟨found, receives ▸ there, member⟩
  watching := by rw [receives]
  latched := latched
  ended receive ended := by rwa [IsOver, receives]

/-- An operation goes on, and nobody begins to watch it. -/
theorem ofModify {receive : ReceiveId} {f : Receive → Receive}
    (receives : t.receives = s.receives.modify receive f)
    (signals : t.ready.count (.signal id) ≤ s.ready.count (.signal id))
    (latched : t.latched.count id ≤ s.latched.count id)
    (watchers : ∀ found, (f found).watchers.count id ≤ found.watchers.count id)
    (ended : ∀ found, s.receives[receive]? = some found → found.isFinished = true →
      (f found).isFinished = true) : Fewer id s t where
  signals := signals
  watcher other found there member := by
    rw [receives] at there
    by_cases same : receive = other
    · subst same
      rw [List.getElem?_modify_eq] at there
      obtain ⟨before, here, rfl⟩ := Option.map_eq_some_iff.mp there
      refine ⟨before, here, List.count_pos_iff.mp ?_⟩
      exact (List.count_pos_iff.mpr member).trans_le (watchers before)
    · rw [List.getElem?_modify_ne _ _ same] at there
      exact ⟨found, there, member⟩
  watching := by
    rw [receives]
    cases there : s.receives[receive]? with
    | none => rw [List.modify_eq_self (List.getElem?_eq_none_iff.mp there)]
    | some found =>
      have changed := watching_modify there f id
      have fewer := watchers found
      omega
  latched := latched
  ended other over' := by
    obtain ⟨found, there, finished⟩ := over'
    by_cases same : receive = other
    · subst same
      exact ⟨f found, by rw [receives, List.getElem?_modify_eq, there]; rfl,
        ended found there finished⟩
    · exact ⟨found, by rw [receives, List.getElem?_modify_ne _ _ same, there], finished⟩

theorem watch {task : TaskId} (other : task ≠ id) (receive : ReceiveId) :
    Fewer id s (s.watch receive task) := by
  rcases s.watch_cases receive task with ⟨same, -⟩ | ⟨same, -⟩
  · rw [same]
    have unsaid : Turn.signal task ≠ .signal id := fun same => other (Turn.signal.inj same)
    exact ofReceives rfl (count_queue s.ready unsaid).le (Nat.le_refl _)
  · rw [same]
    refine ofModify rfl (Nat.le_refl _) (Nat.le_refl _) ?_ ?_
    · intro found
      rw [List.count_append, List.count_singleton, if_neg (by simpa using other), Nat.add_zero]
    · exact fun found _ finished => finished

/-- Another operation, that nobody watches yet. -/
theorem append {buffer : BufferId}
    (receives : t.receives = s.receives ++ [Receive.start buffer])
    (signals : t.ready.count (.signal id) ≤ s.ready.count (.signal id))
    (latched : t.latched.count id ≤ s.latched.count id) : Fewer id s t where
  signals := signals
  watcher receive found there member := by
    rw [receives] at there
    rcases getElem?_concat_eq_some.mp there with old | ⟨-, rfl⟩
    · exact ⟨found, old, member⟩
    · cases member
  watching := by
    simp only [Session.watching, receives, List.map_append, List.sum_append]
    exact Nat.le_refl _
  latched := latched
  ended receive ended := by
    obtain ⟨found, there, finished⟩ := ended
    rw [IsOver, receives]
    exact ⟨found, getElem?_concat_eq_some.mpr (.inl there), finished⟩

/-- The statuses of operations that are over do not change. -/
theorem goes {receive : ReceiveId} {found : Receive} (there : s.receives[receive]? = some found)
    (going : found.isFinished = false) {status : ReceiveStatus}
    (receives : t.receives = s.receives.modify receive fun r => { r with status := status })
    (signals : t.ready.count (.signal id) ≤ s.ready.count (.signal id))
    (latched : t.latched = s.latched) : Fewer id s t := by
  apply ofModify receives signals (by rw [latched]) fun _ => Nat.le_refl _
  intro found' there' finished
  cases there.symm.trans there'
  cases going.symm.trans finished

theorem cancelReceive (up : ∃ e, s.link = .up e) (receive : ReceiveId) (id : TaskId) :
    Fewer id s (s.cancelReceive receive) := by
  obtain ⟨e, up⟩ := up
  rcases s.cancelReceive_cases receive with ⟨same, -⟩ | ⟨found, there, how⟩
  · rw [same]
    exact ofReceives rfl (Nat.le_refl _) (Nat.le_refl _)
  · obtain ⟨buffer, status, watchers⟩ := found
    rcases how with ⟨cancelled, rfl, same⟩ | ⟨rfl, same⟩ | ⟨wake, rfl, same⟩
    · rw [same]
      exact goes there rfl rfl (Nat.le_refl _) rfl
    · rw [same, setInbox_onto up]
      apply goes there rfl rfl
      · exact (count_receive s.ready receive id).le
      · exact latched_withInbox up _
    · rw [same]
      exact goes there rfl rfl (Nat.le_refl _) rfl

end Fewer

namespace Told

/-- A task that does not wait is listed nowhere. -/
theorem heard_eq_zero (h : s.Told id) (other : ∀ wait, s.statuses[id]? ≠ some (.blocked wait)) :
    s.heard id = 0 := by
  by_contra some
  obtain ⟨wait, blocked, -⟩ := h.hears (Nat.pos_of_ne_zero some)
  exact other wait blocked

theorem keep (h : s.Told id) (fewer : Fewer id s t)
    (waits : ∀ wait, s.statuses[id]? = some (.blocked wait) →
      t.statuses[id]? = some (.blocked wait))
    (woken : ∀ receive pull, t.statuses[id]? = some (.woken (.pulling receive pull) .due) →
      s.statuses[id]? = some (.woken (.pulling receive pull) .due)) : t.Told id where
  once := fewer.heard.trans h.once
  hears some := by
    obtain ⟨wait, blocked, hears⟩ := h.hears (some.trans_le fewer.heard)
    exact ⟨wait, waits wait blocked, hears.keep fewer⟩
  woken receive pull now := fewer.ended receive (h.woken receive pull (woken receive pull now))

theorem same (h : s.Told id) (fewer : Fewer id s t)
    (status : t.statuses[id]? = s.statuses[id]?) : t.Told id := by
  apply h.keep fewer
  · intro wait blocked
    rwa [status]
  · intro receive pull woken
    rwa [status] at woken

/-- A task that waits goes on to wait for the same. -/
theorem rewait (h : s.Told id) (fewer : Fewer id s t) {wait wait' : Wait}
    (before : s.statuses[id]? = some (.blocked wait))
    (now : t.statuses[id]? = some (.blocked wait')) (same : wait'.watched? = wait.watched?) :
    t.Told id where
  once := fewer.heard.trans h.once
  hears some := by
    obtain ⟨other, blocked, hears⟩ := h.hears (some.trans_le fewer.heard)
    cases before.symm.trans blocked
    obtain ⟨signal, watcher, latch⟩ := hears.keep fewer
    rw [← same] at signal watcher latch
    exact ⟨wait', now, signal, watcher, latch⟩
  woken receive pull woken := by cases now.symm.trans woken

/-- A task that waits. -/
theorem listed {wait : Wait} (blocked : s.statuses[id]? = some (.blocked wait))
    (once : s.heard id ≤ 1) (hears : s.Hears id wait) : s.Told id where
  once := once
  hears _ := ⟨wait, blocked, hears⟩
  woken receive pull woken := by cases blocked.symm.trans woken

end Told

section Nowhere

variable (silent : s.heard id = 0)

include silent

theorem unsignalled : s.ready.count (Turn.signal id) = 0 := by
  unfold heard at silent
  omega

theorem unwatched : watching s.receives id = 0 := by
  unfold heard at silent
  omega

theorem unlatched : s.latched.count id = 0 := by
  unfold heard at silent
  omega

theorem not_watches {receive : ReceiveId} {found : Receive}
    (there : s.receives[receive]? = some found) : id ∉ found.watchers := by
  apply List.count_eq_zero.mp
  apply Nat.le_zero.mp
  exact (count_le_watching there id).trans_eq (unwatched silent)

/-- A task that is listed nowhere begins to watch an operation. -/
theorem Told.watch {status : TaskStatus} (found : s.statuses[id]? = some status)
    {receive : ReceiveId} {wait : Wait} (watched : wait.watched? = some receive) :
    ((s.watch receive id).setStatus id (.blocked wait)).Told id := by
  have inside := (List.getElem?_eq_some_iff.mp found).1
  have tasks := (aside_watch s receive id).tasks
  have blocked : ((s.watch receive id).setStatus id (.blocked wait)).statuses[id]? =
      some (.blocked wait) := by
    rw [statuses_setStatus, statuses_eq tasks, List.getElem?_set_self inside]
  have notLatched : id ∉ s.latched := List.count_eq_zero.mp (unlatched silent)
  rcases s.watch_cases receive id with ⟨same, ended⟩ | ⟨same, isOpen⟩
  · rw [same] at blocked ⊢
    apply Told.listed blocked
    · change (s.ready ++ [Turn.signal id]).count (Turn.signal id) + watching s.receives id +
        s.latched.count id ≤ 1
      rw [List.count_append, unsignalled silent, unwatched silent, unlatched silent,
        List.count_singleton_self]
    · refine ⟨fun _ other same => ?_, fun other r there member => ?_, fun member => ?_⟩
      · cases watched.symm.trans same
        exact ended
      · exact absurd member (not_watches silent there)
      · exact absurd member notLatched
  · rw [same] at blocked ⊢
    have notSignalled : Turn.signal id ∉ s.ready := List.count_eq_zero.mp (unsignalled silent)
    apply Told.listed blocked
    · change s.ready.count (Turn.signal id) + watching (s.receives.modify receive _) id +
        s.latched.count id ≤ 1
      rw [unsignalled silent, unlatched silent]
      cases there : s.receives[receive]? with
      | none =>
        rw [List.modify_eq_self (List.getElem?_eq_none_iff.mp there), unwatched silent]
        exact Nat.zero_le 1
      | some r =>
        have changed := watching_modify there
          (fun r => { r with watchers := r.watchers ++ [id] }) id
        rw [unwatched silent, List.count_append, List.count_singleton_self] at changed
        omega
    · refine ⟨fun member => ?_, fun other r there member => ?_, fun member => ?_⟩
      · exact absurd member notSignalled
      · by_cases here : receive = other
        · rw [← here]
          exact watched
        · exact absurd member
            (not_watches silent ((List.getElem?_modify_ne _ s.receives here).symm.trans there))
      · exact absurd member notLatched

/-- A task that is listed nowhere begins to wait until it can write. -/
theorem Told.awaitWritable {status : TaskStatus} (found : s.statuses[id]? = some status)
    (up : ∃ e, s.link = .up e) (w : Write) :
    ((s.awaitWritable id).setStatus id (.blocked (.writing w))).Told id := by
  have inside := (List.getElem?_eq_some_iff.mp found).1
  obtain ⟨e, up⟩ := up
  rw [awaitWritable_up up]
  have blocked : ((s.onto (e.awaitWritable id)).setStatus id
      (.blocked (.writing w))).statuses[id]? = some (.blocked (.writing w)) := by
    rw [statuses_setStatus]
    exact List.getElem?_set_self inside
  apply Told.listed blocked
  · change s.ready.count (Turn.signal id) + watching s.receives id +
      (s.onto (e.awaitWritable id)).latched.count id ≤ 1
    rw [latched_awaitWritable up, List.count_append, unsignalled silent, unwatched silent,
      unlatched silent, List.count_singleton_self]
  · refine ⟨fun member => ?_, fun other r there member => ?_, fun _ => rfl⟩
    · exact absurd member (List.count_eq_zero.mp (unsignalled (s := s) silent))
    · exact absurd member (not_watches (s := s) silent there)

end Nowhere

theorem count_signals (tasks : List TaskId) (id : TaskId) :
    (tasks.map Turn.signal).count (.signal id) = tasks.count id :=
  List.count_map_of_injective tasks Turn.signal (fun _ _ same => Turn.signal.inj same) id

/-- Those who wait until they can write are told. -/
theorem Told.unlatch (h : s.Told id) (statuses : t.statuses = s.statuses)
    (receives : t.receives = s.receives) (ready : t.ready = s.ready ++ s.latched.map .signal)
    (latched : t.latched = []) : t.Told id := by
  have heard : t.heard id = s.heard id := by
    rw [Session.heard, Session.heard, ready, receives, latched, List.count_append, count_signals,
      List.count_nil]
    omega
  constructor
  case once => exact heard.trans_le h.once
  case hears =>
    intro some
    obtain ⟨wait, blocked, hears⟩ := h.hears (some.trans_eq heard)
    refine ⟨wait, by rw [statuses, blocked], ?_, ?_, ?_⟩
    · intro signal receive watched
      rw [IsOver, receives]
      rw [ready] at signal
      rcases List.mem_append.mp signal with old | new
      · exact hears.signal old receive watched
      · obtain ⟨_, member, same⟩ := List.mem_map.mp new
        cases same
        cases watched.symm.trans (hears.latch member)
    · rw [receives]
      exact hears.watcher
    · rw [latched]
      nofun
  case woken =>
    rw [statuses]
    intro receive pull woken
    rw [IsOver, receives]
    exact h.woken receive pull woken

/-- Those who watch an operation are told when it ends. -/
theorem Told.finishReceive (h : s.Told id) {receive : ReceiveId} {found : Receive}
    (there : s.receives[receive]? = some found) (outcome : ReceiveOutcome) :
    (s.finishReceive receive outcome).Told id := by
  let t := s.finishReceive receive outcome
  have ready : t.ready = s.ready ++ found.watchers.map .signal := by
    simp only [t, Session.finishReceive, queue, receive?, there, Option.map_some, Option.getD_some]
  have here : t.receives[receive]? = some ⟨found.buffer, .finished outcome, []⟩ := by
    change (s.receives.modify receive _)[receive]? = _
    rw [List.getElem?_modify_eq, there]
    rfl
  have ends : t.IsOver receive := ⟨_, here, rfl⟩
  have elsewhere {other : ReceiveId} (different : receive ≠ other) :
      t.receives[other]? = s.receives[other]? := List.getElem?_modify_ne _ _ different
  have stays (other : ReceiveId) (ended : s.IsOver other) : t.IsOver other := by
    by_cases same : receive = other
    · exact same ▸ ends
    · rwa [IsOver, elsewhere same]
  have heard : t.heard id = s.heard id := by
    have changed := watching_modify there
      (fun r => { r with status := .finished outcome, watchers := [] }) id
    change t.ready.count (.signal id) + watching (s.receives.modify receive _) id +
      s.latched.count id = _
    rw [Session.heard, ready, List.count_append, count_signals]
    rw [List.count_nil] at changed
    omega
  constructor
  case once => exact heard.trans_le h.once
  case hears =>
    intro some
    obtain ⟨wait, blocked, hears⟩ := h.hears (some.trans_eq heard)
    refine ⟨wait, blocked, ?_, ?_, hears.latch⟩
    · intro signal other watched
      rw [ready] at signal
      rcases List.mem_append.mp signal with old | new
      · exact stays other (hears.signal old other watched)
      · obtain ⟨_, member, same⟩ := List.mem_map.mp new
        cases same
        cases watched.symm.trans (hears.watcher receive found there member)
        exact ends
    · intro other r there' member
      by_cases same : receive = other
      · subst same
        cases here.symm.trans there'
        cases member
      · exact hears.watcher other r (elsewhere same ▸ there') member
  case woken => exact fun other pull woken => stays other (h.woken other pull woken)

/-- Tasks are told of what they wait for. -/
def Prompt (s : Session) : Prop := ∀ id, s.Told id

namespace Prompt

/-- No task goes on. -/
theorem same (h : s.Prompt) (statuses : t.statuses = s.statuses)
    (fewer : ∀ id, Fewer id s t) : t.Prompt :=
  fun id => (h id).same (fewer id) (by rw [statuses])

/-- One task goes on, while nothing is added for the others. -/
theorem replace (h : s.Prompt) {new : TaskStatus} (statuses : t.statuses = s.statuses.set id new)
    (fewer : ∀ id, Fewer id s t) (here : t.Told id) : t.Prompt := by
  intro i
  by_cases same : id = i
  · exact same ▸ here
  · exact (h i).same (fewer i) (by rw [statuses, List.getElem?_set_ne same])

/-- A task goes on that did not wait. -/
theorem set (h : s.Prompt) {old new : TaskStatus} (found : s.statuses[id]? = some old)
    (statuses : t.statuses = s.statuses.set id new) (awake : old.isBlocked = false)
    (untold : new.isTold = false) (fewer : ∀ id, Fewer id s t) : t.Prompt := by
  refine h.replace statuses fewer ((h id).keep (fewer id) ?_ ?_)
  · intro wait blocked
    cases found.symm.trans blocked
    cases awake
  · intro receive pull woken
    rw [statuses, List.getElem?_set_self (List.getElem?_eq_some_iff.mp found).1] at woken
    cases woken
    cases untold

/-- A task stops to wait, and is not listed any more. -/
theorem stop (h : s.Prompt) {wait : Wait} {wake : Wake} (found : id < s.statuses.length)
    (statuses : t.statuses = s.statuses.set id (.woken wait wake))
    (cancelled : wake.isCancelled = true) (silent : t.heard id = 0)
    (fewer : ∀ id, Fewer id s t) : t.Prompt := by
  refine h.replace statuses fewer ⟨silent.trans_le (Nat.zero_le 1), ?_, ?_⟩
  · exact fun some => absurd silent some.ne'
  · intro receive pull woken
    rw [statuses, List.getElem?_set_self found] at woken
    cases woken
    cases cancelled

/-- A task that runs begins to watch an operation. -/
theorem watch {v : Session} (h : s.Prompt) (runs : s.statuses[id]? = some (.running false))
    (tasks : v.tasks = s.tasks) (fewer : ∀ id, Fewer id s v) {receive : ReceiveId} {wait : Wait}
    (watched : wait.watched? = some receive) :
    ((v.watch receive id).setStatus id (.blocked wait)).Prompt := by
  intro i
  have told := h i
  by_cases same : id = i
  · subst same
    have silent := told.heard_eq_zero (by simp [runs])
    have still : v.heard id = 0 := Nat.le_zero.mp ((fewer id).heard.trans_eq silent)
    exact Told.watch still (by rw [statuses_eq tasks, runs]) watched
  · have apart := (fewer i).trans (.watch same receive)
    refine told.same { apart with } ?_
    rw [statuses_setStatus, List.getElem?_set_ne same,
      statuses_eq ((aside_watch v receive id).tasks.trans tasks)]

theorem spawn (h : s.Prompt) (name : Text) (action : Action) : (s.spawn name action).Prompt := by
  intro i
  have statuses : (s.spawn name action).statuses = s.statuses ++ [.queued action false] :=
    List.map_append
  have fewer : Fewer i s (s.spawn name action) :=
    .ofReceives rfl (count_resume s.ready s.tasks.length i).le (Nat.le_refl _)
  apply (h i).keep fewer
  · intro wait blocked
    rw [statuses]
    exact getElem?_concat_eq_some.mpr (.inl blocked)
  · intro receive pull woken
    rw [statuses] at woken
    rcases getElem?_concat_eq_some.mp woken with old | ⟨-, new⟩
    · exact old
    · cases new

/-- A task that runs begins to wait until it can write. -/
theorem awaitWritable (h : s.Prompt) {w : Write} (runs : s.statuses[id]? = some (.running false))
    {e : Endpoint} (up : s.link = .up e) :
    ((s.awaitWritable id).setStatus id (.blocked (.writing w))).Prompt := by
  intro i
  have told := h i
  by_cases same : id = i
  · subst same
    exact .awaitWritable (told.heard_eq_zero (by simp [runs])) runs ⟨e, up⟩ w
  · have apart : (s.onto (e.awaitWritable id)).latched.count i = s.latched.count i := by
      rw [latched_awaitWritable up, List.count_append, List.count_singleton,
        if_neg (by simpa using same), Nat.add_zero]
    rw [awaitWritable_up up]
    refine told.same (.ofReceives rfl (Nat.le_refl _) apart.le) ?_
    exact (congrArg (·[i]?) (statuses_setStatus _ id _)).trans (List.getElem?_set_ne same)

end Prompt

/-- A turn that is taken from the queue is gone. -/
theorem Takes.fewer {turn : Turn} (took : Takes given s turn t) (id : TaskId) : Fewer id s t := by
  cases took with
  | @intro _ _ place found =>
    exact .ofReceives rfl ((List.eraseIdx_sublist s.ready place).count_le _) (Nat.le_refl _)

/-- A task goes on in its turn. -/
theorem Prompt.took (h : s.Prompt) {turn : Turn} {v : Session} (took : Takes given s turn v)
    {old new : TaskStatus} (found : s.statuses[id]? = some old)
    (statuses : t.statuses = v.statuses.set id new) (awake : old.isBlocked = false)
    (untold : new.isTold = false) (fewer : ∀ id, Fewer id v t) : t.Prompt := by
  have same : v.statuses = s.statuses := by
    cases took
    rfl
  exact h.set found (same ▸ statuses) awake untold fun i => (took.fewer i).trans (fewer i)

/-- A task that waits is told. -/
theorem Prompt.tell (h : s.Prompt) {wait : Wait} (took : Takes given s (.signal id) t)
    (blocked : s.statuses[id]? = some (.blocked wait)) :
    ((t.setStatus id (.woken wait .due)).queue [.resume id]).Prompt := by
  intro i
  have told := h i
  cases took with
  | @intro _ _ place found =>
    let t := { s with ready := s.ready.eraseIdx place }
    obtain ⟨position, first⟩ := List.getElem?_eq_some_iff.mp found
    have taken := ((List.getElem_cons_eraseIdx_perm position).count_eq (Turn.signal i)).symm
    have resumed : (t.ready ++ [Turn.resume id]).count (.signal i) = t.ready.count (.signal i) :=
      count_resume t.ready id i
    by_cases same : id = i
    · subst same
      -- The one place at which the task was listed is the turn that was taken.
      rw [first, List.count_cons_self] at taken
      have told' : s.heard id = t.heard id + 1 := by
        change _ = (s.ready.eraseIdx place).count (Turn.signal id) + watching s.receives id +
          s.latched.count id + 1
        rw [heard, taken]
        omega
      have once := told.once
      obtain ⟨wait', blocked', hears⟩ := told.hears (by omega)
      cases blocked.symm.trans blocked'
      have inside := (List.getElem?_eq_some_iff.mp blocked).1
      have silent : ((t.setStatus id (.woken wait .due)).queue [.resume id]).heard id = 0 := by
        change (t.ready ++ [Turn.resume id]).count (.signal id) + _ + _ = 0
        rw [resumed]
        change t.heard id = 0
        omega
      refine ⟨silent.trans_le (Nat.zero_le 1), fun some => absurd silent some.ne', ?_⟩
      intro receive pull woken
      have now : ((t.setStatus id (.woken wait .due)).queue [.resume id]).statuses[id]? =
          some (.woken wait .due) :=
        (congrArg (·[id]?) (statuses_setStatus t id _)).trans (List.getElem?_set_self inside)
      cases now.symm.trans woken
      exact hears.signal (List.mem_of_getElem? found) receive rfl
    · have fewer : Fewer i s t := (Takes.intro found).fewer i
      refine told.same { fewer with signals := resumed.trans_le fewer.signals } ?_
      exact (congrArg (·[i]?) (statuses_setStatus t id _)).trans (List.getElem?_set_ne same)

/-- A task that waits for nothing but one operation is listed once among those who watch it, or
nowhere among those who watch. -/
theorem Told.watching_unwatch (h : s.Told id) {receive : ReceiveId} {pull : Pull}
    (blocked : s.statuses[id]? = some (.blocked (.pulling receive pull))) :
    watching (s.unwatch receive id).receives id = 0 := by
  refine watching_eq_zero fun other found there member => ?_
  have kept (a : Receive) (here : s.receives[other]? = some a) (listed : id ∈ a.watchers) :
      receive = other ∧ a.watchers.count id = 1 := by
    have more := count_le_watching here id
    have some := List.count_pos_iff.mpr listed
    have once : watching s.receives id ≤ s.heard id := by
      unfold heard
      omega
    obtain ⟨wait, blocked', hears⟩ := h.hears (by omega)
    cases blocked.symm.trans blocked'
    have := h.once
    exact ⟨Option.some.inj (hears.watcher other a here listed), by omega⟩
  by_cases same : receive = other
  · subst same
    obtain ⟨a, here, rfl⟩ :=
      Option.map_eq_some_iff.mp ((List.getElem?_modify_eq ..).symm.trans there)
    have single := (kept a here (List.mem_of_mem_erase member)).2
    have erased := List.count_pos_iff.mpr member
    rw [List.count_erase_self, single] at erased
    exact Nat.lt_irrefl 0 erased
  · have here : s.receives[other]? = some found :=
      (List.getElem?_modify_ne _ s.receives same).symm.trans there
    exact same (kept found here member).1

/-- A task that is cancelled while it waits is not listed any more. -/
theorem heard_unpull (h : s.Told id) {receive : ReceiveId} {pull : Pull}
    (blocked : s.statuses[id]? = some (.blocked (.pulling receive pull))) (status : TaskStatus) :
    ((((s.unwatch receive id).setStatus id status).unsignal id).queue [.resume id]).heard id =
      0 := by
  have unlatched : s.latched.count id = 0 := by
    refine List.count_eq_zero.mpr fun member => ?_
    have some := List.count_pos_iff.mpr member
    obtain ⟨wait, blocked', hears⟩ := h.hears (by unfold heard; omega)
    cases blocked.symm.trans blocked'
    cases hears.latch member
  rw [heard, count_unsignal, Nat.zero_add]
  exact Nat.add_eq_zero_iff.mpr ⟨h.watching_unwatch blocked, unlatched⟩

private theorem heard_unwrite (h : s.Told id) {e : Endpoint} (up : s.link = .up e) {w : Write}
    (blocked : s.statuses[id]? = some (.blocked (.writing w))) (status : TaskStatus) :
    ((((s.onto (e.stopAwaiting id)).setStatus id status).unsignal id).queue [.resume id]).heard
      id = 0 := by
  have unwatched : watching s.receives id = 0 := by
    refine watching_eq_zero fun receive found there member => ?_
    have some := List.count_pos_iff.mpr member
    have more := count_le_watching there id
    obtain ⟨wait, blocked', hears⟩ := h.hears (by unfold heard; omega)
    cases blocked.symm.trans blocked'
    cases hears.watcher receive found there member
  have unlatched : (s.onto (e.stopAwaiting id)).latched.count id = 0 := by
    have once := h.once
    rw [heard, latched_up up] at once
    rw [latched_up rfl]
    change ((e.latch.map fun tasks => tasks.erase id).getD []).count id = 0
    cases latch : e.latch with
    | none => rfl
    | some tasks =>
      rw [latch, Option.getD_some] at once
      rw [Option.map_some, Option.getD_some, List.count_erase_self]
      omega
  rw [heard, count_unsignal, Nat.zero_add]
  exact Nat.add_eq_zero_iff.mpr ⟨unwatched, unlatched⟩

theorem Change.prompt (change : Change given s t) (fit : s.Fit) (h : s.Prompt) : t.Prompt := by
  obtain ⟨e, up⟩ := fit.up
  have still (u v : Session) (receives : v.receives = u.receives) (ready : v.ready = u.ready)
      (link : v.link = u.link) (id : TaskId) : Fewer id u v :=
    .ofReceives receives (by rw [ready]) (by rw [latched, latched, endpoint?, endpoint?, link])
  have unlatch {u : Session} (statuses : u.statuses = s.statuses)
      (receives : u.receives = s.receives) (ready : u.ready = s.ready ++ s.latched.map .signal)
      (latched : u.latched = []) : u.Prompt :=
    fun i => (h i).unlatch statuses receives ready latched
  cases change with
  | inert same =>
    obtain ⟨e, e', up, up', alike⟩ := same.alike
    refine h.same (statuses_eq same.tasks) fun i => ?_
    refine .ofReceives same.receives (by rw [same.ready]) ?_
    simp only [latched, endpoint?, up, up', Option.bind_some, alike.latch, Nat.le_refl]
  | spawn name call => exact h.spawn name _
  | spend took stale =>
    refine h.same ?_ took.fewer
    cases took
    rfl
  | tell took blocked => exact h.tell took blocked
  | drop took queued =>
    exact h.took took queued (statuses_finish _ _ _) rfl rfl (still _ _ rfl rfl rfl)
  | start took queued =>
    exact h.took took queued (statuses_setStatus _ _ _) rfl rfl (still _ _ rfl rfl rfl)
  | goOn took woken other =>
    exact h.took took woken (statuses_setStatus _ _ _) rfl rfl (still _ _ rfl rfl rfl)
  | leave took woken =>
    exact h.took took woken (statuses_setStatus _ _ _) rfl rfl (still _ _ rfl rfl rfl)
  | gain took woken there brought =>
    exact h.took took woken (statuses_setStatus _ _ _) rfl rfl (still _ _ rfl rfl rfl)
  | @lose v id receive pull found took woken there brought =>
    have statuses : ((v.relieve id).finish id (s.pullCancelled id pull)).statuses =
        v.statuses.set id (.finished (s.pullCancelled id pull)) := by
      rw [statuses_finish]
      change (v.setStatus id (.running false)).statuses.set id _ = _
      rw [statuses_setStatus, List.set_set]
    exact h.took took woken statuses rfl rfl (still _ _ rfl rfl rfl)
  | collect runs free receiver current there brought =>
    exact h.same rfl (still _ _ rfl rfl rfl)
  | receive runs free receiver idle provided =>
    exact h.same rfl fun i =>
      .append rfl (count_receive s.ready s.receives.length i).le (Nat.le_refl _)
  | join pull runs free receiver current =>
    refine h.watch (v := s.setReceiver fun r => { r with waiting := true }) runs rfl
      (still _ _ rfl rfl rfl) rfl
  | @stop r receive closed handle receiver current =>
    have fewer (i : TaskId) := Fewer.cancelReceive fit.up receive i
    exact h.same (statuses_eq (aside_cancelReceive s _).tasks) fun i => { fewer i with }
  | @halt id r receive runs other receiver current =>
    let stopped := (s.cancelReceive receive).setReceiver fun r => { r with state := .idle none }
    have still : stopped.statuses = s.statuses :=
      statuses_eq (aside_cancelReceive s receive).tasks
    have fewer (i : TaskId) := Fewer.cancelReceive fit.up receive i
    exact h.set runs (still ▸ statuses_finish stopped id _) rfl rfl fun i =>
      { fewer i with }
  | @close id r receive outcome runs plain there isOpen receiver current =>
    let stopped := (s.cancelReceive receive).setReceiver fun r => { r with state := .idle none }
    have fewer (i : TaskId) := Fewer.cancelReceive fit.up receive i
    exact h.watch (v := stopped) runs (aside_cancelReceive s receive).tasks
      (fun i => { fewer i with }) rfl
  | @release handle there isOpen counted =>
    rcases releaseHandle_cases up isOpen counted with ⟨-, same⟩ | ⟨-, same⟩
    · rw [same]
      exact unlatch rfl rfl (by rw [latched_up up]; rfl) rfl
    · rw [same]
      exact h.same rfl (still _ _ rfl rfl rfl)
  | clone there isOpen counted name => exact h.same rfl (still _ _ rfl rfl rfl)
  | overdrawn there isOpen counted => exact (fit.not_overdrawn there isOpen counted).elim
  | block runs fits => exact h.awaitWritable runs up
  | writable up watched => exact unlatch rfl rfl (by rw [latched_up up]; rfl) rfl
  | shut other =>
    rw [closeEndpoint_up up]
    exact unlatch rfl rfl (by rw [latched_up up]; rfl) rfl
  | @waken e id rest up first =>
    obtain ⟨id', found, same, there, waiting⟩ :=
      (fit.endpoint up).waiting (.receive id) (by simp [first])
    cases same
    refine h.same rfl fun i => .goes there ?_ rfl (count_receive s.ready id i).le ?_
    · rw [Receive.isFinished, Receive.outcome?, waiting]
      rfl
    · exact latched_withInbox up _
  | @wait id found there looks =>
    have here : (s.setReceive id .waiting).link = .up e := up
    rw [setInbox_onto here]
    refine h.same rfl fun i => .goes there ?_ rfl (Nat.le_refl _) ?_
    · rw [Receive.isFinished, Receive.outcome?]
      rcases looks with queued | woken
      · rw [queued]
        rfl
      · rw [woken]
        rfl
    · exact latched_withInbox up _
  | conclude there turn asked =>
    exact fun i => (h i).finishReceive there _
  | ask id =>
    exact h.same (s.statuses_asked id) (still _ _ rfl rfl rfl)
  | markQueued queued asked =>
    exact h.set queued (statuses_setStatus _ _ _) rfl rfl (still _ _ rfl rfl rfl)
  | markRunning runs asked =>
    exact h.set runs (statuses_setStatus _ _ _) rfl rfl (still _ _ rfl rfl rfl)
  | @markWoken id wait wake woken asked =>
    have untold : (TaskStatus.woken wait wake.cancel).isTold = false := by
      cases wake <;> rfl
    exact h.set woken (statuses_setStatus _ _ _) rfl untold (still _ _ rfl rfl rfl)
  | @unpull id receive pull blocked asked =>
    refine h.stop (List.getElem?_eq_some_iff.mp blocked).1 (statuses_setStatus _ _ _) rfl
      (heard_unpull (h id) blocked _) fun i => ?_
    refine .ofModify rfl (count_unsignal_le _ id i) (Nat.le_refl _) ?_ ?_
    · exact fun found => (List.erase_sublist).count_le i
    · exact fun found _ finished => finished
  | @unwrite id w e up blocked asked =>
    refine h.stop (List.getElem?_eq_some_iff.mp blocked).1 (statuses_setStatus _ _ _) rfl
      (heard_unwrite (h id) up blocked _) fun i => ?_
    refine .ofReceives rfl (count_unsignal_le _ id i) ?_
    rw [latched_up up]
    change ((e.latch.map fun tasks => tasks.erase id).getD []).count i ≤ _
    cases e.latch with
    | none => exact Nat.le_refl _
    | some tasks => exact (List.erase_sublist).count_le i
  | @urge id receive cancelled outcome blocked asked =>
    have still := statuses_eq (aside_cancelReceive s receive).tasks
    have fewer (i : TaskId) := Fewer.cancelReceive fit.up receive i
    let urged := (s.cancelReceive receive).setStatus id (.blocked (.closing receive true outcome))
    have statuses : urged.statuses = s.statuses.set id (.blocked (.closing receive true outcome)) :=
      still ▸ statuses_setStatus _ _ _
    have now : urged.statuses[id]? = some (.blocked (.closing receive true outcome)) := by
      rw [statuses, List.getElem?_set_self (List.getElem?_eq_some_iff.mp blocked).1]
    refine h.replace statuses (fun i => { fewer i with }) ?_
    exact (h id).rewait { fewer id with } blocked now rfl
  | finish runs calm stops =>
    exact h.set runs (statuses_finish _ _ _) rfl rfl (still _ _ rfl rfl rfl)

theorem Prompt.start {layer : Layer} {codec : Codec} {settings : Settings} {e : Endpoint}
    {limit : Int} (unused : IsFresh e) : (fresh layer codec settings e limit).Prompt := by
  let start := fresh layer codec settings e limit
  intro id
  have silent : start.heard id = 0 := by
    have unlatched : start.latched = [] := by
      rw [latched_up (e := e) rfl, unused.latch]
      rfl
    rw [heard, unlatched]
    rfl
  refine ⟨silent.trans_le (Nat.zero_le 1), fun some => absurd silent some.ne', ?_⟩
  intro receive pull woken
  cases woken

end Telling

end Session

end Osc
