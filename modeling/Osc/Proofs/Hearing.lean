import Osc.Proofs.Buffers

/-!
Nobody who waits for an operation is forgotten. The operation is not over and has the task among
those it will tell, or the task has a turn in which it is told, or it was told and has its turn to
go on. So a task that was never asked to stop hears of the end of its operation.
-/

namespace Osc

/-- A task that waits for its turn or for what it is told. -/
def TaskStatus.isSuspended : TaskStatus → Bool
  | .queued .. | .blocked _ | .woken .. => true
  | _ => false

namespace Session

variable {given : Option Turn} {s t u : Session} {id : TaskId}

/-- An operation is not over, and will tell a task of its end. -/
def IsWatched (s : Session) (id : TaskId) (receive : ReceiveId) : Prop :=
  ∃ found, s.receives[receive]? = some found ∧ found.isFinished = false ∧ id ∈ found.watchers

/-- A task that waits will be told, or is being told; one that was told has its turn, as has one
that has not begun. -/
structure Remembered (s : Session) (id : TaskId) : Prop where
  blocked : ∀ wait receive, s.statuses[id]? = some (.blocked wait) →
    wait.watched? = some receive → s.IsWatched id receive ∨ .signal id ∈ s.ready
  awake : ∀ status, s.statuses[id]? = some status → status.isAwake = true → .resume id ∈ s.ready
  asked : ∀ wait wake, s.statuses[id]? = some (.woken wait wake) → wake.isCancelled = true →
    s.cancelRequests id ≠ 0

/-- As far as a task is concerned nothing is lost. -/
structure More (id : TaskId) (s t : Session) : Prop where
  signal : .signal id ∈ s.ready → .signal id ∈ t.ready
  resume : .resume id ∈ s.ready → .resume id ∈ t.ready
  watched : ∀ receive, s.IsWatched id receive → t.IsWatched id receive ∨ .signal id ∈ t.ready

namespace More

theorem ofReceives (receives : t.receives = s.receives) (ready : s.ready ⊆ t.ready) :
    More id s t where
  signal member := ready member
  resume member := ready member
  watched receive watched := by
    left
    rwa [IsWatched, receives]

theorem refl (id : TaskId) (s : Session) : More id s s :=
  ofReceives rfl (List.Subset.refl _)

theorem trans (first : More id s t) (second : More id t u) : More id s u where
  signal := second.signal ∘ first.signal
  resume := second.resume ∘ first.resume
  watched receive watched := (first.watched receive watched).elim (second.watched receive)
    fun signal => .inr (second.signal signal)

/-- An operation goes on; if it ends, those who watch it are told. -/
theorem ofModify {receive : ReceiveId} {f : Receive → Receive}
    (receives : t.receives = s.receives.modify receive f) (ready : s.ready ⊆ t.ready)
    (kept : ∀ found, s.receives[receive]? = some found → found.isFinished = false →
      id ∈ found.watchers →
        (f found).isFinished = false ∧ id ∈ (f found).watchers ∨ .signal id ∈ t.ready) :
    More id s t where
  signal member := ready member
  resume member := ready member
  watched other watched := by
    obtain ⟨found, there, running, member⟩ := watched
    by_cases same : receive = other
    · subst same
      refine (kept found there running member).imp_left fun still => ⟨f found, ?_, still⟩
      rw [receives, List.getElem?_modify_eq, there]
      rfl
    · exact .inl ⟨found, by rw [receives, List.getElem?_modify_ne _ _ same, there], running, member⟩

/-- A task that will not be told any more takes nothing from the others. -/
theorem unsignal {other : TaskId} (different : id ≠ other) (s : Session) :
    More id s (s.unsignal other) where
  signal member := List.mem_filter.mpr ⟨member, by simpa using different⟩
  resume member := List.mem_filter.mpr ⟨member, by simp⟩
  watched receive watched := .inl watched

theorem append {buffer : BufferId} (receives : t.receives = s.receives ++ [Receive.start buffer])
    (ready : s.ready ⊆ t.ready) : More id s t where
  signal member := ready member
  resume member := ready member
  watched receive watched := by
    obtain ⟨found, there, rest⟩ := watched
    refine .inl ⟨found, ?_, rest⟩
    rw [receives]
    exact getElem?_concat_eq_some.mpr (.inl there)

theorem watch (id : TaskId) (s : Session) (receive : ReceiveId) (task : TaskId) :
    More id s (s.watch receive task) := by
  rcases s.watch_cases receive task with ⟨same, -⟩ | ⟨same, -⟩
  · rw [same]
    exact ofReceives rfl (List.subset_append_left ..)
  · rw [same]
    exact ofModify rfl (List.Subset.refl _) fun found _ running member =>
      .inl ⟨running, List.mem_append_left _ member⟩

theorem cancelReceive (id : TaskId) (s : Session) (receive : ReceiveId) :
    More id s (s.cancelReceive receive) := by
  have goes {t : Session} {status : ReceiveStatus} (going : ∀ outcome, status ≠ .finished outcome)
      (receives : t.receives = s.receives.modify receive fun r => { r with status := status })
      (ready : s.ready ⊆ t.ready) : More id s t :=
    ofModify receives ready fun found _ _ member =>
      .inl ⟨Receive.isFinished_eq_false going, member⟩
  rcases s.cancelReceive_cases receive with ⟨same, -⟩ | ⟨found, there, how⟩
  · rw [same]
    exact refl id s
  · rcases how with ⟨cancelled, -, same⟩ | ⟨-, same⟩ | ⟨wake, -, same⟩
    · rw [same]
      exact goes (by simp) rfl (List.Subset.refl _)
    · rw [same]
      have left (inbox : Inbox) : (s.setInbox inbox).receives = s.receives ∧
          (s.setInbox inbox).ready = s.ready := by
        unfold setInbox mapNetwork
        split <;> exact ⟨rfl, rfl⟩
      obtain ⟨receives, ready⟩ := left (s.network.inbox.leave (.receive receive))
      refine @goes _ (.woken .cancelled) (by simp) ?_ ?_
      · exact congrArg (fun l => l.modify receive fun r => { r with status := .woken .cancelled })
          receives
      · exact fun turn member => List.mem_append_left _ (ready ▸ member)
    · rw [same]
      exact goes (by simp) rfl (List.Subset.refl _)

end More

/-- The turn of another is taken. -/
theorem Takes.more {turn : Turn} (took : Takes given s turn t) (signal : turn ≠ .signal id)
    (resume : turn ≠ .resume id) : More id s t where
  signal member := (took.ready member).resolve_left signal.symm
  resume member := (took.ready member).resolve_left resume.symm
  watched receive watched := by
    cases took
    exact .inl watched

/-- Nobody who waits is forgotten. -/
def Remembers (s : Session) : Prop := ∀ id, s.Remembered id

namespace Remembered

/-- A task that is not suspended. -/
theorem idle {new : TaskStatus} (now : s.statuses[id]? = some new)
    (awake : new.isSuspended = false) : s.Remembered id := by
  constructor
  case blocked =>
    intro wait receive waits
    cases now.symm.trans waits
    cases awake
  case awake =>
    intro status found turn
    cases now.symm.trans found
    cases new with
    | queued | woken => cases awake
    | _ => cases turn
  case asked =>
    intro wait wake waits
    cases now.symm.trans waits
    cases awake

/-- A task that has its turn. -/
theorem ready {new : TaskStatus} (now : s.statuses[id]? = some new) (turn : .resume id ∈ s.ready)
    (blocked : ∀ wait, new ≠ .blocked wait)
    (asked : ∀ wait wake, new = .woken wait wake → wake.isCancelled = true →
      s.cancelRequests id ≠ 0) : s.Remembered id := by
  refine ⟨fun wait receive waits => ?_, fun _ _ _ => turn, fun wait wake woken => ?_⟩
  · exact absurd (Option.some.inj (now.symm.trans waits)) (blocked wait)
  · exact asked wait wake (Option.some.inj (now.symm.trans woken))

theorem keep (h : s.Remembered id) (stir : Stir s t) (more : More id s t)
    (status : t.statuses[id]? = s.statuses[id]?) : t.Remembered id := by
  constructor
  case blocked =>
    intro wait receive blocked watched
    rcases h.blocked wait receive (status ▸ blocked) watched with watches | signal
    · exact more.watched receive watches
    · exact .inr (more.signal signal)
  case awake => exact fun new found turn => more.resume (h.awake new (status ▸ found) turn)
  case asked =>
    intro wait wake woken cancelled
    exact stir.asked (h.asked wait wake (status ▸ woken) cancelled)

end Remembered

namespace Remembers

variable {old new : TaskStatus}

theorem same (h : s.Remembers) (stir : Stir s t) (statuses : t.statuses = s.statuses)
    (more : ∀ id, More id s t) : t.Remembers :=
  fun id => (h id).keep stir (more id) (by rw [statuses])

/-- One task goes on. -/
theorem set (h : s.Remembers) (stir : Stir s t) (statuses : t.statuses = s.statuses.set id new)
    (more : ∀ i, i ≠ id → More i s t) (here : t.Remembered id) : t.Remembers := by
  intro i
  by_cases same : id = i
  · exact same ▸ here
  · exact (h i).keep stir (more i (Ne.symm same)) (by rw [statuses, List.getElem?_set_ne same])

/-- One task goes on to where it has its turn. -/
theorem wake (h : s.Remembers) (stir : Stir s t) (found : s.statuses[id]? = some old)
    (statuses : t.statuses = s.statuses.set id new) (more : ∀ i, i ≠ id → More i s t)
    (turn : .resume id ∈ t.ready) (blocked : ∀ wait, new ≠ .blocked wait)
    (asked : ∀ wait wake, new = .woken wait wake → wake.isCancelled = true →
      t.cancelRequests id ≠ 0) : t.Remembers := by
  refine h.set stir statuses more (.ready ?_ turn blocked asked)
  rw [statuses]
  exact List.getElem?_set_self (List.getElem?_eq_some_iff.mp found).1

/-- One task goes on, and does not wait. -/
theorem go (h : s.Remembers) (stir : Stir s t) (found : s.statuses[id]? = some old)
    (statuses : t.statuses = s.statuses.set id new) (more : ∀ i, i ≠ id → More i s t)
    (awake : new.isSuspended = false) : t.Remembers := by
  refine h.set stir statuses more (.idle ?_ awake)
  rw [statuses]
  exact List.getElem?_set_self (List.getElem?_eq_some_iff.mp found).1

/-- The turn of a task is taken, and it does not wait any more. -/
theorem took {v : Session} (h : s.Remembers) (stir : Stir s t)
    (took : Takes given s (.resume id) v) (found : s.statuses[id]? = some old)
    (statuses : t.statuses = v.statuses.set id new) (more : ∀ i, More i v t)
    (awake : new.isSuspended = false) : t.Remembers := by
  refine h.go stir found (took.statuses ▸ statuses) ?_ awake
  intro i other
  exact (took.more nofun fun same => other (Turn.resume.inj same).symm).trans (more i)

/-- A task begins to wait for an operation. -/
theorem watch {v : Session} (h : s.Remembers) (runs : s.statuses[id]? = some old)
    (tasks : v.tasks = s.tasks) (more : ∀ i, More i s v) {receive : ReceiveId} {wait : Wait}
    (watched : wait.watched? = some receive) {found : Receive}
    (there : v.receives[receive]? = some found)
    (stir : Stir s ((v.watch receive id).setStatus id (.blocked wait))) :
    ((v.watch receive id).setStatus id (.blocked wait)).Remembers := by
  have statuses : ((v.watch receive id).setStatus id (.blocked wait)).statuses =
      s.statuses.set id (.blocked wait) := by
    rw [statuses_setStatus, statuses_eq ((aside_watch v receive id).tasks.trans tasks)]
  have now : ((v.watch receive id).setStatus id (.blocked wait)).statuses[id]? =
      some (.blocked wait) := by
    rw [statuses]
    exact List.getElem?_set_self (List.getElem?_eq_some_iff.mp runs).1
  refine h.set stir statuses (fun i _ => (more i).trans { More.watch i v receive id with })
    ⟨?_, ?_, ?_⟩
  · intro wait' receive' blocked watched'
    cases now.symm.trans blocked
    cases watched.symm.trans watched'
    rcases v.watch_cases receive id with ⟨same, -⟩ | ⟨same, running⟩
    · rw [same]
      exact .inr (List.mem_append_right _ (List.mem_singleton_self _))
    · rw [same]
      refine .inl ⟨{ found with watchers := found.watchers ++ [id] }, ?_, running found there, ?_⟩
      · exact (List.getElem?_modify_eq ..).trans (congrArg (Option.map _) there)
      · exact List.mem_append_right _ (List.mem_singleton_self _)
  · intro status found turn
    cases now.symm.trans found
    cases turn
  · intro wait' wake' woken
    cases now.symm.trans woken

end Remembers

/-- The operation of a receiver is there. -/
theorem Owned.there (owned : s.Owned) {r : Receiver} (receiver : s.receiver = some r)
    {receive : ReceiveId} (current : r.state = .receiving receive) :
    receive < s.receives.length := by
  have last := owned.latest receive (.inl ((state?_eq receiver).trans (congrArg some current)))
  exact last ▸ Nat.lt_succ_self receive

theorem Change.remembers (change : Change given s t) (fit : s.Fit) (owned : s.Owned)
    (h : s.Remembers) : t.Remembers := by
  have stir := change.stir fit
  obtain ⟨e, up⟩ := fit.up
  have still (u v : Session) (receives : v.receives = u.receives) (ready : v.ready = u.ready)
      (id : TaskId) : More id u v := .ofReceives receives (ready ▸ List.Subset.refl _)
  have asked (receive : ReceiveId) (id : TaskId) : More id s (s.cancelReceive receive) :=
    .cancelReceive id s receive
  have statuses (receive : ReceiveId) : (s.cancelReceive receive).statuses = s.statuses :=
    statuses_eq (aside_cancelReceive s receive).tasks
  cases change with
  | inert same => exact h.same stir (statuses_eq same.tasks) (still _ _ same.receives same.ready)
  | @spawn name action call =>
    have more : (s.spawn name action).statuses = s.statuses ++ [.queued action false] :=
      List.map_append
    intro i
    by_cases new : i = s.statuses.length
    · refine .ready (by rw [more, new]; exact List.getElem?_concat_length) ?_ (by simp) (by simp)
      rw [new, Session.statuses, List.length_map]
      exact List.mem_append_right _ (List.mem_singleton_self _)
    · refine (h i).keep stir (.ofReceives rfl (List.subset_append_left ..)) ?_
      rw [more, List.getElem?_append]
      split
      · rfl
      · next outside =>
        have beyond := Nat.lt_of_le_of_ne (Nat.le_of_not_lt outside) (Ne.symm new)
        rw [List.getElem?_eq_none beyond.le, List.getElem?_eq_none (Nat.sub_pos_of_lt beyond)]
  | @spend t turn took stale =>
    intro i
    constructor
    case blocked =>
      intro wait receive blocked watched
      rw [took.statuses] at blocked
      refine ((h i).blocked wait receive blocked watched).imp (fun watches => ?_) fun member => ?_
      · cases took
        exact watches
      · refine (took.ready member).resolve_left ?_
        rintro rfl
        exact stale wait blocked
    case awake =>
      intro status found awake
      rw [took.statuses] at found
      refine (took.ready ((h i).awake status found awake)).resolve_left ?_
      rintro rfl
      cases (stale status found).symm.trans awake
    case asked =>
      intro wait wake woken
      have requests : t.cancelRequests = s.cancelRequests := by
        cases took
        rfl
      rw [took.statuses] at woken
      exact requests ▸ (h i).asked wait wake woken
  | @tell v id wait took blocked =>
    have more (i : TaskId) (other : i ≠ id) :
        More i s ((v.setStatus id (.woken wait .due)).queue [.resume id]) :=
      (took.more (fun same => other (Turn.signal.inj same).symm) (by simp)).trans
        (.ofReceives rfl (List.subset_append_left ..))
    have told : ((v.setStatus id (.woken wait .due)).queue [.resume id]).statuses =
        s.statuses.set id (.woken wait .due) := by
      rw [← took.statuses]
      exact statuses_setStatus v id _
    refine h.wake stir blocked told more (List.mem_append_right _ (List.mem_singleton_self _))
      (by simp) fun wait' wake same cancelled => ?_
    cases same
    cases cancelled
  | drop took queued =>
    exact h.took stir took queued (statuses_finish _ _ _) (still _ _ rfl rfl) rfl
  | start took queued =>
    exact h.took stir took queued (statuses_setStatus _ _ _) (still _ _ rfl rfl) rfl
  | goOn took woken other =>
    exact h.took stir took woken (statuses_setStatus _ _ _) (still _ _ rfl rfl) rfl
  | leave took woken =>
    exact h.took stir took woken (statuses_setStatus _ _ _) (still _ _ rfl rfl) rfl
  | gain took woken there brought =>
    exact h.took stir took woken (statuses_setStatus _ _ _) (still _ _ rfl rfl) rfl
  | @lose v id receive pull found took woken there brought =>
    have ended : ((v.relieve id).finish id (s.pullCancelled id pull)).statuses =
        v.statuses.set id (.finished (s.pullCancelled id pull)) := by
      rw [statuses_finish]
      change (v.setStatus id (.running false)).statuses.set id _ = _
      rw [statuses_setStatus, List.set_set]
    exact h.took stir took woken ended (still _ _ rfl rfl) rfl
  | collect runs free receiver current there brought => exact h.same stir rfl (still _ _ rfl rfl)
  | receive runs free receiver idle provided =>
    exact h.same stir rfl fun i => .append rfl (List.subset_append_left ..)
  | join pull runs free receiver current =>
    exact h.watch (v := s.setReceiver fun r => { r with waiting := true }) runs rfl
      (still _ _ rfl rfl) rfl (List.getElem?_eq_getElem (owned.there receiver current)) stir
  | stop closed handle receiver current =>
    exact h.same stir (statuses _) fun i => { asked _ i with }
  | @halt id r receive runs other receiver current =>
    let stopped := (s.cancelReceive receive).setReceiver fun r => { r with state := .idle none }
    have same : stopped.statuses = s.statuses := statuses receive
    have ended : (stopped.finish id (.value (.receiveCancelled true))).statuses =
        s.statuses.set id (.finished (.value (.receiveCancelled true))) := by
      rw [statuses_finish, same]
    have more (i : TaskId) : More i s (stopped.finish id (.value (.receiveCancelled true))) :=
      (asked receive i).trans (.ofReceives rfl (List.Subset.refl _))
    exact h.go stir runs ended (fun i _ => more i) rfl
  | @close id r receive outcome runs plain there isOpen receiver current =>
    let stopped := (s.cancelReceive receive).setReceiver fun r => { r with state := .idle none }
    have inside : receive < stopped.receives.length :=
      (s.length_cancelReceive receive).symm ▸ owned.there receiver current
    exact h.watch (v := stopped) runs (aside_cancelReceive s receive).tasks
      (fun i => { asked receive i with }) rfl (List.getElem?_eq_getElem inside) stir
  | release there isOpen counted settled =>
    rcases releaseHandle_cases up isOpen counted with ⟨-, same⟩ | ⟨-, same⟩
    · rw [same] at stir ⊢
      exact h.same stir rfl fun i => .ofReceives rfl (List.subset_append_left ..)
    · rw [same] at stir ⊢
      exact h.same stir rfl (still _ _ rfl rfl)
  | clone there isOpen counted name => exact h.same stir rfl (still _ _ rfl rfl)
  | overdrawn there isOpen counted => exact (fit.not_overdrawn there isOpen counted).elim
  | @block id w runs fits =>
    rw [awaitWritable_up up] at stir ⊢
    have now : ((s.onto (e.awaitWritable id)).setStatus id (.blocked (.writing w))).statuses =
        s.statuses.set id (.blocked (.writing w)) := statuses_setStatus _ id _
    have here := List.getElem?_set_self (a := .blocked (.writing w))
      (List.getElem?_eq_some_iff.mp runs).1
    rw [← now] at here
    refine h.set stir now (fun i _ => .ofReceives rfl (List.Subset.refl _)) ⟨?_, ?_, ?_⟩
    · intro wait receive blocked watched
      cases here.symm.trans blocked
      cases watched
    · intro status found turn
      cases here.symm.trans found
      cases turn
    · intro wait wake woken
      cases here.symm.trans woken
  | writable up watched =>
    exact h.same stir rfl fun i => .ofReceives rfl (List.subset_append_left ..)
  | shut other =>
    rw [closeEndpoint_up up] at stir ⊢
    exact h.same stir rfl fun i => .ofReceives rfl (List.subset_append_left ..)
  | waken up first =>
    refine h.same stir rfl fun i => .ofModify rfl (List.subset_append_left ..) ?_
    exact fun found _ _ member => .inl ⟨Receive.isFinished_eq_false (by simp), member⟩
  | @wait id found there looks =>
    have here : (s.setReceive id .waiting).link = .up e := up
    rw [setInbox_onto here] at stir ⊢
    refine h.same stir rfl fun i => .ofModify rfl (List.Subset.refl _) ?_
    exact fun found _ _ member => .inl ⟨Receive.isFinished_eq_false (by simp), member⟩
  | @conclude id found outcome there turn asked =>
    refine h.same stir rfl fun i => .ofModify rfl (List.subset_append_left ..) ?_
    intro found' there' _ member
    cases there.symm.trans there'
    refine .inr (List.mem_append_right _ (List.mem_map_of_mem ?_))
    simpa [receive?, there] using member
  | ask id => exact h.same stir (s.statuses_asked id) (still _ _ rfl rfl)
  | @markQueued id action cancelled queued asked =>
    exact h.wake stir queued (statuses_setStatus _ _ _)
      (fun i _ => .ofReceives rfl (List.Subset.refl _)) ((h id).awake _ queued rfl)
      (by simp) (by simp)
  | markRunning runs asked =>
    exact h.go stir runs (statuses_setStatus _ _ _)
      (fun i _ => .ofReceives rfl (List.Subset.refl _)) rfl
  | @markWoken id wait wake woken asked =>
    exact h.wake stir woken (statuses_setStatus _ _ _)
      (fun i _ => .ofReceives rfl (List.Subset.refl _)) ((h id).awake _ woken rfl)
      (by simp) fun _ _ _ _ => stir.asked asked
  | @unpull id receive pull blocked asked =>
    refine h.wake stir blocked (statuses_setStatus _ _ _) (fun i other => ?_)
      (List.mem_append_right _ (List.mem_singleton_self _)) (by simp)
      fun _ _ _ _ => stir.asked asked
    let woken := (s.unwatch receive id).setStatus id (.woken (.pulling receive pull) .cancelled)
    have unwatched : More i s woken := .ofModify rfl (List.Subset.refl _) fun _ _ running member =>
      .inl ⟨running, (List.mem_erase_of_ne other).mpr member⟩
    exact (unwatched.trans (.unsignal other woken)).trans
      (.ofReceives rfl (List.subset_append_left ..))
  | unwrite up blocked asked =>
    refine h.wake stir blocked (statuses_setStatus _ _ _) (fun i other => ?_)
      (List.mem_append_right _ (List.mem_singleton_self _)) (by simp)
      fun _ _ _ _ => stir.asked asked
    exact (More.unsignal other s).trans (.ofReceives rfl (List.subset_append_left ..))
  | @urge id receive cancelled outcome blocked requested =>
    let urged := (s.cancelReceive receive).setStatus id (.blocked (.closing receive true outcome))
    have now : urged.statuses = s.statuses.set id (.blocked (.closing receive true outcome)) := by
      rw [statuses_setStatus, statuses]
    have here : urged.statuses[id]? = some (.blocked (.closing receive true outcome)) := by
      rw [now]
      exact List.getElem?_set_self (List.getElem?_eq_some_iff.mp blocked).1
    have more (i : TaskId) : More i s urged :=
      (asked receive i).trans (.ofReceives rfl (List.Subset.refl _))
    refine h.set stir now (fun i _ => more i) ⟨?_, ?_, ?_⟩
    · intro wait receive' blocked' watched
      cases here.symm.trans blocked'
      cases watched
      rcases (h id).blocked _ receive blocked rfl with watches | signal
      · exact (asked receive id).watched receive watches
      · exact .inr ((asked receive id).signal signal)
    · intro status found turn
      cases here.symm.trans found
      cases turn
    · intro wait wake woken
      cases here.symm.trans woken
  | finish runs calm stops =>
    exact h.go stir runs (statuses_finish _ _ _)
      (fun i _ => .ofReceives rfl (List.Subset.refl _)) rfl

theorem Remembers.start {layer : Layer} {codec : Codec} {settings : Settings} {e : Endpoint}
    {limit : Int} : (fresh layer codec settings e limit).Remembers := by
  intro id
  constructor
  case blocked => exact fun wait receive blocked => by cases blocked
  case awake => exact fun status found => by cases found
  case asked => exact fun wait wake woken => by cases woken

/-- Whoever was never asked to stop has a turn once the operation is over that it waits for. -/
theorem Remembered.turn (h : s.Remembered id) {wait : Wait} {receive : ReceiveId}
    (watched : wait.watched? = some receive) (ended : s.IsOver receive)
    (blocked : s.statuses[id]? = some (.blocked wait)) : .signal id ∈ s.ready := by
  rcases h.blocked wait receive blocked watched with ⟨found, there, running, -⟩ | signal
  · obtain ⟨found', there', finished⟩ := ended
    cases there.symm.trans there'
    cases running.symm.trans finished
  · exact signal

theorem Remembered.due (h : s.Remembered id) {wait : Wait} {wake : Wake}
    (unasked : s.cancelRequests id = 0) (woken : s.statuses[id]? = some (.woken wait wake)) :
    wake = .due ∧ .resume id ∈ s.ready := by
  have asked := h.asked wait wake woken
  refine ⟨?_, h.awake _ woken rfl⟩
  cases wake with
  | due => rfl
  | dueCancelled => exact absurd unasked (asked rfl)
  | cancelled => exact absurd unasked (asked rfl)

end Session

end Osc
