import Osc.Proofs.Schedule

/-!
What holds of the tasks around a receiver, whatever the order of turns. At most one task
has a pull that is not over. When the receiver is said to be waiting, that task is inside
its pull, and then it waits for the one operation that is under way. A task is told of the
end of an operation only after the end, and before what the operation brought is taken.
All this is about the statuses of the tasks, the turns in the queue, and what tasks see
of the receiver.
-/

namespace Osc.Session

/-- What tasks see of a receiver: whether some task is said to wait, which operation is
under way, whether it has ended, and which tasks are to be told when it does. -/
structure View where
  waiting : Bool
  current : Option ReceiveId
  done : Bool
  watchers : List TaskId

/-- The statuses that the task of an action may have. -/
inductive Follows (action : Action) (current : Option ReceiveId) (done : Bool) :
    TaskStatus → Prop where
  | queued (cancelled : Bool) (traffic : action.isTraffic = true) :
      Follows action current done (.queued action cancelled)
  | running (cancelled : Bool) : Follows action current done (.running cancelled)
  | blocked {receive : ReceiveId} (patience : Nat) (pull : action.isPull = true)
      (joined : current = some receive) :
      Follows action current done (.blocked (.pulling receive ⟨.datagram, patience⟩))
  | woken {receive : ReceiveId} {wake : Wake} (patience : Nat) (pull : action.isPull = true)
      (joined : current = some receive) (told : wake ≠ .cancelled → done = true) :
      Follows action current done (.woken (.pulling receive ⟨.datagram, patience⟩) wake)
  | finished (outcome : Outcome) : Follows action current done (.finished outcome)

structure Consumers (actions : List Action) (statuses : List TaskStatus) (ready : List Turn)
    (v : View) : Prop where
  length : statuses.length = actions.length
  follows : ∀ (id : TaskId) (status : TaskStatus), statuses[id]? = some status →
    ∃ action, actions[id]? = some action ∧ Follows action v.current v.done status
  alone : ∀ (i j : TaskId) (a b : TaskStatus), statuses[i]? = some a → statuses[j]? = some b →
    a.isPull = true → b.isPull = true → i = j
  inside : v.waiting = true → ∃ (id : TaskId) (status : TaskStatus),
    statuses[id]? = some status ∧ status.isPulling = true
  signals : ∀ id : TaskId, .signal id ∈ ready → ∃ status : TaskStatus,
    statuses[id]? = some status ∧
      (status.isOver = true ∨ status.isPulling = true ∧ v.done = true)
  watch : ∀ id ∈ v.watchers, ∃ wait, statuses[id]? = some (.blocked wait)
  nodup : v.watchers.Nodup
  told : v.done = true → v.watchers = []

/-- A status that is not inside a pull does not depend on the receiver. -/
theorem Follows.outside {action : Action} {current : Option ReceiveId} {done : Bool}
    {status : TaskStatus} (h : Follows action current done status)
    (out : status.isPulling = false) (current' : Option ReceiveId) (done' : Bool) :
    Follows action current' done' status := by
  cases h with
  | queued cancelled traffic => exact .queued cancelled traffic
  | running cancelled => exact .running cancelled
  | blocked patience pull joined => cases out
  | woken patience pull joined told => cases out
  | finished outcome => exact .finished outcome

theorem isPulling_eq_false {status : TaskStatus} (h : status.isPull = false) :
    status.isPulling = false := by
  cases status with
  | queued action cancelled => rfl
  | _ => exact h

/-- The end of an operation changes nothing for those who wait for it. -/
theorem Follows.ended {action : Action} {current : Option ReceiveId} {done : Bool}
    {status : TaskStatus} (h : Follows action current done status) :
    Follows action current true status := by
  cases h with
  | queued cancelled traffic => exact .queued cancelled traffic
  | running cancelled => exact .running cancelled
  | blocked patience pull joined => exact .blocked patience pull joined
  | woken patience pull joined told => exact .woken patience pull joined fun _ => rfl
  | finished outcome => exact .finished outcome

theorem getElem?_concat_eq_some {l : List α} {a b : α} {i : Nat} :
    (l ++ [a])[i]? = some b ↔ l[i]? = some b ∨ i = l.length ∧ b = a := by
  rw [List.getElem?_append]
  split
  · next inside =>
    constructor
    · exact .inl
    · rintro (h | ⟨rfl, -⟩)
      · exact h
      · omega
  · next outside =>
    rw [List.getElem?_eq_none (not_lt.mp outside), List.getElem?_singleton]
    simp only [reduceCtorEq, false_or]
    constructor
    · intro h
      split at h
      · exact ⟨by omega, (Option.some.inj h).symm⟩
      · cases h
    · rintro ⟨rfl, rfl⟩
      simp

theorem getElem?_set_eq_some {l : List α} {old new b : α} {i j : Nat}
    (found : l[i]? = some old) :
    (l.set i new)[j]? = some b ↔ j = i ∧ b = new ∨ j ≠ i ∧ l[j]? = some b := by
  have inside := (List.getElem?_eq_some_iff.mp found).1
  rw [List.getElem?_set]
  by_cases same : i = j
  · subst same
    simp [inside, eq_comm]
  · simp [same, Ne.symm same]

/-- No other task has a pull that is not over. -/
def Only (statuses : List TaskStatus) (id : TaskId) : Prop :=
  ∀ (other : TaskId) (status : TaskStatus), other ≠ id → statuses[other]? = some status →
    status.isPull = false

namespace Consumers

variable {actions : List Action} {statuses : List TaskStatus} {ready : List Turn} {v : View}

theorem start : Consumers [] [] [] ⟨false, none, false, []⟩ where
  length := rfl
  follows := by simp
  alone := by simp
  inside := by simp
  signals := by simp
  watch := by simp
  nodup := List.nodup_nil
  told := by simp

/-- Turns other than signals do not matter, nor does it matter when turns are given up. -/
theorem turns (h : Consumers actions statuses ready v) {after : List Turn}
    (fewer : ∀ id, .signal id ∈ after → .signal id ∈ ready) :
    Consumers actions statuses after v :=
  { h with signals := fun id member => h.signals id (fewer id member) }

theorem unwait (h : Consumers actions statuses ready v) :
    Consumers actions statuses ready { v with waiting := false } :=
  { h with inside := by simp }

theorem unwatch (h : Consumers actions statuses ready v) (id : TaskId) :
    Consumers actions statuses ready { v with watchers := v.watchers.erase id } :=
  { h with
    watch := fun other member => h.watch other (List.mem_of_mem_erase member)
    nodup := h.nodup.erase id
    told := fun done => by simp [h.told done] }

theorem spawn (h : Consumers actions statuses ready v) {action : Action}
    (traffic : action.isTraffic = true)
    (single : action.isPull = true → ∀ status ∈ statuses, status.isPull = false) :
    Consumers (actions ++ [action]) (statuses ++ [.queued action false])
      (ready ++ [.resume statuses.length]) v where
  length := by simp [h.length]
  follows id status found := by
    rcases getElem?_concat_eq_some.mp found with old | ⟨rfl, rfl⟩
    · obtain ⟨a, here, follows⟩ := h.follows id status old
      exact ⟨a, getElem?_concat_eq_some.mpr (.inl here), follows⟩
    · exact ⟨action, getElem?_concat_eq_some.mpr (.inr ⟨h.length, rfl⟩), .queued false traffic⟩
  alone i j a b atI atJ pullA pullB := by
    rcases getElem?_concat_eq_some.mp atI with oldI | ⟨rfl, rfl⟩
    · rcases getElem?_concat_eq_some.mp atJ with oldJ | ⟨rfl, rfl⟩
      · exact h.alone i j a b oldI oldJ pullA pullB
      · have none := single pullB a (List.mem_of_getElem? oldI)
        simp [none] at pullA
    · rcases getElem?_concat_eq_some.mp atJ with oldJ | ⟨rfl, rfl⟩
      · have none := single pullA b (List.mem_of_getElem? oldJ)
        simp [none] at pullB
      · rfl
  inside waiting := by
    obtain ⟨id, status, found, pulling⟩ := h.inside waiting
    exact ⟨id, status, getElem?_concat_eq_some.mpr (.inl found), pulling⟩
  signals id member := by
    obtain ⟨status, found, told⟩ := h.signals id (by simpa using member)
    exact ⟨status, getElem?_concat_eq_some.mpr (.inl found), told⟩
  watch id member := by
    obtain ⟨wait, found⟩ := h.watch id member
    exact ⟨wait, getElem?_concat_eq_some.mpr (.inl found)⟩
  nodup := h.nodup
  told := h.told

/-- A task goes on to another status. It does not start a pull; inside a pull it stays there
while the receiver is waiting and until it is over once it was told; and it stays blocked
while it is to be told. -/
theorem replace (h : Consumers actions statuses ready v) {id : TaskId} {old new : TaskStatus}
    (found : statuses[id]? = some old) (running : old.isOver = false)
    (follows : ∀ action, Follows action v.current v.done old → Follows action v.current v.done new)
    (pull : new.isPull = true → old.isPull = true)
    (inside : v.waiting = true → old.isPulling = true → new.isPulling = true)
    (told : v.done = true → old.isPulling = true → new.isOver = true ∨ new.isPulling = true)
    (watch : id ∈ v.watchers → ∃ wait, new = .blocked wait) :
    Consumers actions (statuses.set id new) ready v where
  length := by rw [List.length_set, h.length]
  follows i status atI := by
    rcases (getElem?_set_eq_some found).mp atI with ⟨rfl, rfl⟩ | ⟨other, atI⟩
    · obtain ⟨action, here, before⟩ := h.follows i old found
      exact ⟨action, here, follows action before⟩
    · exact h.follows i status atI
  alone i j a b atI atJ pullA pullB := by
    rcases (getElem?_set_eq_some found).mp atI with ⟨rfl, rfl⟩ | ⟨otherI, oldI⟩
    · rcases (getElem?_set_eq_some found).mp atJ with ⟨rfl, rfl⟩ | ⟨otherJ, oldJ⟩
      · rfl
      · exact h.alone i j old b found oldJ (pull pullA) pullB
    · rcases (getElem?_set_eq_some found).mp atJ with ⟨rfl, rfl⟩ | ⟨otherJ, oldJ⟩
      · exact h.alone i j a old oldI found pullA (pull pullB)
      · exact h.alone i j a b oldI oldJ pullA pullB
  inside waiting := by
    obtain ⟨i, status, atI, pulling⟩ := h.inside waiting
    by_cases same : i = id
    · subst same
      cases found.symm.trans atI
      exact ⟨i, new, (getElem?_set_eq_some found).mpr (.inl ⟨rfl, rfl⟩), inside waiting pulling⟩
    · exact ⟨i, status, (getElem?_set_eq_some found).mpr (.inr ⟨same, atI⟩), pulling⟩
  signals i member := by
    obtain ⟨status, atI, either⟩ := h.signals i member
    by_cases same : i = id
    · subst same
      cases found.symm.trans atI
      refine ⟨new, (getElem?_set_eq_some found).mpr (.inl ⟨rfl, rfl⟩), ?_⟩
      rcases either with ended | ⟨pulling, done⟩
      · simp [running] at ended
      · exact (told done pulling).imp_right fun still => ⟨still, done⟩
    · exact ⟨status, (getElem?_set_eq_some found).mpr (.inr ⟨same, atI⟩), either⟩
  watch i member := by
    by_cases same : i = id
    · subst same
      obtain ⟨wait, rfl⟩ := watch member
      exact ⟨wait, (getElem?_set_eq_some found).mpr (.inl ⟨rfl, rfl⟩)⟩
    · obtain ⟨wait, atI⟩ := h.watch i member
      exact ⟨wait, (getElem?_set_eq_some found).mpr (.inr ⟨same, atI⟩)⟩
  nodup := h.nodup
  told := h.told

theorem only (h : Consumers actions statuses ready v) {id : TaskId} {status : TaskStatus}
    (found : statuses[id]? = some status) (pull : status.isPull = true) : Only statuses id := by
  intro other status' different found'
  rw [Bool.eq_false_iff]
  intro pull'
  exact different (h.alone other id status' status found' found pull' pull)

/-- While only a task that is not inside its pull has one, nobody is said to wait. -/
theorem free (h : Consumers actions statuses ready v) {id : TaskId} {status : TaskStatus}
    (found : statuses[id]? = some status) (single : Only statuses id)
    (outside : status.isPulling = false) : v.waiting = false := by
  rw [Bool.eq_false_iff]
  intro waiting
  obtain ⟨other, status', found', pulling⟩ := h.inside waiting
  by_cases same : other = id
  · subst same
    cases found.symm.trans found'
    simp [outside] at pulling
  · have calm := isPulling_eq_false (single other status' same found')
    simp [calm] at pulling

/-- A task starts to wait for an operation, which is new or still under way. -/
theorem join (h : Consumers actions statuses ready v) {id : TaskId} {before : TaskStatus}
    (receive : ReceiveId) (patience : Nat) (found : statuses[id]? = some before)
    (running : before.isOver = false) (unwatched : id ∉ v.watchers) (single : Only statuses id)
    (pull : ∀ action, actions[id]? = some action → action.isPull = true)
    (undone : v.done = false) :
    Consumers actions (statuses.set id (.blocked (.pulling receive ⟨.datagram, patience⟩))) ready
      ⟨true, some receive, false, v.watchers ++ [id]⟩ := by
  have now {i : TaskId} {status : TaskStatus} :
      (statuses.set id (.blocked (.pulling receive ⟨.datagram, patience⟩)))[i]? = some status ↔
        i = id ∧ status = .blocked (.pulling receive ⟨.datagram, patience⟩) ∨
          i ≠ id ∧ statuses[i]? = some status := getElem?_set_eq_some found
  -- Only one who is inside a pull watches, and nobody else is.
  have nobody : v.watchers = [] := by
    rw [List.eq_nil_iff_forall_not_mem]
    intro i member
    obtain ⟨wait, blocked⟩ := h.watch i member
    obtain ⟨action, -, follows⟩ := h.follows i _ blocked
    have different : i ≠ id := by
      rintro rfl
      exact unwatched member
    have outside := single i _ different blocked
    cases follows
    cases outside
  have others {i : TaskId} {status : TaskStatus} (different : i ≠ id)
      (old : statuses[i]? = some status) : status.isPulling = false :=
    isPulling_eq_false (single i status different old)
  constructor
  case length => rw [List.length_set, h.length]
  case follows =>
    intro i status atI
    rcases now.mp atI with ⟨rfl, rfl⟩ | ⟨different, old⟩
    · obtain ⟨action, here, -⟩ := h.follows i _ found
      exact ⟨action, here, .blocked patience (pull action here) rfl⟩
    · obtain ⟨action, here, follows⟩ := h.follows i status old
      exact ⟨action, here, follows.outside (others different old) _ _⟩
  case alone =>
    have here {i : TaskId} {a : TaskStatus}
        (atI : (statuses.set id (.blocked (.pulling receive ⟨.datagram, patience⟩)))[i]? = some a)
        (pullA : a.isPull = true) : i = id := by
      rcases now.mp atI with ⟨rfl, -⟩ | ⟨different, old⟩
      · rfl
      · simp [single i a different old] at pullA
    intro i j a b atI atJ pullA pullB
    exact (here atI pullA).trans (here atJ pullB).symm
  case inside => exact fun _ => ⟨id, _, now.mpr (.inl ⟨rfl, rfl⟩), rfl⟩
  case signals =>
    intro i member
    obtain ⟨status, old, either⟩ := h.signals i member
    rcases either with ended | ⟨-, done⟩
    · refine ⟨status, now.mpr (.inr ⟨?_, old⟩), .inl ended⟩
      rintro rfl
      cases found.symm.trans old
      simp [running] at ended
    · simp [undone] at done
  case watch =>
    intro i member
    rw [nobody, List.nil_append, List.mem_singleton] at member
    exact ⟨_, now.mpr (.inl ⟨member, rfl⟩)⟩
  case nodup =>
    rw [nobody]
    exact List.nodup_singleton id
  case told => simp

/-- A task takes what an operation has brought, and is over. -/
theorem take (h : Consumers actions statuses ready v) {id : TaskId} {before : TaskStatus}
    (outcome : Outcome) (found : statuses[id]? = some before) (single : Only statuses id) :
    Consumers actions (statuses.set id (.finished outcome)) ready ⟨false, none, false, []⟩ := by
  have now {i : TaskId} {status : TaskStatus} :
      (statuses.set id (.finished outcome))[i]? = some status ↔
        i = id ∧ status = .finished outcome ∨ i ≠ id ∧ statuses[i]? = some status :=
    getElem?_set_eq_some found
  have others {i : TaskId} {status : TaskStatus} (different : i ≠ id)
      (old : statuses[i]? = some status) : status.isPulling = false :=
    isPulling_eq_false (single i status different old)
  constructor
  case length => rw [List.length_set, h.length]
  case follows =>
    intro i status atI
    rcases now.mp atI with ⟨rfl, rfl⟩ | ⟨different, old⟩
    · obtain ⟨action, here, -⟩ := h.follows i _ found
      exact ⟨action, here, .finished outcome⟩
    · obtain ⟨action, here, follows⟩ := h.follows i status old
      exact ⟨action, here, follows.outside (others different old) _ _⟩
  case alone =>
    intro i j a b atI atJ pullA pullB
    rcases now.mp atI with ⟨rfl, rfl⟩ | ⟨different, old⟩
    · cases pullA
    · simp [single i a different old] at pullA
  case inside => simp
  case signals =>
    intro i member
    obtain ⟨status, old, either⟩ := h.signals i member
    by_cases same : i = id
    · exact ⟨_, now.mpr (.inl ⟨same, rfl⟩), .inl rfl⟩
    · rcases either with ended | ⟨pulling, -⟩
      · exact ⟨status, now.mpr (.inr ⟨same, old⟩), .inl ended⟩
      · simp [others same old] at pulling
  case watch => simp
  case nodup => exact List.nodup_nil
  case told => simp

/-- The operation ends, and the one who watches it is to be told. -/
theorem finish (h : Consumers actions statuses ready v) (undone : v.done = false) :
    Consumers actions statuses (ready ++ v.watchers.map .signal)
      ⟨v.waiting, v.current, true, []⟩ where
  length := h.length
  follows id status found := by
    obtain ⟨action, here, follows⟩ := h.follows id status found
    exact ⟨action, here, follows.ended⟩
  alone := h.alone
  inside := h.inside
  signals id member := by
    rcases List.mem_append.mp member with old | new
    · obtain ⟨status, found, either⟩ := h.signals id old
      rcases either with ended | ⟨-, done⟩
      · exact ⟨status, found, .inl ended⟩
      · simp [undone] at done
    · obtain ⟨wait, found⟩ := h.watch id (by simpa using new)
      obtain ⟨action, -, follows⟩ := h.follows id _ found
      refine ⟨_, found, .inr ⟨?_, rfl⟩⟩
      cases follows
      rfl
  watch := by simp
  nodup := List.nodup_nil
  told _ := rfl

end Consumers

end Osc.Session
