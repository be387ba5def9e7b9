import Osc.Proofs.Passages

/-!
Those who wait to write to a socket. They share one latch, which is closed as long as a callback is
registered for the socket; when it is opened, each of them has a turn in which it is told. How a
call fares is said for each call by itself: what it has handed over, where it stands and what its
task is at. All that other tasks can do to it is to open the latch, to cancel it, or to bring an
arrival that it waits for.
-/

namespace Osc

/-- The calls of an endpoint, and what happens around it. -/
def Action.isUse : Action → Bool
  | .feed _ | .script _ | .cancel _ | .closeEndpoint | .writable | .connect _ | .write ..
  | .receive _ | .localAddress _ | .peerAddress | .socketType | .settings | .shown
  | .refuse _ => true
  | .acquire | .release | .next _ | .iterate .. | .recv _ | .cancelReceive | .send ..
  | .sendWithin .. | .sender _ | .clone .. | .close _ | .opening _ => false

def Action.isWrite : Action → Bool
  | .write .. => true
  | _ => false

def Action.isClose : Action → Bool
  | .closeEndpoint => true
  | _ => false

/-- A datagram that was handed to the socket, where it goes, and the count that was the answer. -/
structure Dispatch where
  data : Bytes
  goal : Value
  count : Int

/-- How a call fares at an endpoint that is closed or not: what it has handed over, how often it
stands at the latch, in how many turns it is to be told, and what its task is at. -/
inductive Fares (closed : Bool) : Action → List Dispatch → Nat → Nat → TaskStatus → Prop where
  | queued (action : Action) (cancelled : Bool) :
      Fares closed action [] 0 0 (.queued action cancelled)
  | running (action : Action) (cancelled : Bool) : Fares closed action [] 0 0 (.running cancelled)
  /-- A write waits at the latch, or at one that was opened. -/
  | blocked (data : Bytes) (address goal : Option Value) {latched told : Nat}
      (once : latched + told = 1) :
      Fares closed (.write data address) [] latched told (.blocked (.writing ⟨data, goal, .count⟩))
  | due (data : Bytes) (address goal : Option Value) :
      Fares closed (.write data address) [] 0 0 (.woken (.writing ⟨data, goal, .count⟩) .due)
  /-- A write that is cancelled is not told of the latch any more. -/
  | leaves (data : Bytes) (address goal : Option Value) {wake : Wake}
      (cancelled : wake.isCancelled = true) :
      Fares closed (.write data address) [] 0 0 (.woken (.writing ⟨data, goal, .count⟩) wake)
  | taking (size : Int) (buffer : BufferId) :
      Fares closed (.receive size) [] 0 0 (.blocked (.taking buffer))
  | took (size : Int) (buffer : BufferId) (wake : Wake) :
      Fares closed (.receive size) [] 0 0 (.woken (.taking buffer) wake)
  | returned (data : Bytes) (address : Option Value) (goal : Value) (count : Int) :
      Fares closed (.write data address) [⟨data, goal, count⟩] 0 0
        (.finished (.value (.sent count)))
  | raised (data : Bytes) (address : Option Value) (fault : Fault) :
      Fares closed (.write data address) [] 0 0 (.finished (.fault fault))
  | cancelled (action : Action) : Fares closed action [] 0 0 (.finished .cancelled)
  | ended {action : Action} (other : action.isWrite = false) (outcome : Outcome)
      (shut : action.isClose = true → closed = true) :
      Fares closed action [] 0 0 (.finished outcome)

namespace Fares

variable {closed : Bool} {action : Action} {made : List Dispatch} {latched told : Nat}
  {status : TaskStatus}

theorem mono (h : Fares closed action made latched told status) {closed' : Bool}
    (later : closed = true → closed' = true) : Fares closed' action made latched told status := by
  cases h with
  | queued => exact .queued ..
  | running => exact .running ..
  | blocked data address goal once => exact .blocked data address goal once
  | due => exact .due ..
  | leaves data address goal cancelled => exact .leaves data address goal cancelled
  | taking => exact .taking ..
  | took => exact .took ..
  | returned => exact .returned ..
  | raised => exact .raised ..
  | cancelled => exact .cancelled ..
  | ended other outcome shut => exact .ended other outcome (later ∘ shut)

/-- Whoever stood at the latch is to be told once it is opened. -/
theorem opens (h : Fares closed action made latched told status) :
    Fares closed action made 0 (told + latched) status := by
  cases h with
  | queued => exact .queued ..
  | running => exact .running ..
  | blocked data address goal once => exact .blocked data address goal (by omega)
  | due => exact .due ..
  | leaves data address goal cancelled => exact .leaves data address goal cancelled
  | taking => exact .taking ..
  | took => exact .took ..
  | returned => exact .returned ..
  | raised => exact .raised ..
  | cancelled => exact .cancelled ..
  | ended other outcome shut => exact .ended other outcome shut

/-- Only writes that wait stand at the latch. -/
theorem waits (h : Fares closed action made latched told status) (here : latched ≠ 0) :
    told = 0 ∧ ∃ w, status = .blocked (.writing w) := by
  cases h with
  | blocked data address goal once => exact ⟨by omega, _, rfl⟩
  | _ => exact absurd rfl here

section Transitions

variable {wait : Wait} {w : Write} {wake : Wake}

/-- A task that is told of the latch goes on. -/
theorem tell (h : Fares closed action made latched (told + 1) (.blocked wait)) :
    Fares closed action made latched told (.woken wait .due) := by
  cases h with
  | blocked data address goal once =>
    obtain ⟨rfl, rfl⟩ : latched = 0 ∧ told = 0 := by omega
    exact .due data address goal

/-- Only a task that waits is to be told. -/
theorem hears (h : Fares closed action made latched told status) (here : told ≠ 0) :
    ∃ wait, status = .blocked wait := by
  cases h with
  | blocked => exact ⟨_, rfl⟩
  | _ => exact absurd rfl here

/-- Tasks wait to write or for an arrival. -/
theorem direct (h : Fares closed action made latched told (.blocked wait)) :
    (∃ w, wait = .writing w) ∨ ∃ buffer, wait = .taking buffer := by
  cases h with
  | blocked => exact .inl ⟨_, rfl⟩
  | taking size buffer => exact .inr ⟨buffer, rfl⟩

theorem takes {size : Int} (h : Fares closed (.receive size) made latched told (.blocked wait)) :
    ∃ buffer, wait = .taking buffer := by
  cases h with
  | taking size buffer => exact ⟨buffer, rfl⟩

theorem wakes {buffer : BufferId}
    (h : Fares closed action made latched told (.blocked (.taking buffer))) (wake : Wake) :
    Fares closed action made latched told (.woken (.taking buffer) wake) := by
  cases h with
  | taking size buffer => exact .took size buffer wake

/-- A call whose task has not begun may be cancelled. -/
theorem dooms {queued : Action} {cancelled : Bool}
    (h : Fares closed action made latched told (.queued queued cancelled)) :
    Fares closed action made latched told (.queued queued true) := by
  cases h with
  | queued => exact .queued action true

theorem asks {cancelled : Bool} (h : Fares closed action made latched told (.running cancelled)) :
    Fares closed action made latched told (.running true) := by
  cases h with
  | running => exact .running action true

/-- A task that waits for an arrival is not told of anything. -/
theorem untold {buffer : BufferId}
    (h : Fares closed action made latched told (.blocked (.taking buffer))) : told = 0 := by
  cases h with
  | taking size buffer => rfl

/-- A write that is cancelled leaves the latch. -/
theorem stops (h : Fares closed action made latched told (.blocked (.writing w))) :
    Fares closed action made (latched - 1) 0 (.woken (.writing w) .cancelled) := by
  cases h with
  | blocked data address goal once =>
    obtain rfl | rfl : latched = 0 ∨ latched = 1 := by omega
    · exact .leaves data address goal rfl
    · exact .leaves data address goal rfl

theorem marks (h : Fares closed action made latched told (.woken wait wake)) :
    Fares closed action made latched told (.woken wait wake.cancel) := by
  cases h with
  | due data address goal => exact .leaves data address goal rfl
  | leaves data address goal cancelled =>
    refine .leaves data address goal ?_
    cases wake <;> rfl
  | took size buffer wake => exact .took size buffer wake.cancel

end Transitions

end Fares

/-- The endpoint of a socket with what it has handed over. A callback is registered exactly while
there is a latch, and a closed endpoint has none. -/
structure Endpoint.Regular (sent : List (Bytes × Value)) (e : Endpoint) : Prop where
  socket : e.isSocket = true
  watched : e.latch.isSome = e.watched
  shut : e.closed = true → e.latch = none
  sent : e.network.sent = sent

namespace Endpoint.Regular

variable {sent : List (Bytes × Value)} {e : Endpoint}

theorem stopAwaiting (h : e.Regular sent) (id : TaskId) : (e.stopAwaiting id).Regular sent where
  socket := h.socket
  watched := Option.isSome_map.trans h.watched
  shut closed := by rw [Endpoint.stopAwaiting, h.shut closed, Option.map_none]
  sent := h.sent

theorem awaitWritable (h : e.Regular sent) (isOpen : e.closed = false) (id : TaskId) :
    (e.awaitWritable id).Regular sent := by
  have watched := h.watched
  unfold Endpoint.awaitWritable
  cases latch : e.latch with
  | none =>
    refine ⟨h.socket, rfl, fun closed => ?_, h.sent⟩
    cases isOpen.symm.trans closed
  | some tasks =>
    rw [latch] at watched
    refine ⟨h.socket, watched, fun closed => ?_, h.sent⟩
    cases isOpen.symm.trans closed

end Endpoint.Regular

theorem Endpoint.closed_awaitWritable (e : Endpoint) (id : TaskId) :
    (e.awaitWritable id).closed = e.closed := by
  unfold awaitWritable
  cases e.latch <;> rfl

theorem Endpoint.network_awaitWritable (e : Endpoint) (id : TaskId) :
    (e.awaitWritable id).network = e.network := by
  unfold awaitWritable
  cases e.latch <;> rfl

theorem Endpoint.latch_stopAwaiting (e : Endpoint) (id : TaskId) :
    (e.stopAwaiting id).latch.getD [] = (e.latch.getD []).erase id := by
  unfold stopAwaiting
  cases e.latch <;> rfl

namespace Session

variable {given : Option Turn} {s t u : Session} {e e' : Endpoint} {id : TaskId}
  {calls : List Action} {ledger : TaskId → List Dispatch} {sent sent' : List (Bytes × Value)}

/-- In how many turns a task is to be told. -/
def told (s : Session) (id : TaskId) : Nat := s.ready.count (.signal id)

theorem latched_congr (link : t.link = s.link) : t.latched = s.latched := by
  simp only [latched, endpoint?, link]

theorem isEndpointClosed_up (up : s.link = .up e) : s.isEndpointClosed = e.closed := by
  simp only [isEndpointClosed, endpoint?, up, Option.any_some]

/-- The calls on an endpoint over a socket, with what each has handed over. -/
structure Accounted (calls : List Action) (ledger : TaskId → List Dispatch)
    (sent : List (Bytes × Value)) (s : Session) : Prop where
  layer : s.layer = .endpoint
  receives : s.receives = []
  endpoint : ∃ e, s.link = .up e ∧ e.Regular sent
  length : s.statuses.length = calls.length
  fares : ∀ (id : TaskId) (status : TaskStatus), s.statuses[id]? = some status →
    ∃ action, calls[id]? = some action ∧
      Fares s.isEndpointClosed action (ledger id) (s.latched.count id) (s.told id) status
  absent : ∀ id, calls.length ≤ id → ledger id = [] ∧ s.latched.count id = 0 ∧ s.told id = 0
  woken : ∀ (id : TaskId) (wait : Wait) (wake : Wake),
    s.statuses[id]? = some (.woken wait wake) → .resume id ∈ s.ready
  takers : ∀ id, .task id ∈ s.network.inbox.waiting → ∃ size, calls[id]? = some (.receive size)

/-- A step that is not noticed by those who wait, with what the endpoint has handed over then. -/
structure Beside (calls : List Action) (sent : List (Bytes × Value)) (s t : Session) : Prop where
  layer : t.layer = s.layer
  receives : t.receives = s.receives
  endpoint : ∃ e, t.link = .up e ∧ e.Regular sent
  closed : t.isEndpointClosed = s.isEndpointClosed
  takers : ∀ id, .task id ∈ t.network.inbox.waiting → .task id ∈ s.network.inbox.waiting ∨
    ∃ size, calls[id]? = some (.receive size)

theorem Takes.link {turn : Turn} (took : Takes given s turn t) : t.link = s.link := by
  cases took
  rfl

theorem Takes.told {turn : Turn} (took : Takes given s turn t) (other : turn ≠ .signal id) :
    t.told id = s.told id := by
  rw [Session.told, Session.told, ← took.perm.count_eq, List.count_cons_of_ne other]

/-- A task stands where it stood. -/
structure Unmoved (s t : Session) (id : TaskId) : Prop where
  latched : t.latched.count id = s.latched.count id
  told : t.told id = s.told id
  turn : .resume id ∈ s.ready → .resume id ∈ t.ready

namespace Unmoved

theorem trans (first : Unmoved s t id) (second : Unmoved t u id) : Unmoved s u id where
  latched := second.latched.trans first.latched
  told := second.told.trans first.told
  turn := second.turn ∘ first.turn

theorem same (link : t.link = s.link) (ready : t.ready = s.ready) : Unmoved s t id where
  latched := by rw [latched_congr link]
  told := by rw [Session.told, Session.told, ready]
  turn := by
    rw [ready]
    exact fun member => member

/-- There is one more turn, in which the task is not told. -/
theorem queued {turn : Turn} (link : t.link = s.link) (ready : t.ready = s.ready ++ [turn])
    (other : turn ≠ .signal id) : Unmoved s t id where
  latched := by rw [latched_congr link]
  told := by
    rw [Session.told, ready, List.count_append, List.count_singleton, beq_false_of_ne other]
    rfl
  turn member := ready ▸ List.mem_append_left _ member

theorem alike (up : s.link = .up e) (up' : t.link = .up e') (latch : e'.latch = e.latch)
    (ready : t.ready = s.ready) : Unmoved s t id where
  latched := by rw [latched_up up', latched_up up, latch]
  told := by rw [Session.told, Session.told, ready]
  turn := by
    rw [ready]
    exact fun member => member

/-- Another will not be told any more. -/
theorem unsignal {other : TaskId} (different : id ≠ other) (s : Session) :
    Unmoved s (s.unsignal other) id where
  latched := rfl
  told := List.count_filter (by simpa using different)
  turn member := List.mem_filter.mpr ⟨member, by simp⟩

/-- A task that is not to be told loses nothing. -/
theorem untold (silent : s.told id = 0) : Unmoved s (s.unsignal id) id where
  latched := rfl
  told := by
    rw [silent]
    exact List.count_eq_zero.mpr fun member => by simp [Session.unsignal] at member
  turn member := List.mem_filter.mpr ⟨member, by simp⟩

/-- The turn of another is taken. -/
theorem took {turn : Turn} (took : Takes given s turn t) (resume : turn ≠ .resume id)
    (signal : turn ≠ .signal id) : Unmoved s t id where
  latched := by rw [latched_congr took.link]
  told := took.told signal
  turn member := (took.ready member).resolve_left resume.symm

end Unmoved

namespace Beside

theorem link (endpoint : ∃ e, s.link = .up e ∧ e.Regular sent) (layer : t.layer = s.layer)
    (receives : t.receives = s.receives) (link : t.link = s.link) : Beside calls sent s t where
  layer := layer
  receives := receives
  endpoint := by rwa [link]
  closed := by simp only [isEndpointClosed, endpoint?, link]
  takers id member := by
    simp only [network, link] at member ⊢
    exact .inl member

theorem took {turn : Turn} (endpoint : ∃ e, s.link = .up e ∧ e.Regular sent)
    (took : Takes given s turn t) (layer : u.layer = t.layer) (receives : u.receives = t.receives)
    (link : u.link = t.link) : Beside calls sent s u := by
  cases took
  exact .link endpoint layer receives link

theorem alike (up : s.link = .up e) (regular : e.Regular sent) (layer : t.layer = s.layer)
    (receives : t.receives = s.receives) (up' : t.link = .up e') (medium : e'.medium = e.medium)
    (closed : e'.closed = e.closed) (latch : e'.latch = e.latch) (watched : e'.watched = e.watched)
    (same : e'.network.sent = sent')
    (takers : ∀ id, .task id ∈ e'.network.inbox.waiting → .task id ∈ e.network.inbox.waiting ∨
      ∃ size, calls[id]? = some (.receive size)) :
    Beside calls sent' s t where
  layer := layer
  receives := receives
  endpoint := by
    refine ⟨e', up', ⟨?_, ?_, ?_, same⟩⟩
    · rw [Endpoint.isSocket, medium]
      exact regular.socket
    · rw [latch, watched, regular.watched]
    · rw [closed, latch]
      exact regular.shut
  closed := by rw [isEndpointClosed_up up', isEndpointClosed_up up, closed]
  takers := by rwa [network_up up', network_up up]

end Beside

namespace Accounted

variable {ledger' : TaskId → List Dispatch} {old new : TaskStatus}

/-- One task goes on. -/
theorem set (h : Accounted calls ledger sent s) (beside : Beside calls sent' s t)
    (found : s.statuses[id]? = some old) (statuses : t.statuses = s.statuses.set id new)
    (others : ∀ i, i ≠ id → ledger' i = ledger i ∧ Unmoved s t i)
    (fares : ∀ action, calls[id]? = some action →
      Fares s.isEndpointClosed action (ledger id) (s.latched.count id) (s.told id) old →
      Fares s.isEndpointClosed action (ledger' id) (t.latched.count id) (t.told id) new)
    (turn : ∀ wait wake, new = .woken wait wake → .resume id ∈ t.ready) :
    Accounted calls ledger' sent' t where
  layer := beside.layer.trans h.layer
  receives := beside.receives.trans h.receives
  endpoint := beside.endpoint
  length := by rw [statuses, List.length_set, h.length]
  fares i status now := by
    rw [statuses] at now
    rw [beside.closed]
    rcases (getElem?_set_eq_some found).mp now with ⟨rfl, rfl⟩ | ⟨other, still⟩
    · obtain ⟨action, here, before⟩ := h.fares i old found
      exact ⟨action, here, fares action here before⟩
    · obtain ⟨same, unmoved⟩ := others i other
      rw [same, unmoved.latched, unmoved.told]
      exact h.fares i status still
  absent i beyond := by
    have other : i ≠ id := by
      rintro rfl
      have inside := (List.getElem?_eq_some_iff.mp found).1
      exact absurd inside (Nat.not_lt.mpr (h.length.trans_le beyond))
    obtain ⟨same, unmoved⟩ := others i other
    rw [same, unmoved.latched, unmoved.told]
    exact h.absent i beyond
  woken i wait wake now := by
    rw [statuses] at now
    rcases (getElem?_set_eq_some found).mp now with ⟨rfl, same⟩ | ⟨other, still⟩
    · exact turn wait wake same.symm
    · exact (others i other).2.turn (h.woken i wait wake still)
  takers i member := (beside.takers i member).elim (h.takers i) fun call => call

/-- One task goes on, and stands where it stood. -/
theorem goes (h : Accounted calls ledger sent s) (layer : t.layer = s.layer)
    (receives : t.receives = s.receives) (link : t.link = s.link)
    (found : s.statuses[id]? = some old) (statuses : t.statuses = s.statuses.set id new)
    (unmoved : ∀ i, Unmoved s t i)
    (fares : ∀ action, calls[id]? = some action →
      Fares s.isEndpointClosed action (ledger id) (s.latched.count id) (s.told id) old →
      Fares s.isEndpointClosed action (ledger id) (s.latched.count id) (s.told id) new)
    (turn : ∀ wait wake, new = .woken wait wake → .resume id ∈ t.ready) :
    Accounted calls ledger sent t := by
  refine h.set (.link h.endpoint layer receives link) found statuses
    (fun i _ => ⟨rfl, unmoved i⟩) ?_ turn
  rw [(unmoved id).latched, (unmoved id).told]
  exact fares

/-- No task goes on. -/
theorem keep (h : Accounted calls ledger sent s) (beside : Beside calls sent' s t)
    (statuses : t.statuses = s.statuses) (unmoved : ∀ i, Unmoved s t i) :
    Accounted calls ledger sent' t where
  layer := beside.layer.trans h.layer
  receives := beside.receives.trans h.receives
  endpoint := beside.endpoint
  length := by rw [statuses, h.length]
  fares i status now := by
    rw [statuses] at now
    rw [beside.closed, (unmoved i).latched, (unmoved i).told]
    exact h.fares i status now
  absent i beyond := by
    rw [(unmoved i).latched, (unmoved i).told]
    exact h.absent i beyond
  woken i wait wake now := by
    rw [statuses] at now
    exact (unmoved i).turn (h.woken i wait wake now)
  takers i member := (beside.takers i member).elim (h.takers i) fun call => call

/-- The latch is opened, and the endpoint may be closed. -/
theorem opens (h : Accounted calls ledger sent s) (up : s.link = .up e)
    (medium : e'.medium = e.medium) (latch : e'.latch = none) (watched : e'.watched = false)
    (closed : e.closed = true → e'.closed = true)
    (waiting : e'.network.inbox.waiting = e.network.inbox.waiting)
    (same : e'.network.sent = e.network.sent) :
    Accounted calls ledger sent ((s.onto e').signalAll (e.latch.getD [])) := by
  let t := (s.onto e').signalAll (e.latch.getD [])
  have up' : t.link = .up e' := rfl
  obtain ⟨before, link, regular⟩ := h.endpoint
  cases up.symm.trans link
  have latched (i : TaskId) : t.latched.count i = 0 := by
    rw [latched_up up', latch]
    rfl
  have told (i : TaskId) : t.told i = s.told i + s.latched.count i := by
    have signals : (e.latch.getD []).count i =
        ((e.latch.getD []).map Turn.signal).count (.signal i) :=
      (List.count_map_of_injective _ _ (fun _ _ => Turn.signal.inj) i).symm
    rw [latched_up up, signals]
    exact List.count_append
  constructor
  case layer => exact h.layer
  case receives => exact h.receives
  case endpoint =>
    refine ⟨e', rfl, ?_, ?_, fun _ => latch, same.trans regular.sent⟩
    · rw [Endpoint.isSocket, medium]
      exact regular.socket
    · rw [latch, watched]
      rfl
  case length => exact h.length
  case fares =>
    intro i status now
    obtain ⟨action, here, fares⟩ := h.fares i status now
    refine ⟨action, here, ?_⟩
    rw [latched, told]
    refine fares.opens.mono fun before => ?_
    rw [isEndpointClosed_up up] at before
    rw [isEndpointClosed_up up']
    exact closed before
  case absent =>
    intro i beyond
    obtain ⟨none, away, silent⟩ := h.absent i beyond
    rw [latched, told, away, silent]
    exact ⟨none, rfl, rfl⟩
  case woken =>
    intro i wait wake now
    exact List.mem_append_left _ (h.woken i wait wake now)
  case takers =>
    intro i member
    rw [network_up up', waiting, ← network_up up] at member
    exact h.takers i member

theorem spawn (h : Accounted calls ledger sent s) (name : Text) (action : Action) :
    Accounted (calls ++ [action]) ledger sent (s.spawn name action) := by
  have statuses : (s.spawn name action).statuses = s.statuses ++ [.queued action false] :=
    List.map_append
  have unmoved (i : TaskId) : Unmoved s (s.spawn name action) i := .queued rfl rfl (by simp)
  obtain ⟨e, up, regular⟩ := h.endpoint
  have closed : (s.spawn name action).isEndpointClosed = s.isEndpointClosed := rfl
  constructor
  case layer => exact h.layer
  case receives => exact h.receives
  case endpoint => exact ⟨e, up, regular⟩
  case length => simp [statuses, h.length]
  case fares =>
    intro i status now
    rw [closed, (unmoved i).latched, (unmoved i).told]
    rw [statuses] at now
    rcases getElem?_concat_eq_some.mp now with old | ⟨rfl, rfl⟩
    · obtain ⟨action', here, fares⟩ := h.fares i status old
      exact ⟨action', getElem?_concat_eq_some.mpr (.inl here), fares⟩
    · refine ⟨action, getElem?_concat_eq_some.mpr (.inr ⟨h.length, rfl⟩), ?_⟩
      obtain ⟨none, away, silent⟩ := h.absent s.statuses.length h.length.ge
      rw [none, away, silent]
      exact .queued action false
  case absent =>
    intro i beyond
    rw [(unmoved i).latched, (unmoved i).told]
    rw [List.length_append] at beyond
    exact h.absent i (Nat.le_of_add_right_le beyond)
  case woken =>
    intro i wait wake now
    rw [statuses] at now
    rcases getElem?_concat_eq_some.mp now with old | ⟨-, new⟩
    · exact (unmoved i).turn (h.woken i wait wake old)
    · cases new
  case takers =>
    intro i member
    obtain ⟨size, call⟩ := h.takers i member
    exact ⟨size, getElem?_concat_eq_some.mpr (.inl call)⟩

end Accounted

section Telling

theorem signal_eq (s : Session) (id : TaskId) :
    s.signal id = match s.statuses[id]? with
      | some (.blocked wait) => (s.setStatus id (.woken wait .due)).queue [.resume id]
      | _ => s := by
  rw [signal, statuses, List.getElem?_map]
  rfl

private theorem statuses_queue (s : Session) (turns : List Turn) :
    (s.queue turns).statuses = s.statuses :=
  rfl

/-- A task is told that the latch was opened. -/
theorem Accounted.signal (h : Accounted calls ledger sent s)
    (took : Takes given s (.signal id) t) : Accounted calls ledger sent (t.signal id) := by
  have told : s.told id = t.told id + 1 := by
    rw [Session.told, Session.told, ← took.perm.count_eq, List.count_cons_self]
  have others (i : TaskId) (other : i ≠ id) : Unmoved s t i :=
    .took took (by simp) fun same => other (Turn.signal.inj same).symm
  have latched := latched_congr took.link
  have heard : s.told id ≠ 0 := told ▸ Nat.succ_ne_zero _
  rw [signal_eq, took.statuses]
  cases found : s.statuses[id]? with
  | none =>
    have beyond := List.getElem?_eq_none_iff.mp found
    obtain ⟨-, -, silent⟩ := h.absent id (h.length.symm.trans_le beyond)
    exact absurd silent heard
  | some status =>
    obtain ⟨action, -, fares⟩ := h.fares id status found
    obtain ⟨wait, rfl⟩ := fares.hears heard
    let woken := (t.setStatus id (.woken wait .due)).queue [.resume id]
    have unmoved (i : TaskId) : Unmoved t woken i := .queued rfl rfl (by simp)
    have statuses : woken.statuses = s.statuses.set id (.woken wait .due) := by
      rw [statuses_queue, statuses_setStatus, took.statuses]
    refine h.set (.took h.endpoint took rfl rfl rfl) found statuses
      (fun i other => ⟨rfl, (others i other).trans (unmoved i)⟩) ?_ ?_
    · intro action _ fares
      rw [told] at fares
      rw [(unmoved id).latched, (unmoved id).told, latched]
      exact fares.tell
    · exact fun _ _ _ => List.mem_append_right _ (List.mem_singleton_self _)

end Telling

section Arriving

/-- Whoever runs still does. -/
def RunsOn (s t : Session) : Prop :=
  ∀ (id : TaskId) (cancelled : Bool), s.statuses[id]? = some (.running cancelled) →
    ∃ cancelled, t.statuses[id]? = some (.running cancelled)

theorem RunsOn.same (statuses : t.statuses = s.statuses) : RunsOn s t :=
  fun _ cancelled runs => ⟨cancelled, statuses ▸ runs⟩

/-- A task that does not run goes on. -/
theorem RunsOn.set {old new : TaskStatus} (found : s.statuses[id]? = some old)
    (statuses : t.statuses = s.statuses.set id new)
    (awake : ∀ cancelled, old ≠ .running cancelled) : RunsOn s t := by
  intro i cancelled runs
  refine ⟨cancelled, ?_⟩
  rw [statuses]
  refine (getElem?_set_eq_some found).mpr (.inr ⟨?_, runs⟩)
  rintro rfl
  cases runs.symm.trans found
  exact awake cancelled rfl

theorem RunsOn.after (h : RunsOn u t) (statuses : u.statuses = s.statuses) : RunsOn s t := by
  rwa [RunsOn, statuses] at h

/-- Whoever waits for an arrival is woken. -/
theorem Accounted.wakes (h : Accounted calls ledger sent s) {taker : Option Taker}
    (call : ∀ id, taker = some (.task id) → ∃ size, calls[id]? = some (.receive size)) :
    Accounted calls ledger sent (s.wakeTaker taker) ∧ RunsOn s (s.wakeTaker taker) := by
  cases taker with
  | none => exact ⟨h, .same rfl⟩
  | some taker =>
    cases taker with
    | receive receive =>
      have none : (s.setReceive receive (.woken .due)).receives = s.receives := by
        simp [setReceive, h.receives]
      refine ⟨?_, .same rfl⟩
      exact h.keep (.link h.endpoint rfl none rfl) rfl fun i => .queued rfl rfl (by simp)
    | task id =>
      change Accounted calls ledger sent (s.signal id) ∧ RunsOn s (s.signal id)
      rw [signal_eq]
      cases found : s.statuses[id]? with
      | none => exact ⟨h, .same rfl⟩
      | some status =>
        cases status with
        | blocked wait =>
          have statuses := s.statuses_setStatus id (.woken wait .due)
          refine ⟨?_, .set found statuses (by simp)⟩
          refine h.goes rfl rfl rfl found statuses (fun i => .queued rfl rfl (by simp)) ?_ ?_
          · intro action here fares
            obtain ⟨size, there⟩ := call id rfl
            cases here.symm.trans there
            obtain ⟨buffer, rfl⟩ := fares.takes
            exact fares.wakes .due
          · exact fun _ _ _ => List.mem_append_right _ (List.mem_singleton_self _)
        | _ => exact ⟨h, .same rfl⟩

/-- What has arrived and who waits for it is changed. -/
theorem Accounted.inbox (h : Accounted calls ledger sent s) (up : s.link = .up e) (inbox : Inbox)
    (takers : ∀ id, .task id ∈ inbox.waiting → .task id ∈ e.network.inbox.waiting ∨
      ∃ size, calls[id]? = some (.receive size)) :
    Accounted calls ledger sent (s.setInbox inbox) := by
  obtain ⟨e', up', regular⟩ := h.endpoint
  cases up.symm.trans up'
  rw [setInbox_onto up]
  exact h.keep (.alike up regular rfl rfl rfl rfl rfl rfl rfl regular.sent takers) rfl
    fun i => .alike up rfl rfl rfl

theorem statuses_setInbox (up : s.link = .up e) (inbox : Inbox) :
    (s.setInbox inbox).statuses = s.statuses := by
  rw [setInbox_onto up]
  rfl

/-- The first who waits in the inbox is woken. -/
theorem Accounted.wakesFirst (h : Accounted calls ledger sent s) (up : s.link = .up e)
    (arrivals : List Arrival) :
    let t := (s.setInbox ⟨arrivals, e.network.inbox.waiting.tail⟩).wakeTaker
      e.network.inbox.waiting.head?
    Accounted calls ledger sent t ∧ RunsOn s t := by
  have laid := h.inbox up ⟨arrivals, e.network.inbox.waiting.tail⟩
    fun id member => .inl (List.mem_of_mem_tail member)
  have call (id : TaskId) (first : e.network.inbox.waiting.head? = some (.task id)) :
      ∃ size, calls[id]? = some (.receive size) :=
    h.takers id (network_up up ▸ List.mem_of_head? first)
  obtain ⟨woken, runs⟩ := laid.wakes call
  exact ⟨woken, runs.after (statuses_setInbox up _)⟩

theorem Accounted.feed (h : Accounted calls ledger sent s) (arrival : Arrival) :
    Accounted calls ledger sent (s.feed arrival) ∧ RunsOn s (s.feed arrival) := by
  obtain ⟨e, up, -⟩ := h.endpoint
  rw [Session.feed, network_up up]
  exact h.wakesFirst up _

theorem Accounted.passTurn (h : Accounted calls ledger sent s) :
    Accounted calls ledger sent s.passTurn ∧ RunsOn s s.passTurn := by
  obtain ⟨e, up, -⟩ := h.endpoint
  rw [Session.passTurn, Inbox.pass, network_up up]
  cases e.network.inbox.arrivals.isEmpty with
  | true => exact ⟨h.inbox up e.network.inbox fun _ => .inl, .same (statuses_setInbox up _)⟩
  | false => exact h.wakesFirst up e.network.inbox.arrivals

/-- An arrival is taken into a buffer, if there is one. -/
theorem Accounted.takeArrival (h : Accounted calls ledger sent s) (buffer : BufferId) :
    Accounted calls ledger sent (s.takeArrival buffer).1 ∧
      RunsOn s (s.takeArrival buffer).1 := by
  obtain ⟨e, up, -⟩ := h.endpoint
  rw [Session.takeArrival, network_up up, Inbox.take?]
  cases e.network.inbox.arrivals with
  | nil => exact ⟨h, .same rfl⟩
  | cons arrival rest =>
    have taken := h.inbox up ⟨rest, e.network.inbox.waiting⟩ fun _ => .inl
    have statuses := statuses_setInbox up ⟨rest, e.network.inbox.waiting⟩
    cases arrival with
    | failure error => exact ⟨taken, .same statuses⟩
    | datagram data peer =>
      exact ⟨taken.keep (.link taken.endpoint rfl rfl rfl) rfl fun i => .same rfl rfl,
        .same statuses⟩

/-- There are no receive operations at an endpoint that is used by its calls alone. -/
theorem Accounted.turnReceive (h : Accounted calls ledger sent s) {id : ReceiveId}
    (took : Takes given s (.receive id) t) : Accounted calls ledger sent (t.turnReceive id) := by
  have same : t.turnReceive id = t := by
    have none : t.receives = [] := by
      cases took
      exact h.receives
    simp [Session.turnReceive, receive?, none]
  rw [same]
  exact h.keep (.took h.endpoint took rfl rfl rfl) took.statuses
    fun i => .took took (by simp) (by simp)

end Arriving

section Cancelling

/-- A task that is cancelled leaves the latch, and nothing else is changed about it. -/
theorem link_cancelTask (up : s.link = .up e) (id : TaskId) :
    ∃ e', (s.cancelTask id).1.link = .up e' ∧ e'.watched = e.watched ∧
      (e'.latch = e.latch ∨ e'.latch = e.latch.map fun tasks => tasks.erase id) := by
  have inbox (inbox : Inbox) {t : Session} (link : t.link = .up (e.withInbox inbox)) :
      ∃ e', t.link = .up e' ∧ e'.watched = e.watched ∧
        (e'.latch = e.latch ∨ e'.latch = e.latch.map fun tasks => tasks.erase id) :=
    ⟨_, link, rfl, .inl rfl⟩
  have same {t : Session} (link : t.link = s.link) :
      ∃ e', t.link = .up e' ∧ e'.watched = e.watched ∧
        (e'.latch = e.latch ∨ e'.latch = e.latch.map fun tasks => tasks.erase id) :=
    ⟨e, link.trans up, rfl, .inl rfl⟩
  rw [cancelTask_eq]
  cases s.statuses[id]? with
  | none => exact same rfl
  | some status =>
    cases status with
    | blocked wait =>
      have asked : (s.asked id).link = .up e := up
      cases wait with
      | pulling receive pull => exact same rfl
      | writing w =>
        simp only [cancelWait, asked]
        exact ⟨_, rfl, rfl, .inr rfl⟩
      | closing receive cancelled outcome =>
        obtain ⟨left, link⟩ := (aside_cancelReceive (s.asked id) receive).link e asked
        exact inbox left link
      | taking buffer =>
        simp only [cancelWait, setInbox_onto asked]
        exact inbox _ rfl
    | _ => exact same rfl

namespace Accounted

variable {wait : Wait}

theorem asked (h : Accounted calls ledger sent s) (id : TaskId) :
    Accounted calls ledger sent (s.asked id) :=
  h.keep (.link h.endpoint rfl rfl rfl) (s.statuses_asked id) fun _ => .same rfl rfl

/-- A task stops to wait. -/
theorem cancelWait (h : Accounted calls ledger sent s)
    (found : s.statuses[id]? = some (.blocked wait)) :
    Accounted calls ledger sent (s.cancelWait id wait) ∧ RunsOn s (s.cancelWait id wait) := by
  obtain ⟨e, up, regular⟩ := h.endpoint
  obtain ⟨action, here, fares⟩ := h.fares id _ found
  obtain ⟨w, rfl⟩ | ⟨buffer, rfl⟩ := fares.direct
  · let left := s.onto (e.stopAwaiting id)
    let woken := left.setStatus id (.woken (.writing w) .cancelled)
    let unheard := woken.unsignal id
    let t := unheard.queue [.resume id]
    have stopped : s.cancelWait id (.writing w) = t := by
      simp only [Session.cancelWait, up]
      rfl
    have statuses : t.statuses = s.statuses.set id (.woken (.writing w) .cancelled) :=
      left.statuses_setStatus id _
    have latched : t.latched = s.latched.erase id := by
      rw [latched_up (s := t) rfl, Endpoint.latch_stopAwaiting, latched_up up]
    have queued (i : TaskId) : Unmoved unheard t i := .queued rfl rfl (by simp)
    have silent : t.told id = 0 := by
      rw [(queued id).told]
      exact List.count_eq_zero.mpr fun member => by simp [unheard, unsignal] at member
    rw [stopped]
    refine ⟨h.set ⟨rfl, rfl, ⟨_, rfl, regular.stopAwaiting id⟩, ?_, ?_⟩ found statuses ?_ ?_ ?_,
      .set found statuses (by simp)⟩
    · rw [isEndpointClosed_up up]
      rfl
    · intro i member
      rw [network_up up]
      exact .inl member
    · intro i other
      have unmoved := (Unmoved.unsignal other woken).trans (queued i)
      refine ⟨rfl, ?_, unmoved.told, unmoved.turn⟩
      rw [latched, List.count_erase_of_ne other]
    · intro action here fares
      rw [silent, latched, List.count_erase_self]
      exact fares.stops
    · exact fun _ _ _ => List.mem_append_right _ (List.mem_singleton_self _)
  · let left := s.setInbox (s.network.inbox.leave (.task id))
    have laid : Accounted calls ledger sent left := h.inbox up _ fun i member => by
      rw [← network_up up]
      exact .inl (List.mem_of_mem_erase member)
    have same : left.statuses = s.statuses := statuses_setInbox up _
    have found : left.statuses[id]? = some (.blocked (.taking buffer)) := by rw [same, found]
    have statuses := left.statuses_setStatus id (.woken (.taking buffer) .cancelled)
    obtain ⟨_, -, fares⟩ := laid.fares id _ found
    have unheard (i : TaskId) : Unmoved left (left.unsignal id) i := by
      by_cases same : i = id
      · subst same
        exact .untold fares.untold
      · exact .unsignal same left
    refine ⟨laid.goes rfl rfl rfl found statuses
      (fun i => (unheard i).trans (.queued rfl rfl (by simp))) ?_ ?_, ?_⟩
    · exact fun action _ fares => fares.wakes .cancelled
    · exact fun _ _ _ => List.mem_append_right _ (List.mem_singleton_self _)
    · exact .after (.set found statuses (by simp)) same

/-- A task is cancelled, which may be the one that runs. -/
theorem cancelTask (h : Accounted calls ledger sent s) (id : TaskId) :
    Accounted calls ledger sent (s.cancelTask id).1 ∧ RunsOn s (s.cancelTask id).1 := by
  have still := h.asked id
  have same := s.statuses_asked id
  rw [cancelTask_eq, ← same]
  cases found : (s.asked id).statuses[id]? with
  | none => exact ⟨h, .same rfl⟩
  | some status =>
    have marks {new : TaskStatus} (fares : ∀ action made latched told,
        Fares s.isEndpointClosed action made latched told status →
        Fares s.isEndpointClosed action made latched told new)
        (turn : ∀ wait wake, new = .woken wait wake → .resume id ∈ s.ready) :
        Accounted calls ledger sent ((s.asked id).setStatus id new) :=
      still.goes rfl rfl rfl found ((s.asked id).statuses_setStatus id new)
        (fun i => .same rfl rfl) (fun action _ => fares action _ _ _) turn
    have runs {new : TaskStatus} (awake : ∀ cancelled, status ≠ .running cancelled) :
        RunsOn s ((s.asked id).setStatus id new) :=
      .after (.set found ((s.asked id).statuses_setStatus id new) awake) same
    cases status with
    | queued action cancelled =>
      exact ⟨marks (fun _ _ _ _ fares => fares.dooms) (by simp), runs (by simp)⟩
    | running cancelled =>
      refine ⟨marks (fun _ _ _ _ fares => fares.asks) (by simp), fun other cancelled runs => ?_⟩
      rw [statuses_setStatus, same]
      by_cases here : id = other
      · subst here
        exact ⟨true, List.getElem?_set_self (List.getElem?_eq_some_iff.mp runs).1⟩
      · exact ⟨cancelled, by rw [List.getElem?_set_ne here, runs]⟩
    | blocked wait =>
      obtain ⟨woken, runs⟩ := still.cancelWait found
      exact ⟨woken, runs.after same⟩
    | woken wait wake =>
      refine ⟨marks (fun _ _ _ _ fares => fares.marks) ?_, runs (by simp)⟩
      exact fun _ _ _ => still.woken id wait wake found
    | finished outcome => exact ⟨h, .same rfl⟩

end Accounted

end Cancelling

section Opening

theorem Accounted.closeEndpoint (h : Accounted calls ledger sent s) :
    Accounted calls ledger sent s.closeEndpoint ∧ RunsOn s s.closeEndpoint ∧
      s.closeEndpoint.isEndpointClosed = true := by
  obtain ⟨e, up, -⟩ := h.endpoint
  rw [closeEndpoint_up up]
  exact ⟨h.opens up rfl rfl rfl (fun _ => rfl) rfl rfl, .same rfl, rfl⟩

theorem Accounted.reportWritable (h : Accounted calls ledger sent s) :
    Accounted calls ledger sent s.reportWritable.1 ∧ RunsOn s s.reportWritable.1 := by
  obtain ⟨e, up, -⟩ := h.endpoint
  simp only [Session.reportWritable, up]
  cases e.watched with
  | false => exact ⟨h, .same rfl⟩
  | true => exact ⟨h.opens up rfl rfl rfl (fun closed => closed) rfl rfl, .same rfl⟩

end Opening

end Session

end Osc
