import Osc.Proofs.Latch

/-!
Writers of a socket in every run, whatever the socket answers, whoever is cancelled, and whenever
it becomes writable or is closed. Nobody who waits to write is stranded, and no datagram is handed
over twice: a call that returns has handed over its own once, and gives the count that was the
answer; every other call has handed over nothing.
-/

namespace Osc

/-- Datagrams as they are handed to a socket that counts so many bytes too few. -/
def Dispatch.ofSent (shortBy : Int) (sent : List (Bytes × Value)) : List Dispatch :=
  sent.map fun (data, goal) => ⟨data, goal, data.length - shortBy⟩

/-- What a call to write has handed over: its datagram once if it returned, else nothing. -/
inductive Served (data : Bytes) : List Dispatch → TaskStatus → Prop where
  | returned (goal : Value) (count : Int) :
      Served data [⟨data, goal, count⟩] (.finished (.value (.sent count)))
  | raised (fault : Fault) : Served data [] (.finished (.fault fault))
  | cancelled : Served data [] (.finished .cancelled)
  | going {status : TaskStatus} (going : status.isOver = false) : Served data [] status

namespace Fares

variable {closed : Bool} {action : Action} {made : List Dispatch} {latched told : Nat}
  {status : TaskStatus}

theorem served {data : Bytes} {address : Option Value}
    (h : Fares closed (.write data address) made latched told status) :
    Served data made status := by
  cases h with
  | returned => exact .returned ..
  | raised => exact .raised ..
  | cancelled => exact .cancelled
  | ended other => cases other
  | _ => exact .going rfl

/-- An endpoint that was closed by a call is closed. -/
theorem shut (h : Fares closed action made latched told (.finished (.value .nothing)))
    (closes : action.isClose = true) : closed = true := by
  cases h with
  | ended other outcome shut => exact shut closes

/-- A write waits in one place. -/
theorem once {w : Write} (h : Fares closed action made latched told (.blocked (.writing w))) :
    latched + told = 1 := by
  cases h with
  | blocked data address goal once => exact once

/-- A task that runs has handed over nothing yet. -/
theorem fresh {cancelled : Bool} (h : Fares closed action made latched told (.running cancelled)) :
    made = [] ∧ latched = 0 ∧ told = 0 := by
  cases h with
  | running => exact ⟨rfl, rfl, rfl⟩

theorem starts {queued : Action} {cancelled : Bool}
    (h : Fares closed action made latched told (.queued queued cancelled)) :
    queued = action ∧ Fares closed action made latched told (.running false) ∧
      Fares closed action made latched told (.finished .cancelled) := by
  cases h with
  | queued => exact ⟨rfl, .running action false, .cancelled action⟩

section Going

variable {w : Write} {wake : Wake}

/-- What a task was woken for is what its call is about. -/
theorem woken {wait : Wait} (h : Fares closed action made latched told (.woken wait wake)) :
    (∃ size buffer, action = .receive size ∧ wait = .taking buffer) ∨
      ∃ data address goal, action = .write data address ∧ wait = .writing ⟨data, goal, .count⟩ := by
  cases h with
  | due data address goal => exact .inr ⟨data, address, goal, rfl, rfl⟩
  | leaves data address goal => exact .inr ⟨data, address, goal, rfl, rfl⟩
  | took size buffer wake => exact .inl ⟨size, buffer, rfl, rfl⟩

theorem looks {buffer : BufferId}
    (h : Fares closed action made latched told (.woken (.taking buffer) wake)) :
    Fares closed action made latched told (.running false) := by
  cases h with
  | took size buffer wake => exact .running _ false

/-- A write that was not cancelled is tried again. -/
theorem retries (h : Fares closed action made latched told (.woken (.writing w) wake))
    (uncancelled : wake.isCancelled = false) :
    Fares closed action made latched told (.running false) := by
  cases h with
  | due data address goal => exact .running _ false
  | leaves data address goal cancelled => cases uncancelled.symm.trans cancelled

theorem gives (h : Fares closed action made latched told (.woken (.writing w) wake)) :
    Fares closed action made latched told (.finished .cancelled) := by
  cases h with
  | due data address goal => exact .cancelled _
  | leaves data address goal cancelled => exact .cancelled _

end Going

end Fares

namespace Session

variable {given : Option Turn} {s t u : Session} {e e' : Endpoint} {id : TaskId} {action : Action}
  {calls : List Action} {ledger ledger' : TaskId → List Dispatch}
  {sent sent' : List (Bytes × Value)} {shortBy : Int}

/-- What was handed over on the way from one session to another, with the socket's answers. -/
def dispatched (s t : Session) : List Dispatch :=
  Dispatch.ofSent s.network.shortBy (t.network.sent.drop s.network.sent.length)

/-- What a task hands over in a step; that is nothing if it is not the turn of the task. -/
def dispatchedBy (s : Session) (id : TaskId) (choice : Choice) : List Dispatch :=
  if s.given? choice = some (.resume id) then s.dispatched (s.choose choice) else []

/-- What a task hands over along a schedule. -/
def dispatches (s : Session) (id : TaskId) : List Choice → List Dispatch
  | [] => []
  | choice :: rest => s.dispatchedBy id choice ++ (s.choose choice).dispatches id rest

/-- The ledger with what a task has handed over besides. -/
def credit (ledger : TaskId → List Dispatch) (id : TaskId) (made : List Dispatch) :
    TaskId → List Dispatch :=
  Function.update ledger id (ledger id ++ made)

private theorem credit_nil (ledger : TaskId → List Dispatch) (id : TaskId) :
    credit ledger id [] = ledger := by
  rw [credit, List.append_nil, Function.update_eq_self]

section Running

/-- What a call comes to when its task has run: an end or a wait. It has handed over nothing but
the datagram of a write that ends with the count for it. -/
inductive Comes (calls : List Action) (ledger : TaskId → List Dispatch)
    (sent : List (Bytes × Value)) (shortBy : Int) (id : TaskId) (action : Action) :
    Session × Progress → Prop where
  | ends {t : Session} {cancelled : Bool} {outcome : Outcome}
      (accounted : Accounted calls ledger sent t)
      (runs : t.statuses[id]? = some (.running cancelled))
      (fares : Fares t.isEndpointClosed action [] 0 0 (.finished outcome)) :
      Comes calls ledger sent shortBy id action (t, .finished outcome)
  | takes {t : Session} {cancelled : Bool} {size : Int} {buffer : BufferId}
      (accounted : Accounted calls ledger sent t)
      (runs : t.statuses[id]? = some (.running cancelled)) (call : action = .receive size) :
      Comes calls ledger sent shortBy id action (t, .blocked (.taking buffer))
  | waits {t : Session} {e : Endpoint} {cancelled : Bool} {data : Bytes}
      {address goal : Option Value} (accounted : Accounted calls ledger sent t)
      (runs : t.statuses[id]? = some (.running cancelled)) (up : t.link = .up e)
      (isOpen : e.closed = false) (call : action = .write data address) :
      Comes calls ledger sent shortBy id action
        (t.awaitWritable id, .blocked (.writing ⟨data, goal, .count⟩))
  | sends {t : Session} {data : Bytes} {address : Option Value} {goal : Value}
      (accounted : Accounted calls ledger (sent ++ [(data, goal)]) t)
      (runs : t.statuses[id]? = some (.running false)) (call : action = .write data address) :
      Comes calls ledger sent shortBy id action
        (t, .finished (.value (.sent (data.length - shortBy))))

/-- A task that runs has handed over nothing yet, and nobody waits for it. -/
theorem Accounted.rests (h : Accounted calls ledger sent s) {cancelled : Bool}
    (runs : s.statuses[id]? = some (.running cancelled)) :
    ledger id = [] ∧ s.latched.count id = 0 ∧ s.told id = 0 := by
  obtain ⟨action, -, fares⟩ := h.fares id _ runs
  exact fares.fresh

/-- A task that runs comes to an end or to a wait which is not for the socket. -/
theorem Accounted.comes (h : Accounted calls ledger sent s) (here : calls[id]? = some action)
    {cancelled : Bool} (runs : s.statuses[id]? = some (.running cancelled)) {new : TaskStatus}
    (layer : t.layer = s.layer) (receives : t.receives = s.receives) (link : t.link = s.link)
    (statuses : t.statuses = s.statuses.set id new) (ready : t.ready = s.ready)
    (fares : Fares s.isEndpointClosed action [] 0 0 new)
    (awake : ∀ wait wake, new ≠ .woken wait wake) : Accounted calls ledger sent t := by
  obtain ⟨none, away, silent⟩ := h.rests runs
  refine h.goes layer receives link runs statuses (fun _ => .same link ready) ?_ ?_
  · intro action' there _
    cases here.symm.trans there
    rw [none, away, silent]
    exact fares
  · exact fun wait wake same => absurd same (awake wait wake)

/-- A task that runs comes to wait for the socket. -/
theorem Accounted.waits (h : Accounted calls ledger sent s) {data : Bytes}
    {address goal : Option Value} (here : calls[id]? = some (.write data address))
    {cancelled : Bool} (runs : s.statuses[id]? = some (.running cancelled)) (up : s.link = .up e)
    (isOpen : e.closed = false) :
    Accounted calls ledger sent
      ((s.awaitWritable id).setStatus id (.blocked (.writing ⟨data, goal, .count⟩))) := by
  let blocked : TaskStatus := .blocked (.writing ⟨data, goal, .count⟩)
  let t := (s.onto (e.awaitWritable id)).setStatus id blocked
  obtain ⟨e', up', regular⟩ := h.endpoint
  cases up.symm.trans up'
  obtain ⟨none, away, silent⟩ := h.rests runs
  have latched : t.latched = s.latched ++ [id] := latched_awaitWritable up id
  have told (i : TaskId) : t.told i = s.told i := rfl
  have beside : Beside calls sent s t := by
    refine ⟨rfl, rfl, ⟨_, rfl, regular.awaitWritable isOpen id⟩, ?_, ?_⟩
    · rw [isEndpointClosed_up (s := t) rfl, isEndpointClosed_up up, e.closed_awaitWritable]
    · intro i member
      rw [network_up (s := t) rfl, e.network_awaitWritable, ← network_up up] at member
      exact .inl member
  have statuses : t.statuses = s.statuses.set id blocked := statuses_setStatus _ id blocked
  rw [awaitWritable_up up]
  change Accounted calls ledger sent t
  refine h.set beside runs statuses ?_ ?_ (by simp [blocked])
  · intro i other
    refine ⟨rfl, ?_, told i, fun member => member⟩
    rw [latched, List.count_append, List.count_singleton, beq_false_of_ne (Ne.symm other)]
    rfl
  · intro action there _
    cases here.symm.trans there
    rw [none, latched, told, List.count_append, away, silent, List.count_singleton_self]
    exact .blocked data address goal rfl

/-- A call is credited with what it has handed over, which is nothing unless it writes. -/
def Credited (calls : List Action) (ledger : TaskId → List Dispatch)
    (sent : List (Bytes × Value)) (shortBy : Int) (id : TaskId) (t : Session) : Prop :=
  ∃ made, Accounted calls (credit ledger id (Dispatch.ofSent shortBy made)) (sent ++ made) t ∧
    (made = [] ∨ ∃ data address, calls[id]? = some (.write data address))

theorem Accounted.credited (h : Accounted calls ledger sent t) (shortBy : Int) (id : TaskId) :
    Credited calls ledger sent shortBy id t := by
  refine ⟨[], ?_, .inl rfl⟩
  rw [List.append_nil, Dispatch.ofSent, List.map_nil, credit_nil]
  exact h

/-- After the turn of a call it is credited with what it has handed over. -/
theorem Comes.settle {p : Session × Progress} (comes : Comes calls ledger sent shortBy id action p)
    (here : calls[id]? = some action) :
    Credited calls ledger sent shortBy id (p.1.settle id p.2) := by
  cases comes with
  | @ends t cancelled outcome accounted runs fares =>
    rw [settle_running runs]
    apply Accounted.credited
    refine accounted.comes here runs rfl rfl rfl (t.statuses_finish id _) rfl ?_ (by simp)
    cases cancelled with
    | false => exact fares
    | true => exact .cancelled action
  | @takes t cancelled size buffer accounted runs call =>
    apply Accounted.credited
    refine accounted.comes here runs rfl rfl rfl (t.statuses_setStatus id _) rfl ?_ (by simp)
    rw [call]
    exact .taking size buffer
  | @waits t e cancelled data address goal accounted runs up isOpen call =>
    exact (accounted.waits (call ▸ here) runs up isOpen).credited shortBy id
  | @sends t data address goal accounted runs call =>
    obtain ⟨none, away, silent⟩ := accounted.rests runs
    let v := t.finish id (.value (.sent (data.length - shortBy)))
    have stands (i : TaskId) : Unmoved t v i := .same rfl rfl
    refine ⟨[(data, goal)], ?_, .inr ⟨data, address, call ▸ here⟩⟩
    rw [settle_finished runs]
    refine accounted.set (.link accounted.endpoint rfl rfl rfl) runs (t.statuses_finish id _)
      (fun i other => ⟨Function.update_of_ne other .., stands i⟩) ?_ (by simp)
    intro action' there _
    cases here.symm.trans there
    rw [credit, Function.update_self, none, (stands id).latched, (stands id).told, away, silent,
      call]
    exact .returned data address goal _

end Running

section Performing

/-- A step of the endpoint that is not noticed by those who wait. -/
theorem Accounted.onto (h : Accounted calls ledger sent s) (up : s.link = .up e)
    (alike : e.Alike e') (same : e'.network.sent = sent') :
    Accounted calls ledger sent' (s.onto e') := by
  obtain ⟨e'', up', regular⟩ := h.endpoint
  cases up.symm.trans up'
  refine h.keep (.alike up regular rfl rfl rfl alike.medium alike.closed alike.latch alike.watched
    same fun id member => ?_) rfl fun id => .alike up rfl alike.latch rfl
  rw [alike.network.waiting] at member
  exact .inl member

theorem onEndpoint_up {α : Type} (up : s.link = .up e) (step : Endpoint.Op α) :
    s.onEndpoint step = (s.onto (step.run.run e).2, (step.run.run e).1) := by
  rw [onEndpoint, up]
  rfl

theorem Accounted.onEndpoint {α : Type} (h : Accounted calls ledger sent s)
    {step : Endpoint.Op α} (keeps : Keeps Endpoint.Still step) :
    Accounted calls ledger sent (s.onEndpoint step).1 ∧
      (s.onEndpoint step).1.statuses = s.statuses := by
  obtain ⟨e, up, regular⟩ := h.endpoint
  have still := (keeps e).1
  rw [onEndpoint_up up]
  exact ⟨h.onto up still.toAlike (still.sent.trans regular.sent), rfl⟩

/-- A call that neither writes nor closes may end in any way. -/
theorem Comes.plain (h : Accounted calls ledger sent t) {cancelled : Bool}
    (runs : t.statuses[id]? = some (.running cancelled)) (other : action.isWrite = false)
    (unclosing : action.isClose = false) (outcome : Outcome) :
    Comes calls ledger sent shortBy id action (t, .finished outcome) :=
  .ends h runs (.ended other outcome fun closes => by cases unclosing.symm.trans closes)

variable {cancelled : Bool}

/-- A call that only asks the endpoint. -/
theorem Comes.answered {α : Type} (h : Accounted calls ledger sent s)
    (runs : s.statuses[id]? = some (.running cancelled)) (other : action.isWrite = false)
    (unclosing : action.isClose = false) {step : Endpoint.Op α}
    (keeps : Keeps Endpoint.Still step) (result : α → Result) :
    Comes calls ledger sent shortBy id action (answered result (s.onEndpoint step)) := by
  obtain ⟨after, statuses⟩ := h.onEndpoint keeps
  exact .plain after (statuses ▸ runs) other unclosing _

theorem Comes.write (h : Accounted calls ledger sent s)
    (runs : s.statuses[id]? = some (.running false)) (data : Bytes) (address goal : Option Value) :
    Comes calls ledger sent s.network.shortBy id (.write data address)
      (s.write id ⟨data, goal, .count⟩) := by
  obtain ⟨e, up, regular⟩ := h.endpoint
  have tries := Endpoint.attempt_tries data goal e
  rw [Session.write, onEndpoint_up up, network_up up]
  rcases found : (Endpoint.attempt data goal).run.run e with ⟨answer, e'⟩
  rw [found] at tries
  cases tries with
  | fails calm still =>
    exact .ends (h.onto up still.toAlike (still.sent.trans regular.sent)) runs (.raised ..)
  | stalls isOpen still =>
    rw [regular.socket, Bool.true_and] at isOpen
    exact .waits (h.onto up still.toAlike (still.sent.trans regular.sent)) runs rfl
      (still.closed.trans isOpen) rfl
  | sends address alike new => exact .sends (h.onto up alike (by rw [new, regular.sent])) runs rfl

theorem Comes.startWrite (h : Accounted calls ledger sent s)
    (runs : s.statuses[id]? = some (.running false)) (data : Bytes) (address : Option Value) :
    Comes calls ledger sent s.network.shortBy id (.write data address)
      (s.startWrite id data address .count) := by
  cases address with
  | none => exact .write h runs data none none
  | some a =>
    obtain ⟨e, up, regular⟩ := h.endpoint
    have still := (Endpoint.still_target a e).1
    rw [Session.startWrite, onEndpoint_up up]
    rcases found : (Endpoint.target a).run.run e with ⟨answer, e'⟩
    rw [found] at still
    have asked := h.onto up still.toAlike (still.sent.trans regular.sent)
    cases answer with
    | error fault => exact .ends asked runs (.raised ..)
    | ok goal =>
      have same : s.network.shortBy = (s.onto e').network.shortBy := by
        rw [network_up up, network_up (s := s.onto e') rfl]
        exact still.shortBy.symm
      rw [same]
      exact .write asked runs data (some a) (some goal)

theorem Comes.receiveInto (h : Accounted calls ledger sent s) {size : Int}
    (here : calls[id]? = some (.receive size)) (runs : s.statuses[id]? = some (.running cancelled))
    (buffer : BufferId) :
    Comes calls ledger sent shortBy id (.receive size) (s.receiveInto id buffer) := by
  obtain ⟨taken, going⟩ := h.takeArrival buffer
  obtain ⟨cancelled, runs⟩ := going id cancelled runs
  rw [Session.receiveInto]
  rcases found : s.takeArrival buffer with ⟨t, none | outcome⟩
  all_goals rw [found] at taken runs
  · obtain ⟨e, up, -⟩ := taken.endpoint
    have waits := taken.inbox up (t.network.inbox.wait (.task id)) fun i member => by
      rw [← network_up up]
      rcases List.mem_append.mp member with member | same
      · exact .inl member
      · cases List.mem_singleton.mp same
        exact .inr ⟨size, here⟩
    exact .takes waits ((statuses_setInbox up _).symm ▸ runs) rfl
  · cases outcome with
    | arrived count peer => exact .plain taken runs rfl rfl _
    | failed error => exact .plain taken runs rfl rfl _
    | cancelled => exact .plain taken runs rfl rfl _

theorem Comes.resumeReceive (h : Accounted calls ledger sent s) {size : Int}
    (here : calls[id]? = some (.receive size)) (runs : s.statuses[id]? = some (.running cancelled))
    (buffer : BufferId) (wake : Wake) :
    Comes calls ledger sent shortBy id (.receive size) (s.resumeReceive id buffer wake) := by
  cases wake with
  | due => exact .receiveInto h here runs buffer
  | cancelled => exact .plain h runs rfl rfl _
  | dueCancelled =>
    obtain ⟨passed, going⟩ := h.passTurn
    obtain ⟨cancelled, runs⟩ := going id cancelled runs
    exact .plain passed runs rfl rfl _

theorem Comes.receive (h : Accounted calls ledger sent s) {size : Int}
    (here : calls[id]? = some (.receive size))
    (runs : s.statuses[id]? = some (.running cancelled)) :
    Comes calls ledger sent shortBy id (.receive size) (s.perform id (.receive size)) := by
  rw [perform]
  cases allocation s.network.memory size with
  | error fault => exact .plain h runs rfl rfl _
  | ok room =>
    let t := (s.newBuffer room).1.hand s.buffers.length
    obtain ⟨link, layer, receives, tasks, ready⟩ : t.link = s.link ∧ t.layer = s.layer ∧
        t.receives = s.receives ∧ t.tasks = s.tasks ∧ t.ready = s.ready := by
      simp only [t, hand]
      split <;> exact ⟨rfl, rfl, rfl, rfl, rfl⟩
    have made : Accounted calls ledger sent t :=
      h.keep (.link h.endpoint layer receives link) (statuses_eq tasks) fun _ => .same link ready
    exact .receiveInto made here (statuses_eq tasks ▸ runs) s.buffers.length

theorem Accounted.follow (h : Accounted calls ledger sent s) (script : Script) :
    Accounted calls ledger sent (s.follow script) ∧
      (s.follow script).statuses = s.statuses := by
  obtain ⟨e, up, regular⟩ := h.endpoint
  have followed : s.follow script = s.onto { e with network := { e.network with
      shortBy := script.shortBy.getD e.network.shortBy
      stalls := e.network.stalls + script.stalls
      failures := e.network.failures ++ script.failures } } := by
    simp only [Session.follow, mapNetwork, up]
    rfl
  rw [followed]
  exact ⟨h.onto up ⟨rfl, rfl, rfl, rfl, rfl, rfl⟩ regular.sent, rfl⟩

theorem Comes.perform (h : Accounted calls ledger sent s) (here : calls[id]? = some action)
    (runs : s.statuses[id]? = some (.running false)) (use : action.isUse = true) :
    Comes calls ledger sent s.network.shortBy id action (s.perform id action) := by
  have other : s.layer ≠ .socket := by simp [h.layer]
  cases action with
  | feed arrival =>
    obtain ⟨fed, going⟩ := h.feed arrival
    obtain ⟨cancelled, runs⟩ := going id false runs
    exact .plain fed runs rfl rfl _
  | script script =>
    cases script with
    | error fault => exact .plain h runs rfl rfl _
    | ok script =>
      obtain ⟨followed, statuses⟩ := h.follow script
      exact .plain followed (statuses.symm ▸ runs) rfl rfl _
  | cancel name =>
    rw [Session.perform]
    cases s.taskId? name with
    | none => exact .plain h runs rfl rfl _
    | some target =>
      obtain ⟨asked, going⟩ := h.cancelTask target
      obtain ⟨cancelled, runs⟩ := going id false runs
      exact .plain asked runs rfl rfl _
  | closeEndpoint =>
    obtain ⟨closed, going, shut⟩ := h.closeEndpoint
    obtain ⟨cancelled, runs⟩ := going id false runs
    exact .ends closed runs (.ended rfl _ fun _ => shut)
  | writable =>
    obtain ⟨told, going⟩ := h.reportWritable
    obtain ⟨cancelled, runs⟩ := going id false runs
    exact .plain told runs rfl rfl _
  | connect address =>
    rw [Session.perform, if_neg other]
    exact .answered h runs rfl rfl
      ((Endpoint.still_connect address).keeps fun _ => Address.Fails.calm) _
  | write data address => exact .startWrite h runs data address
  | receive size => exact .receive h here runs
  | localAddress handle =>
    rw [Session.perform, if_neg other]
    exact .answered h runs rfl rfl
      (Endpoint.still_localAddress.keeps fun _ => Fault.IsOs.calm) _
  | peerAddress =>
    rw [Session.perform, if_neg other]
    exact .answered h runs rfl rfl
      (Endpoint.still_peerAddress.keeps fun _ => Fault.IsOs.calm) _
  | socketType => exact .plain h runs rfl rfl _
  | settings => exact .plain h runs rfl rfl _
  | shown => exact .plain h runs rfl rfl _
  | refuse fault => exact .plain h runs rfl rfl _
  | _ => cases use

end Performing

section Turns

theorem Takes.setStatus {turn : Turn} (took : Takes given s turn t) (id : TaskId)
    (status : TaskStatus) : Takes given (s.setStatus id status) turn (t.setStatus id status) := by
  cases took with
  | intro found => exact .intro found

theorem Takes.finish {turn : Turn} (took : Takes given s turn t) (id : TaskId)
    (outcome : Outcome) : Takes given (s.finish id outcome) turn (t.finish id outcome) := by
  cases took with
  | intro found => exact .intro found

namespace Accounted

/-- A turn is spent that a task does not need to go on. -/
theorem spend (h : Accounted calls ledger sent s) (took : Takes given s (.resume id) t)
    (stale : ∀ wait wake, s.statuses[id]? ≠ some (.woken wait wake)) :
    Accounted calls ledger sent t := by
  have latched := latched_congr took.link
  have told (i : TaskId) : t.told i = s.told i := took.told (by simp)
  have beside : Beside calls sent s t := .took h.endpoint took rfl rfl rfl
  constructor
  case layer => exact beside.layer.trans h.layer
  case receives => exact beside.receives.trans h.receives
  case endpoint => exact beside.endpoint
  case length => rw [took.statuses, h.length]
  case fares =>
    intro i status now
    rw [took.statuses] at now
    rw [beside.closed, latched, told]
    exact h.fares i status now
  case absent =>
    intro i beyond
    rw [latched, told]
    exact h.absent i beyond
  case woken =>
    intro i wait wake now
    rw [took.statuses] at now
    refine (took.ready (h.woken i wait wake now)).resolve_left fun same => ?_
    cases same
    exact stale wait wake now
  case takers => exact fun i member => (beside.takers i member).elim (h.takers i) fun call => call

/-- A task starts to run in its turn. -/
theorem runs (h : Accounted calls ledger sent s) (took : Takes given s (.resume id) t)
    {old : TaskStatus} (found : s.statuses[id]? = some old)
    (fares : ∀ action made latched told, Fares s.isEndpointClosed action made latched told old →
      Fares s.isEndpointClosed action made latched told (.running false)) :
    Accounted calls ledger sent (t.setStatus id (.running false)) ∧
      (t.setStatus id (.running false)).statuses[id]? = some (.running false) := by
  have inside := (List.getElem?_eq_some_iff.mp found).1
  have statuses := s.statuses_setStatus id (.running false)
  have going : Accounted calls ledger sent (s.setStatus id (.running false)) :=
    h.goes rfl rfl rfl found statuses (fun _ => .same rfl rfl)
      (fun action _ => fares action _ _ _) (by simp)
  refine ⟨going.spend (took.setStatus id _) ?_, ?_⟩
  · rw [statuses, List.getElem?_set_self inside]
    simp
  · rw [statuses_setStatus, took.statuses, List.getElem?_set_self inside]

/-- A task ends at once in its turn, since it was cancelled. -/
theorem drops (h : Accounted calls ledger sent s) (took : Takes given s (.resume id) t)
    {old : TaskStatus} (found : s.statuses[id]? = some old)
    (fares : ∀ action made latched told, Fares s.isEndpointClosed action made latched told old →
      Fares s.isEndpointClosed action made latched told (.finished .cancelled)) :
    Accounted calls ledger sent (t.finish id .cancelled) := by
  have inside := (List.getElem?_eq_some_iff.mp found).1
  have statuses := s.statuses_finish id .cancelled
  have ended : Accounted calls ledger sent (s.finish id .cancelled) :=
    h.goes rfl rfl rfl found statuses (fun _ => .same rfl rfl)
      (fun action _ => fares action _ _ _) (by simp)
  refine ended.spend (took.finish id _) ?_
  rw [statuses, List.getElem?_set_self inside]
  simp

end Accounted

/-- The turn of a task. -/
theorem Accounted.resume (h : Accounted calls ledger sent s)
    (uses : ∀ action ∈ calls, action.isUse = true) (took : Takes given s (.resume id) t) :
    Credited calls ledger sent s.network.shortBy id (t.resume id) := by
  let going := t.setStatus id (.running false)
  have network : going.network = s.network := by
    have same : going.link = s.link := took.link
    simp only [Session.network, same]
  rw [resume_eq, took.statuses]
  cases found : s.statuses[id]? with
  | none => exact (h.spend took (by simp [found])).credited _ id
  | some status =>
    obtain ⟨action, here, fares⟩ := h.fares id status found
    cases status with
    | queued queued cancelled =>
      obtain ⟨rfl, -, -⟩ := fares.starts
      cases cancelled with
      | true => exact (h.drops took found fun _ _ _ _ fares => fares.starts.2.2).credited _ id
      | false =>
        obtain ⟨accounted, runs⟩ := h.runs took found fun _ _ _ _ fares => fares.starts.2.1
        obtain ⟨e, up, -⟩ := accounted.endpoint
        have comes := Comes.perform accounted here runs (uses queued (List.mem_of_getElem? here))
        rw [← begin_up up, network] at comes
        exact comes.settle here
    | woken wait wake =>
      obtain ⟨size, buffer, rfl, rfl⟩ | ⟨data, address, goal, rfl, rfl⟩ := fares.woken
      · obtain ⟨accounted, runs⟩ := h.runs took found fun _ _ _ _ fares => fares.looks
        exact (Comes.resumeReceive accounted here runs buffer wake).settle here
      · cases cancelled : wake.isCancelled with
        | true =>
          have runs : going.statuses[id]? = some (.running false) := by
            rw [statuses_setStatus, took.statuses]
            exact List.getElem?_set_self (List.getElem?_eq_some_iff.mp found).1
          have left : going.proceed id wake (.writing ⟨data, goal, .count⟩) =
              (going, .finished .cancelled) := by
            rw [proceed, resumeWrite, if_pos cancelled]
          change Credited _ _ _ _ _
            ((going.proceed id wake _).1.settle id (going.proceed id wake _).2)
          rw [left, settle_finished runs, finish_setStatus]
          exact (h.drops took found fun _ _ _ _ fares => fares.gives).credited _ id
        | false =>
          obtain ⟨accounted, runs⟩ := h.runs took found fun _ _ _ _ fares => fares.retries cancelled
          have comes := Comes.write accounted runs data address goal
          have again : going.proceed id wake (.writing ⟨data, goal, .count⟩) =
              going.write id ⟨data, goal, .count⟩ := by
            rw [proceed, resumeWrite, cancelled]
            rfl
          rw [network, ← again] at comes
          exact comes.settle here
    | _ => exact (h.spend took (by simp [found])).credited _ id

theorem Accounted.sent_eq (h : Accounted calls ledger sent s) : s.network.sent = sent := by
  obtain ⟨e, up, regular⟩ := h.endpoint
  rw [network_up up, regular.sent]

theorem Accounted.dispatched_eq {made : List (Bytes × Value)} (h : Accounted calls ledger sent s)
    (after : Accounted calls ledger' (sent ++ made) t) :
    s.dispatched t = Dispatch.ofSent s.network.shortBy made := by
  rw [dispatched, after.sent_eq, h.sent_eq, List.drop_left]

/-- In the turn of a task it is credited with what is handed over. -/
theorem credit_dispatched {choice : Choice} (turn : s.given? choice = some (.resume id)) :
    credit ledger id (s.dispatched (s.choose choice)) =
      fun i => ledger i ++ s.dispatchedBy i choice := by
  funext i
  by_cases here : i = id
  · subst here
    rw [credit, Function.update_self, dispatchedBy, if_pos turn]
  · have other : s.given? choice ≠ some (.resume i) := by
      rw [turn]
      exact fun same => here (Turn.resume.inj (Option.some.inj same)).symm
    rw [credit, Function.update_of_ne here, dispatchedBy, if_neg other, List.append_nil]

/-- A step, with what is handed over in it. -/
theorem Accounted.choose (h : Accounted calls ledger sent s)
    (uses : ∀ action ∈ calls, action.isUse = true) (choice : Choice) :
    let t := s.choose choice
    Accounted (calls ++ actions [choice]) (fun id => ledger id ++ s.dispatchedBy id choice)
        t.network.sent t ∧
      (t.network.sent ≠ s.network.sent → ∃ id data address,
        s.given? choice = some (.resume id) ∧ calls[id]? = some (.write data address)) := by
  intro t
  -- A step that is not the turn of a task hands nothing over.
  have silent {all : List Action} (after : Accounted all ledger sent t)
      (other : ∀ id, s.given? choice ≠ some (.resume id)) :
      Accounted all (fun id => ledger id ++ s.dispatchedBy id choice) t.network.sent t ∧
        (t.network.sent ≠ s.network.sent → ∃ id data address,
          s.given? choice = some (.resume id) ∧ calls[id]? = some (.write data address)) := by
    have none (id : TaskId) : s.dispatchedBy id choice = [] := if_neg (other id)
    simp only [none, List.append_nil, after.sent_eq]
    exact ⟨after, fun more => absurd h.sent_eq.symm more⟩
  cases choice with
  | spawn name action => exact silent (h.spawn name action) fun id => by simp [given?]
  | turn place =>
    have same : calls ++ actions [.turn place] = calls := List.append_nil _
    rw [same]
    cases found : s.ready[place]? with
    | none =>
      refine silent ?_ fun id => by simp [given?, found]
      change Accounted calls ledger sent (s.turnAt place)
      rw [turnAt, found]
      exact h
    | some turn =>
      have took := Takes.intro found
      have given : t = { s with ready := s.ready.eraseIdx place }.giveTurn turn := by
        change s.turnAt place = _
        rw [turnAt, found]
      cases turn with
      | signal id =>
        refine silent ?_ fun id => by simp [given?, found]
        rw [given]
        exact h.signal took
      | receive id =>
        refine silent ?_ fun id => by simp [given?, found]
        rw [given]
        exact h.turnReceive took
      | resume id =>
        have credited : Credited calls ledger sent s.network.shortBy id t := by
          rw [given]
          exact h.resume uses took
        obtain ⟨made, after, whose⟩ := credited
        have credits : credit ledger id (s.dispatched t) =
            fun i => ledger i ++ s.dispatchedBy i (.turn place) := credit_dispatched found
        rw [← h.dispatched_eq after, credits] at after
        rw [after.sent_eq]
        refine ⟨after, fun more => ?_⟩
        rcases whose with rfl | ⟨data, address, call⟩
        · rw [h.sent_eq, List.append_nil] at more
          exact absurd rfl more
        · exact ⟨id, data, address, found, call⟩

private theorem actions_cons (choice : Choice) (rest : List Choice) :
    actions (choice :: rest) = actions [choice] ++ actions rest :=
  List.filterMap_append (l := [choice])

/-- A schedule, with what every call hands over in it. -/
theorem Accounted.schedule {choices : List Choice} (h : Accounted calls ledger sent s)
    (uses : ∀ action ∈ calls ++ actions choices, action.isUse = true) :
    Accounted (calls ++ actions choices) (fun id => ledger id ++ s.dispatches id choices)
      (s.schedule choices).network.sent (s.schedule choices) := by
  induction choices generalizing s calls ledger sent with
  | nil =>
    simp only [actions, List.filterMap_nil, List.append_nil, dispatches]
    rw [show s.schedule [] = s from rfl, h.sent_eq]
    exact h
  | cons choice rest ih =>
    have later := actions_cons choice rest
    rw [later, ← List.append_assoc] at uses
    obtain ⟨after, -⟩ := h.choose (fun action member => uses action (by simp [member])) choice
    have all := ih after uses
    simp only [List.append_assoc, ← later] at all
    exact all

end Turns

/-- Nobody who waits to write to an endpoint is stranded. -/
structure Heeded (s : Session) (e : Endpoint) : Prop where
  /-- There is a latch exactly while a callback is registered for the socket. -/
  watched : e.latch.isSome = true ↔ e.watched = true
  /-- It is still to be opened: who stands at it waits to write, and is not about to be told. -/
  pending : ∀ id ∈ e.latch.getD [], .signal id ∉ s.ready ∧
    ∃ w, s.statuses[id]? = some (.blocked (.writing w))
  /-- Who waits to write stands at the latch, or stood at one that was opened and is to be told. -/
  blocked : ∀ (id : TaskId) (w : Write), s.statuses[id]? = some (.blocked (.writing w)) →
    id ∈ e.latch.getD [] ∨ .signal id ∈ s.ready
  /-- Who was told, or was cancelled, has a turn to go on. -/
  woken : ∀ (id : TaskId) (wait : Wait) (wake : Wake), s.statuses[id]? = some (.woken wait wake) →
    .resume id ∈ s.ready
  /-- At a closed endpoint no callback is registered, and all who wait to write are to be told. -/
  closed : e.closed = true → e.watched = false ∧
    ∀ (id : TaskId) (w : Write), s.statuses[id]? = some (.blocked (.writing w)) →
      .signal id ∈ s.ready

theorem Accounted.heeded (h : Accounted calls ledger sent s) (up : s.link = .up e) :
    s.Heeded e := by
  obtain ⟨e', up', regular⟩ := h.endpoint
  cases up.symm.trans up'
  have blocked (id : TaskId) (w : Write) (waits : s.statuses[id]? = some (.blocked (.writing w))) :
      id ∈ e.latch.getD [] ∨ .signal id ∈ s.ready := by
    obtain ⟨action, -, fares⟩ := h.fares id _ waits
    have once := fares.once
    rw [latched_up up] at once
    by_contra neither
    obtain ⟨away, silent⟩ := not_or.mp neither
    rw [List.count_eq_zero.mpr away, Session.told, List.count_eq_zero.mpr silent] at once
    cases once
  constructor
  case watched => rw [regular.watched]
  case pending =>
    intro id here
    have counted : s.latched.count id ≠ 0 := by
      rw [latched_up up]
      exact (List.count_pos_iff.mpr here).ne'
    cases found : s.statuses[id]? with
    | none =>
      have beyond := List.getElem?_eq_none_iff.mp found
      obtain ⟨-, away, -⟩ := h.absent id (h.length.symm.trans_le beyond)
      exact absurd away counted
    | some status =>
      obtain ⟨action, -, fares⟩ := h.fares id status found
      obtain ⟨silent, w, rfl⟩ := fares.waits counted
      exact ⟨List.count_eq_zero.mp silent, w, rfl⟩
  case blocked => exact blocked
  case woken => exact h.woken
  case closed =>
    intro closed
    have none := regular.shut closed
    refine ⟨?_, fun id w waits => ?_⟩
    · rw [← regular.watched, none]
      rfl
    · refine (blocked id w waits).resolve_left ?_
      rw [none]
      exact List.not_mem_nil

/-- Only calls of an endpoint are started. -/
def Uses (choices : List Choice) : Prop := ∀ action ∈ actions choices, action.isUse = true

instance (choices : List Choice) : Decidable (Uses choices) :=
  inferInstanceAs (Decidable (∀ action ∈ actions choices, action.isUse = true))

theorem Accounted.start {codec : Codec} {settings : Settings} {earlier : Except Fault Settings}
    {hosts : Hosts} {family : Int} {home : Value} {network : Network} {start : Session}
    (built : (bare .endpoint codec earlier hosts).attach settings
      (.ofSocket family home network) = .ok start)
    (unused : network.inbox.waiting = []) :
    Accounted [] (fun _ => []) network.sent start := by
  cases built
  have nobody {status : TaskStatus} (id : TaskId)
      (found : ([] : List TaskStatus)[id]? = some status) : False := by simp at found
  constructor
  case layer => rfl
  case receives => rfl
  case endpoint =>
    refine ⟨_, rfl, rfl, rfl, ?_, rfl⟩
    intro closed
    rfl
  case length => rfl
  case fares => exact fun id status found => (nobody id found).elim
  case absent => exact fun id _ => ⟨rfl, rfl, rfl⟩
  case woken => exact fun id wait wake found => (nobody id found).elim
  case takers =>
    intro id member
    change _ ∈ network.inbox.waiting at member
    rw [unused] at member
    cases member

section Clauses

variable {place : Nat}

theorem link_settle (s : Session) (id : TaskId) (progress : Progress) :
    (s.settle id progress).link = s.link :=
  (s.settle_stays id progress).1

/-- The endpoint after the first turn of a task is as the action of the task leaves it. -/
theorem link_turnAt (up : s.link = .up e) (turn : s.ready[place]? = some (.resume id))
    (queued : s.statuses[id]? = some (.queued action false)) :
    ∃ u : Session, u.link = .up e ∧ (s.turnAt place).link = (u.perform id action).1.link := by
  let taken := { s with ready := s.ready.eraseIdx place }
  let u := taken.setStatus id (.running false)
  have here : taken.statuses[id]? = some (.queued action false) := queued
  refine ⟨u, up, ?_⟩
  rw [turnAt, turn]
  change (taken.resume id).link = _
  rw [resume_eq, here]
  change ((u.begin id action).1.settle id (u.begin id action).2).link = _
  rw [link_settle, begin_up (s := u) up]

/-- Cancelling a task leaves the latch and the callback as they are for all others. -/
theorem link_cancel (up : s.link = .up e) (turn : s.ready[place]? = some (.resume id)) {name : Text}
    (queued : s.statuses[id]? = some (.queued (.cancel name) false)) :
    ∃ e', (s.turnAt place).link = .up e' ∧ e'.watched = e.watched ∧
      (e'.latch = e.latch ∨
        ∃ target : TaskId, e'.latch = e.latch.map fun tasks => tasks.erase target) := by
  obtain ⟨u, up', link⟩ := link_turnAt up turn queued
  rw [link, perform]
  cases u.taskId? name with
  | none => exact ⟨e, up', rfl, .inl rfl⟩
  | some target =>
    obtain ⟨e', after, watched, latch⟩ := link_cancelTask up' target
    exact ⟨e', after, watched, latch.imp_right fun left => ⟨target, left⟩⟩

/-- The turn in which a cancelled writer notices it leaves the whole endpoint as it is. -/
theorem Accounted.link_cancelled (h : Accounted calls ledger sent s) {data : Bytes}
    {address : Option Value} (here : calls[id]? = some (.write data address))
    (turn : s.ready[place]? = some (.resume id)) {status : TaskStatus}
    (found : s.statuses[id]? = some status) (cancelled : status.isCancelled = true) :
    (s.turnAt place).link = s.link := by
  let taken := { s with ready := s.ready.eraseIdx place }
  have same : taken.statuses[id]? = some status := found
  obtain ⟨action, there, fares⟩ := h.fares id status found
  cases here.symm.trans there
  rw [turnAt, turn]
  change (taken.resume id).link = taken.link
  rw [resume_eq, same]
  cases status with
  | queued action asked =>
    cases cancelled
    rfl
  | woken wait wake =>
    obtain ⟨size, buffer, other, -⟩ | ⟨data', address', goal, -, rfl⟩ := fares.woken
    · cases other
    · have cancelled : wake.isCancelled = true := cancelled
      change (((taken.setStatus id (.running false)).resumeWrite id ⟨data', goal, .count⟩
        wake).1.settle id _).link = _
      rw [link_settle, resumeWrite, if_pos cancelled]
      rfl
  | _ => rfl

/-- When the socket is writable, or is closed, the latch is opened. -/
theorem link_opens (up : s.link = .up e) (watched : e.latch.isSome = e.watched)
    (turn : s.ready[place]? = some (.resume id))
    (queued : s.statuses[id]? = some (.queued action false))
    (call : action = .writable ∨ action = .closeEndpoint) :
    ∃ e', (s.turnAt place).link = .up e' ∧ e'.latch = none := by
  obtain ⟨u, up', link⟩ := link_turnAt up turn queued
  rw [link]
  rcases call with rfl | rfl
  · simp only [perform, reportWritable, up']
    cases callback : e.watched with
    | false =>
      rw [callback] at watched
      exact ⟨e, up', Option.isNone_iff_eq_none.mp (by simpa using watched)⟩
    | true => exact ⟨_, rfl, rfl⟩
  · rw [perform, closeEndpoint_up up']
    exact ⟨_, rfl, rfl⟩

end Clauses

/-- In every run of an endpoint over a socket nobody who waits to write is stranded. Cancelling a
task does not touch the latch of the others, nor does the turn in which a cancelled writer notices
it, and the latch is opened when the socket is writable or is closed. A call to write that returns
has handed over its own datagram once, with the count that it returns as the answer, and every other
one has handed over nothing; nobody else hands over any. -/
theorem writers_heeded {codec : Codec} {settings : Settings} {earlier : Except Fault Settings}
    {hosts : Hosts} {family : Int} {home : Value} {network : Network} {start : Session}
    {choices : List Choice}
    (built : (bare .endpoint codec earlier hosts).attach settings
      (.ofSocket family home network) = .ok start)
    (unused : network.inbox.waiting = []) (uses : Uses choices) :
    let s := start.schedule choices
    ∃ e, s.link = .up e ∧ s.Heeded e ∧
      (∀ id : TaskId, (actions choices)[id]? = some .closeEndpoint →
        s.statuses[id]? = some (.finished (.value .nothing)) → e.closed = true) ∧
      (∀ (place : Nat) (id : TaskId) (name : Text), s.ready[place]? = some (.resume id) →
        s.statuses[id]? = some (.queued (.cancel name) false) →
        ∃ e', (s.turnAt place).link = .up e' ∧ e'.watched = e.watched ∧ (e'.latch = e.latch ∨
          ∃ target : TaskId, e'.latch = e.latch.map fun tasks => tasks.erase target)) ∧
      (∀ (place : Nat) (id : TaskId) (data : Bytes) (address : Option Value) (status : TaskStatus),
        (actions choices)[id]? = some (.write data address) →
        s.ready[place]? = some (.resume id) → s.statuses[id]? = some status →
        status.isCancelled = true → (s.turnAt place).link = .up e) ∧
      (∀ (place : Nat) (id : TaskId) (action : Action),
        action = .writable ∨ action = .closeEndpoint → s.ready[place]? = some (.resume id) →
        s.statuses[id]? = some (.queued action false) →
        ∃ e', (s.turnAt place).link = .up e' ∧ e'.latch = none) ∧
      (∀ (id : TaskId) (data : Bytes) (address : Option Value),
        (actions choices)[id]? = some (.write data address) →
        ∃ status, s.statuses[id]? = some status ∧
          Served data (start.dispatches id choices) status) ∧
      ∀ choice, (s.choose choice).network.sent ≠ s.network.sent → ∃ id data address,
        s.given? choice = some (.resume id) ∧
          (actions choices)[id]? = some (.write data address) := by
  intro s
  have accounted : Accounted (actions choices) (fun id => start.dispatches id choices)
      s.network.sent s := (Accounted.start built unused).schedule uses
  obtain ⟨e, up, regular⟩ := accounted.endpoint
  refine ⟨e, up, accounted.heeded up, ?_, ?_, ?_, ?_, ?_, ?_⟩
  · intro id call returned
    obtain ⟨action, here, fares⟩ := accounted.fares id _ returned
    cases here.symm.trans call
    rw [← isEndpointClosed_up up]
    exact fares.shut rfl
  · exact fun place id name turn => link_cancel up turn
  · intro place id data address status call turn found cancelled
    exact (accounted.link_cancelled call turn found cancelled).trans up
  · exact fun place id action call turn queued => link_opens up regular.watched turn queued call
  · intro id data address call
    have inside := (List.getElem?_eq_some_iff.mp call).1
    rw [← accounted.length] at inside
    have found := List.getElem?_eq_getElem inside
    obtain ⟨action, here, fares⟩ := accounted.fares id _ found
    cases here.symm.trans call
    exact ⟨_, found, fares.served⟩
  · exact fun choice => (accounted.choose uses choice).2

def literal (port : Int) : Value := .tuple [.text (Text.ofString "127.0.0.1"), .int port]

/-- A network in which the next two writes find the socket busy, and counts are too small by one. -/
def busyNetwork : Network := { Network.quiet [] with stalls := 2, shortBy := 1 }

def busySocket : Session :=
  { bare .endpoint .osc (.ok .default) [] with
    link := .up (.ofSocket 2 (literal 9000) busyNetwork) }

/-- Two tasks find the socket busy. -/
def twoWriters : List Choice := [
  .spawn (Text.ofString "a") (.write [1, 2] (some (literal 9001))), .turn 0,
  .spawn (Text.ofString "b") (.write [3] (some (literal 9001))), .turn 0]

/-- The second is cancelled and the socket becomes writable; the first is told, sends, and the
endpoint is closed. -/
def oneSent : List Choice := twoWriters ++ [
  .spawn (Text.ofString "c") (.cancel (Text.ofString "b")), .turn 0,
  .spawn (Text.ofString "d") .writable, .turn 1, .turn 0, .turn 0, .turn 0,
  .spawn (Text.ofString "e") .closeEndpoint, .turn 0]

theorem writers_heeded_oneSent :
    let s := busySocket.schedule twoWriters
    let u := busySocket.schedule (oneSent.take 6)
    let t := busySocket.schedule oneSent
    busyNetwork.inbox.waiting = [] ∧ Uses twoWriters ∧ Uses oneSent ∧
      (∃ e, s.link = .up e ∧ s.Heeded e ∧ e.latch = some [0, 1]) ∧
      (∃ e, u.link = .up e ∧ e.latch = some [0] ∧ u.ready[0]? = some (.resume 1) ∧
        u.statuses[1]? = some (.woken (.writing ⟨[3], some (literal 9001), .count⟩) .cancelled) ∧
        (u.turnAt 0).link = .up e) ∧
      (∃ e, t.link = .up e ∧ t.Heeded e ∧ e.closed = true) ∧
      (∃ status, t.statuses[0]? = some status ∧
        Served [1, 2] [⟨[1, 2], literal 9001, 1⟩] status) ∧
      ∃ status, t.statuses[1]? = some status ∧ Served [3] [] status := by
  intro s u t
  have built : (bare .endpoint .osc (.ok .default) []).attach .default
      (.ofSocket 2 (literal 9000) busyNetwork) = .ok busySocket := rfl
  have before : Uses twoWriters := by decide
  have between : Uses (oneSent.take 6) := by decide
  have after : Uses oneSent := by decide
  obtain ⟨e, up, heeded, -⟩ := writers_heeded built rfl before
  obtain ⟨e₁, up₁, -, -, -, leaves, -⟩ := writers_heeded built rfl between
  obtain ⟨e', up', heeded', closed, -, -, -, served, -⟩ := writers_heeded built rfl after
  refine ⟨rfl, before, after, ⟨e, up, heeded, ?_⟩, ⟨e₁, up₁, ?_, rfl, rfl, ?_⟩,
    ⟨e', up', heeded', closed 4 rfl rfl⟩, served 0 [1, 2] _ rfl, served 1 [3] _ rfl⟩
  · have latch : s.endpoint?.bind Endpoint.latch = some [0, 1] := rfl
    have here : s.endpoint? = some e := by rw [endpoint?, up]
    rwa [here] at latch
  · have latch : u.endpoint?.bind Endpoint.latch = some [0] := rfl
    have here : u.endpoint? = some e₁ := by rw [endpoint?, up₁]
    rwa [here] at latch
  · exact leaves 0 1 [3] (some (literal 9001)) _ rfl rfl rfl rfl

end Session

end Osc
