import Osc.Proofs.Consumers
import Osc.Proofs.History

/-!
What holds of a receiver and its operations, whatever the order of turns. All operations
but the one under way are over, and that one is queued, waits in the inbox, or has an
outcome that nobody took; every buffer has one byte more than the capacity. Each function
of the receiver is described once by what it does to the operation under way, to the
arrivals that nobody has taken, and to what the tasks see.
-/

namespace Osc

/-- A capacity that a receiver is built with leaves room for a buffer. -/
theorem Receiver.limitOf_eq_ok {memory : Nat} {size : Value} {capacity limit : Int}
    (whole : size.integer? = some capacity) (limited : Receiver.limitOf memory size = .ok limit) :
    limit = capacity ∧ 0 ≤ capacity + 1 := by
  rw [Receiver.limitOf, whole] at limited
  cases room : allocation memory (capacity + 1) with
  | error fault =>
    simp only [room] at limited
    cases limited
  | ok size =>
    simp only [room] at limited
    cases limited
    refine ⟨rfl, ?_⟩
    by_contra negative
    simp only [allocation, if_pos (Int.not_le.mp negative)] at room
    split at room <;> cases room

/-- What the pull ends with that takes an outcome. -/
def ReceiveOutcome.delivery (limit : Int) (buffer : Buffer) : ReceiveOutcome → Outcome
  | .arrived count peer => .value (.datagram (some (.ofBuffer limit buffer count peer)))
  | .failed error => .fault (.transport (.receive error))
  | .cancelled => .cancelled

namespace Session

/-- The operation under way. -/
def current? (s : Session) : Option ReceiveId :=
  match s.receiver.map Receiver.state with
  | some (.receiving id) => some id
  | _ => none

def underWay? (s : Session) : Option Receive := s.current?.bind s.receive?

def view (s : Session) : View where
  waiting := s.receiver.any Receiver.waiting
  current := s.current?
  done := s.underWay?.any Receive.isFinished
  watchers := (s.underWay?.map Receive.watchers).getD []

/-- The outcome that was received and that no pull has taken. -/
def undelivered (s : Session) : Option Outcome :=
  match s.receiver, s.underWay? with
  | some r, some receive =>
    receive.outcome?.map (ReceiveOutcome.delivery r.limit (s.buffer receive.buffer))
  | _, _ => none

def untaken (s : Session) : List Arrival := s.network.inbox.arrivals

/-- An operation is not forgotten: it has a turn, or waits while there is nothing to take. -/
inductive Moves (turns : List Turn) (untaken : List Arrival) (id : ReceiveId) :
    ReceiveStatus → Prop where
  | queued (cancelled : Bool) (turn : .receive id ∈ turns) :
      Moves turns untaken id (.queued cancelled)
  | waiting (nothing : untaken = []) : Moves turns untaken id .waiting
  | woken (wake : Wake) (turn : .receive id ∈ turns) : Moves turns untaken id (.woken wake)
  | finished (outcome : ReceiveOutcome) : Moves turns untaken id (.finished outcome)

/-- The operation under way is not forgotten. -/
def Operates (turns : List Turn) (s : Session) : Prop :=
  ∀ (id : ReceiveId) (receive : Receive), s.current? = some id → s.receives[id]? = some receive →
    Moves turns s.untaken id receive.status

/-- How far the operation under way can be, with those who wait in the inbox. -/
inductive Stands (id : ReceiveId) : ReceiveStatus → List Taker → Prop where
  | queued : Stands id (.queued false) []
  | waiting : Stands id .waiting [.receive id]
  | woken : Stands id (.woken .due) []
  | arrived (count : Nat) (peer : Value) : Stands id (.finished (.arrived count peer)) []
  | failed (error : OsError) : Stands id (.finished (.failed error)) []

/-- The operation waits in the inbox, or nobody does. -/
theorem Stands.either {id : ReceiveId} {status : ReceiveStatus} {waiting : List Taker}
    (h : Stands id status waiting) :
    status = .waiting ∧ waiting = [.receive id] ∨ status ≠ .waiting ∧ waiting = [] := by
  cases h with
  | waiting => exact .inl ⟨rfl, rfl⟩
  | _ => exact .inr ⟨by simp, rfl⟩

/-- An idle receiver, or one whose operation is under way. -/
inductive Phase (inbox : Inbox) (buffers : List Buffer) (receives : List Receive)
    (state : ReceiverState) : Prop where
  | idle (spare : Option BufferId) (idle : state = .idle spare) (nobody : inbox.waiting = [])
      (room : ∀ b ∈ spare, b < buffers.length)
  | receiving (id : ReceiveId) (receive : Receive) (under : state = .receiving id)
      (found : receives[id]? = some receive) (room : receive.buffer < buffers.length)
      (stands : Stands id receive.status inbox.waiting)

structure Desk (capacity : Nat) (s : Session) (e : Endpoint) (r : Receiver) : Prop where
  layer : s.layer = .receiver
  link : s.link = .up e
  opened : e.closed = false
  receiver : s.receiver = some r
  limit : r.limit = capacity
  phase : Phase e.network.inbox s.buffers s.receives r.state
  sizes : ∀ b ∈ s.buffers, b.size = capacity + 1
  finished : ∀ (id : ReceiveId) (receive : Receive), s.receives[id]? = some receive →
    r.state ≠ .receiving id → receive.isFinished = true

variable {capacity : Nat} {s : Session} {e : Endpoint} {r : Receiver}

theorem setInbox_up (link : s.link = .up e) (inbox : Inbox) :
    s.setInbox inbox =
      { s with link := .up { e with network := { e.network with inbox := inbox } } } := by
  simp only [setInbox, mapNetwork, link]

theorem network_up (link : s.link = .up e) : s.network = e.network := by
  simp only [network, link]

theorem current?_eq (receiver : s.receiver = some r) :
    s.current? = match r.state with
      | .receiving id => some id
      | .idle _ => none := by
  simp only [current?, receiver, Option.map_some]
  cases r.state <;> rfl

/-- The operation under way when the receiver has one. -/
theorem underWay?_eq (receiver : s.receiver = some r) {id : ReceiveId} {receive : Receive}
    (state : r.state = .receiving id) (found : s.receives[id]? = some receive) :
    s.underWay? = some receive := by
  rw [underWay?, current?_eq receiver, state]
  exact found

theorem view_eq (receiver : s.receiver = some r) {id : ReceiveId} {receive : Receive}
    (state : r.state = .receiving id) (found : s.receives[id]? = some receive) :
    s.view = ⟨r.waiting, some id, receive.isFinished, receive.watchers⟩ := by
  simp only [view, underWay?_eq receiver state found, current?_eq receiver, state, receiver,
    Option.any_some, Option.map_some, Option.getD_some]

theorem view_idle (receiver : s.receiver = some r) {spare : Option BufferId}
    (state : r.state = .idle spare) : s.view = ⟨r.waiting, none, false, []⟩ := by
  simp only [view, underWay?, current?_eq receiver, state, receiver, Option.any_some]
  rfl

theorem undelivered_eq (receiver : s.receiver = some r) {id : ReceiveId} {receive : Receive}
    (state : r.state = .receiving id) (found : s.receives[id]? = some receive) :
    s.undelivered = receive.outcome?.map
      (ReceiveOutcome.delivery r.limit (s.buffer receive.buffer)) := by
  simp only [undelivered, receiver, underWay?_eq receiver state found]

theorem undelivered_idle (receiver : s.receiver = some r) {spare : Option BufferId}
    (state : r.state = .idle spare) : s.undelivered = none := by
  simp only [undelivered, underWay?, current?_eq receiver, state, receiver]
  rfl

section

variable {turns : List Turn}

theorem operates_idle (idle : s.view.current = none) : s.Operates turns := by
  intro id receive current
  cases idle.symm.trans current

theorem operates_of (receiver : s.receiver = some r) {id : ReceiveId} {receive : Receive}
    (state : r.state = .receiving id) (found : s.receives[id]? = some receive)
    (moves : Moves turns s.untaken id receive.status) : s.Operates turns := by
  intro id' receive' current' found'
  rw [current?_eq receiver, state] at current'
  cases current'
  cases found.symm.trans found'
  exact moves

theorem Operates.moves (h : s.Operates turns) (receiver : s.receiver = some r) {id : ReceiveId}
    {receive : Receive} (state : r.state = .receiving id)
    (found : s.receives[id]? = some receive) : Moves turns s.untaken id receive.status :=
  h id receive (by rw [current?_eq receiver, state]) found

/-- When it is over it needs no turn. -/
theorem operates_done (done : s.view.done = true) : s.Operates turns := by
  intro id receive current found
  have under : s.underWay? = some receive := by
    rw [underWay?, current]
    exact found
  have finished : receive.isFinished = true := by
    simpa only [view, under, Option.any_some] using done
  obtain ⟨buffer, status, watchers⟩ := receive
  cases status with
  | finished outcome => exact .finished outcome
  | _ => cases finished

theorem Moves.mono {untaken : List Arrival} {id : ReceiveId} {status : ReceiveStatus}
    {more : List Turn} (h : Moves turns untaken id status)
    (subset : .receive id ∈ turns → .receive id ∈ more) : Moves more untaken id status := by
  cases h with
  | queued cancelled turn => exact .queued cancelled (subset turn)
  | waiting nothing => exact .waiting nothing
  | woken wake turn => exact .woken wake (subset turn)
  | finished outcome => exact .finished outcome

theorem Operates.mono {more : List Turn} (h : s.Operates turns)
    (subset : ∀ id, s.current? = some id → .receive id ∈ turns → .receive id ∈ more) :
    s.Operates more :=
  fun id receive current found => (h id receive current found).mono (subset id current)

/-- A turn is spent on an operation that waits or that is over. -/
theorem Operates.spend {id : ReceiveId} (h : s.Operates (.receive id :: turns))
    (spent : ∀ receive ∈ s.receives[id]?, receive.status = .waiting ∨ receive.isFinished = true) :
    s.Operates turns := by
  intro current receive here found
  have moves := h current receive here found
  by_cases same : current = id
  · subst same
    rcases spent receive found with waits | finished
    · rw [waits] at moves ⊢
      cases moves with | waiting nothing => exact .waiting nothing
    · obtain ⟨buffer, status, watchers⟩ := receive
      cases status with
      | finished outcome => exact .finished outcome
      | _ => cases finished
  · exact moves.mono fun member => by simpa [same] using member

end

section Resuming

variable {id : TaskId} {receive : ReceiveId} {found : Receive} {wake : Wake}

theorem resumePull_missing (pull : Pull) (missing : s.receives[receive]? = none) :
    s.resumePull id receive pull wake =
      (s.setReceiver fun r => { r with waiting := false }, .finished .cancelled) := by
  have nowhere : (s.setReceiver fun r => { r with waiting := false }).receive? receive = none :=
    missing
  simp only [resumePull, nowhere]

/-- Without a cancellation a task goes on with what its operation has come to. -/
theorem resumePull_calm (pull : Pull) (there : s.receives[receive]? = some found)
    (calm : (s.setReceiver fun r => { r with waiting := false }).isInterrupted id found wake =
      false) :
    s.resumePull id receive pull wake =
      (s.setReceiver fun r => { r with waiting := false }).collect id pull found := by
  have here : (s.setReceiver fun r => { r with waiting := false }).receive? receive = some found :=
    there
  simp only [resumePull, here, calm, Bool.false_eq_true, if_false]

/-- A pull that is cancelled leaves what its operation brings to the next. -/
theorem resumePull_cancelled (use : PullUse) (there : s.receives[receive]? = some found)
    (cancelled : (s.setReceiver fun r => { r with waiting := false }).isInterrupted id found wake =
      true) :
    s.resumePull id receive ⟨use, 0⟩ wake =
      (s.setReceiver fun r => { r with waiting := false }, .finished .cancelled) := by
  have here : (s.setReceiver fun r => { r with waiting := false }).receive? receive = some found :=
    there
  simp only [resumePull, here, cancelled, if_true]

/-- It is made again while it has patience. -/
theorem resumePull_patient (use : PullUse) (left : Nat)
    (there : s.receives[receive]? = some found)
    (cancelled : (s.setReceiver fun r => { r with waiting := false }).isInterrupted id found wake =
      true) :
    s.resumePull id receive ⟨use, left + 1⟩ wake =
      (s.setReceiver fun r => { r with waiting := false }).pull id ⟨use, left⟩ := by
  have here : (s.setReceiver fun r => { r with waiting := false }).receive? receive = some found :=
    there
  simp only [resumePull, here, cancelled, if_true]

/-- A task that waited in a pull ends cancelled, pulls again, or goes on with what its operation
has come to. -/
theorem resumePull_cases (s : Session) (id : TaskId) (receive : ReceiveId) (pull : Pull)
    (wake : Wake) :
    let t := s.setReceiver fun r => { r with waiting := false }
    s.resumePull id receive pull wake = (t, .finished .cancelled) ∨
      (∃ left, s.resumePull id receive pull wake = t.pull id { pull with patience := left }) ∨
        ∃ found, s.receives[receive]? = some found ∧ t.isInterrupted id found wake = false ∧
          s.resumePull id receive pull wake = t.collect id pull found := by
  intro t
  cases there : s.receives[receive]? with
  | none => exact .inl (resumePull_missing pull there)
  | some found =>
    cases interrupted : t.isInterrupted id found wake with
    | false => exact .inr (.inr ⟨found, rfl, interrupted, resumePull_calm pull there interrupted⟩)
    | true =>
      obtain ⟨use, patience⟩ := pull
      cases patience with
      | zero => exact .inl (resumePull_cancelled use there interrupted)
      | succ left => exact .inr (.inl ⟨left, resumePull_patient use left there interrupted⟩)

end Resuming

/-- What tasks notice of a step: nothing, when it ends no task, changes nothing that they see
of the receiver and tells nobody anything. -/
structure Silent (s t : Session) : Prop where
  tasks : t.tasks = s.tasks
  finished : t.finished = s.finished
  view : t.view = s.view
  undelivered : t.undelivered = s.undelivered
  signals : ∀ id, .signal id ∈ t.ready → .signal id ∈ s.ready
  ready : s.ready ⊆ t.ready

/-- What tasks notice of the end of the operation under way, which has taken the first arrival:
those who watch it are told. -/
structure Received (capacity : Nat) (s t : Session) : Prop where
  tasks : t.tasks = s.tasks
  finished : t.finished = s.finished
  undone : s.view.done = false
  view : t.view = ⟨s.view.waiting, s.view.current, true, []⟩
  ready : t.ready = s.ready ++ s.view.watchers.map .signal
  nothing : s.undelivered = none
  took : ∃ arrival, s.untaken = arrival :: t.untaken ∧
    t.undelivered = some (arrival.delivery capacity)

/-- What tasks notice of a turn in which an operation takes nothing. -/
structure Passed (id : ReceiveId) (s t : Session) : Prop extends Silent s t where
  untaken : t.untaken = s.untaken
  operates : s.Operates (.receive id :: s.ready) → t.Operates t.ready

theorem Silent.refl : Silent s s :=
  ⟨rfl, rfl, rfl, rfl, fun _ member => member, fun _ member => member⟩

namespace Desk

/-- An arrival that nobody waits for is only put down. -/
theorem feed_unheard (h : Desk capacity s e r) (nobody : e.network.inbox.waiting = [])
    (arrival : Arrival) :
    s.feed arrival = s.setInbox ⟨e.network.inbox.arrivals ++ [arrival], []⟩ := by
  simp only [feed, network_up h.link, Inbox.put, Inbox.wake, nobody]
  rfl

theorem feed_heard (h : Desk capacity s e r) {id : ReceiveId}
    (waits : e.network.inbox.waiting = [.receive id]) (arrival : Arrival) :
    s.feed arrival = ((s.setInbox ⟨e.network.inbox.arrivals ++ [arrival], []⟩).setReceive id
      (.woken .due)).queue [.receive id] := by
  simp only [feed, network_up h.link, Inbox.put, Inbox.wake, waits]
  rfl

/-- Other arrivals in the inbox, with nobody who waits, are the same to a receiver that does
not wait. -/
theorem setInbox (h : Desk capacity s e r) (nobody : e.network.inbox.waiting = [])
    (arrivals : List Arrival) :
    Desk capacity (s.setInbox ⟨arrivals, []⟩)
      { e with network := { e.network with inbox := ⟨arrivals, []⟩ } } r := by
  rw [setInbox_up h.link]
  refine { h with link := rfl, phase := ?_ }
  cases h.phase with
  | idle spare idle _ room => exact .idle spare idle rfl room
  | receiving id receive under found room stands =>
    rw [nobody] at stands
    exact .receiving id receive under found room stands

/-- The operation under way goes on, and the endpoint with it. -/
theorem modify (h : Desk capacity s e r) {id : ReceiveId} {receive : Receive}
    (under : r.state = .receiving id) (found : s.receives[id]? = some receive)
    (f : Receive → Receive) (same : (f receive).buffer = receive.buffer) (e' : Endpoint)
    (opened : e'.closed = false)
    (stands : Stands id (f receive).status e'.network.inbox.waiting) :
    Desk capacity { s with link := .up e', receives := s.receives.modify id f } e' r := by
  have now : (s.receives.modify id f)[id]? = some (f receive) := by
    rw [List.getElem?_modify_eq, found]
    rfl
  refine { h with link := rfl, opened := opened, phase := ?_, finished := ?_ }
  · cases h.phase with
    | idle spare idle => cases under.symm.trans idle
    | receiving id' receive' under' found' room =>
      cases under.symm.trans under'
      cases found.symm.trans found'
      exact .receiving id (f receive) under now (same ▸ room) stands
  · intro other receive' atOther different
    have ne : id ≠ other := by
      rintro rfl
      exact different under
    exact h.finished other receive' ((List.getElem?_modify_ne f s.receives ne).symm.trans atOther)
      different

/-- While it has no outcome, neither the tasks nor the outcomes depend on where it stands. -/
theorem unfinished (h : Desk capacity s e r) {id : ReceiveId} {receive : Receive}
    (under : r.state = .receiving id) (found : s.receives[id]? = some receive)
    (f : Receive → Receive) (watchers : (f receive).watchers = receive.watchers)
    (before : receive.outcome? = none) (after : (f receive).outcome? = none) {t : Session}
    (receiver : t.receiver = s.receiver) (receives : t.receives = s.receives.modify id f) :
    t.view = s.view ∧ t.undelivered = s.undelivered := by
  have now : t.receives[id]? = some (f receive) := by
    rw [receives, List.getElem?_modify_eq, found]
    rfl
  have same := receiver.trans h.receiver
  rw [view_eq h.receiver under found, view_eq same under now, undelivered_eq h.receiver under found,
    undelivered_eq same under now, Receive.isFinished, Receive.isFinished, before, after, watchers]
  exact ⟨rfl, rfl⟩

/-- An arrival adds to those that nobody has taken, and tasks do not notice it. -/
theorem feed (h : Desk capacity s e r) (arrival : Arrival) :
    (∃ e', Desk capacity (s.feed arrival) e' r) ∧ Silent s (s.feed arrival) ∧
      (s.feed arrival).untaken = s.untaken ++ [arrival] := by
  have unheard (nobody : e.network.inbox.waiting = []) :
      (∃ e', Desk capacity (s.feed arrival) e' r) ∧ Silent s (s.feed arrival) ∧
        (s.feed arrival).untaken = s.untaken ++ [arrival] := by
    rw [h.feed_unheard nobody]
    refine ⟨⟨_, h.setInbox nobody _⟩, ?_⟩
    rw [setInbox_up h.link, untaken, untaken, network_up h.link]
    exact ⟨⟨rfl, rfl, rfl, rfl, fun id member => member, fun _ member => member⟩, rfl⟩
  cases h.phase with
  | idle spare idle nobody room => exact unheard nobody
  | receiving id receive under found room stands =>
    rcases stands.either with ⟨status, waits⟩ | ⟨-, nobody⟩
    · -- The operation that waited is woken, and will look for the arrival in its turn.
      let woken (receive : Receive) : Receive := { receive with status := .woken .due }
      let inbox : Inbox := ⟨e.network.inbox.arrivals ++ [arrival], []⟩
      let e' : Endpoint := { e with network := { e.network with inbox := inbox } }
      have desk := h.modify under found woken rfl e' h.opened .woken
      have fed := h.feed_heard waits arrival
      rw [setInbox_up h.link] at fed
      have before : receive.outcome? = none := by rw [Receive.outcome?, status]
      obtain ⟨view, undelivered⟩ := h.unfinished under found woken rfl before rfl
        (t := s.feed arrival) (by rw [fed]; rfl) (by rw [fed]; rfl)
      rw [untaken, untaken, network_up h.link]
      rw [fed] at view undelivered ⊢
      refine ⟨⟨_, { desk with }⟩, ⟨rfl, rfl, view, undelivered, ?_, ?_⟩, rfl⟩
      · intro other member
        simpa [queue, setReceive] using member
      · exact List.subset_append_left s.ready [.receive id]
    · exact unheard nobody

/-- The operation that waited for an arrival has a turn. -/
theorem operates_feed (h : Desk capacity s e r) (arrival : Arrival)
    (operates : s.Operates s.ready) : (s.feed arrival).Operates (s.feed arrival).ready := by
  cases h.phase with
  | idle spare idle =>
    apply operates_idle
    rw [(h.feed arrival).2.1.view, view_idle h.receiver idle]
  | receiving id receive under found room stands =>
    have moves := operates.moves h.receiver under found
    rcases stands.either with ⟨-, waits⟩ | ⟨awake, nobody⟩
    · have now : (s.receives.modify id fun receive => { receive with status := .woken .due })[id]? =
          some { receive with status := .woken .due } := by
        rw [List.getElem?_modify_eq, found]
        rfl
      rw [h.feed_heard waits, setInbox_up h.link]
      exact operates_of h.receiver under now (.woken .due (by simp [queue]))
    · rw [h.feed_unheard nobody, setInbox_up h.link]
      refine operates_of h.receiver under found ?_
      generalize receive.status = status at moves awake ⊢
      cases moves with
      | queued cancelled turn => exact .queued cancelled turn
      | waiting nothing => exact absurd rfl awake
      | woken wake turn => exact .woken wake turn
      | finished outcome => exact .finished outcome

/-- The operation under way finds nothing and waits. -/
theorem wait (h : Desk capacity s e r) {id : ReceiveId} {receive : Receive}
    (under : r.state = .receiving id) (found : s.receives[id]? = some receive)
    (before : receive.outcome? = none) (nobody : e.network.inbox.waiting = [])
    (empty : e.network.inbox.arrivals = []) :
    (∃ e', Desk capacity (s.takeOrWait id receive.buffer) e' r) ∧
      Passed id s (s.takeOrWait id receive.buffer) := by
  let waiting (receive : Receive) : Receive := { receive with status := .waiting }
  let e' : Endpoint := { e with network := { e.network with inbox := ⟨[], [.receive id]⟩ } }
  have desk := h.modify under found waiting rfl e' h.opened .waiting
  have waits : s.takeOrWait id receive.buffer =
      (s.setReceive id .waiting).setInbox ⟨[], [.receive id]⟩ := by
    simp only [takeOrWait, takeArrival, network_up h.link, Inbox.take?, empty, Inbox.wait, nobody]
    rfl
  rw [setInbox_up (show (s.setReceive id .waiting).link = .up e from h.link)] at waits
  obtain ⟨view, undelivered⟩ := h.unfinished under found waiting rfl before rfl
    (t := s.takeOrWait id receive.buffer) (by rw [waits]; rfl) (by rw [waits]; rfl)
  have untaken : (s.takeOrWait id receive.buffer).untaken = s.untaken := by
    rw [Session.untaken, Session.untaken, network_up h.link, empty, waits]
    rfl
  have now : (s.receives.modify id waiting)[id]? = some (waiting receive) := by
    rw [List.getElem?_modify_eq, found]
    rfl
  rw [waits] at view undelivered untaken ⊢
  refine ⟨⟨_, { desk with }⟩, ⟨rfl, rfl, view, undelivered, fun other member => member,
    fun turn member => member⟩, untaken, fun _ => ?_⟩
  exact operates_of h.receiver under now (.waiting rfl)

/-- The operation under way ends with an outcome, and nobody waits in the inbox. -/
theorem finish (h : Desk capacity s e r) {id : ReceiveId} {receive : Receive}
    (under : r.state = .receiving id) (found : s.receives[id]? = some receive)
    {outcome : ReceiveOutcome}
    (stands : Stands id (.finished outcome) e.network.inbox.waiting) :
    Desk capacity (s.finishReceive id outcome) e r ∧
      (s.finishReceive id outcome).view = ⟨s.view.waiting, s.view.current, true, []⟩ ∧
        (s.finishReceive id outcome).ready = s.ready ++ s.view.watchers.map .signal ∧
          (s.finishReceive id outcome).undelivered =
            some (outcome.delivery r.limit (s.buffer receive.buffer)) := by
  let ending (receive : Receive) : Receive :=
    { receive with status := .finished outcome, watchers := [] }
  have ended : s.finishReceive id outcome =
      { s with receives := s.receives.modify id ending }.queue (receive.watchers.map .signal) := by
    simp only [finishReceive, receive?, found]
    rfl
  have desk := h.modify under found ending rfl e h.opened stands
  have receiver : (s.finishReceive id outcome).receiver = some r := by
    rw [ended]
    exact h.receiver
  have now : (s.finishReceive id outcome).receives[id]? = some (ending receive) := by
    rw [ended]
    exact (List.getElem?_modify_eq ..).trans (congrArg (Option.map ending) found)
  rw [view_eq receiver under now, undelivered_eq receiver under now, view_eq h.receiver under found]
  rw [ended]
  exact ⟨{ desk with link := h.link }, rfl, rfl, rfl⟩

/-- A buffer may be written to. -/
theorem write (h : Desk capacity s e r) (buffer : BufferId) (data : Bytes) :
    Desk capacity { s with buffers := s.buffers.modify buffer fun b => b.fill data } e r := by
  refine { h with phase := ?_, sizes := ?_ }
  · cases h.phase with
    | idle spare idle nobody room =>
      exact .idle spare idle nobody fun b member => (List.length_modify ..).symm ▸ room b member
    | receiving id receive under found room stands =>
      exact .receiving id receive under found ((List.length_modify ..).symm ▸ room) stands
  · intro b member
    obtain ⟨place, inside, rfl⟩ := List.mem_iff_getElem.mp member
    have before : place < s.buffers.length := by simpa using inside
    have size := h.sizes s.buffers[place] (List.getElem_mem before)
    rw [List.getElem_modify]
    split
    · exact size
    · exact size

/-- A datagram that was written to the buffer of an operation is delivered as it was, cut at
the capacity. -/
theorem delivery_datagram (h : Desk capacity s e r) {buffer : BufferId}
    (room : buffer < s.buffers.length) (data : Bytes) (peer : Value) :
    (ReceiveOutcome.arrived ((s.buffer buffer).room data) peer).delivery r.limit
        ((s.buffers.modify buffer fun b => b.fill data).getD buffer (Buffer.empty 0)) =
      (Arrival.datagram data peer).delivery capacity := by
  have here : s.buffer buffer = s.buffers[buffer] := by
    rw [Session.buffer, List.getD_eq_getElem?_getD, List.getElem?_eq_getElem room]
    rfl
  have sized : ((s.buffer buffer).size : Int) = (capacity : Int) + 1 := by
    rw [here, h.sizes _ (List.getElem_mem room)]
    push_cast
    rfl
  have filled : (s.buffers.modify buffer fun b => b.fill data).getD buffer (Buffer.empty 0) =
      (s.buffer buffer).fill data := by
    rw [List.getD_eq_getElem?_getD, List.getElem?_modify_eq, List.getElem?_eq_getElem room, here]
    rfl
  rw [filled, h.limit, ReceiveOutcome.delivery, Datagram.ofBuffer_fill _ _ _ _ sized,
    Arrival.delivery, Int.toNat_natCast]
  simp only [Nat.cast_lt]

/-- The operation under way takes the first arrival. -/
theorem takes (h : Desk capacity s e r) {id : ReceiveId} {receive : Receive}
    (under : r.state = .receiving id) (found : s.receives[id]? = some receive)
    (room : receive.buffer < s.buffers.length)
    (before : receive.outcome? = none) (nobody : e.network.inbox.waiting = [])
    {arrival : Arrival} {rest : List Arrival}
    (first : e.network.inbox.arrivals = arrival :: rest) :
    (∃ e', Desk capacity (s.takeOrWait id receive.buffer) e' r) ∧
      Received capacity s (s.takeOrWait id receive.buffer) := by
  have undone : s.view.done = false := by
    rw [view_eq h.receiver under found, Receive.isFinished, before]
    rfl
  have nothing : s.undelivered = none := by
    rw [undelivered_eq h.receiver under found, before]
    rfl
  have there : s.untaken = arrival :: rest := by rw [untaken, network_up h.link, first]
  have left := h.setInbox nobody rest
  rw [setInbox_up h.link] at left
  cases arrival with
  | failure error =>
    have taken : s.takeOrWait id receive.buffer =
        (s.setInbox ⟨rest, []⟩).finishReceive id (.failed error) := by
      simp only [takeOrWait, takeArrival, network_up h.link, Inbox.take?, first, nobody]
    rw [setInbox_up h.link] at taken
    obtain ⟨desk, view, ready, undelivered⟩ := left.finish under found (.failed error)
    rw [taken]
    exact ⟨⟨_, desk⟩, rfl, rfl, undone, view, ready, nothing, _, there, undelivered⟩
  | datagram data peer =>
    have taken : s.takeOrWait id receive.buffer =
        { s.setInbox ⟨rest, []⟩ with
          buffers := s.buffers.modify receive.buffer fun b => b.fill data }.finishReceive id
            (.arrived ((s.buffer receive.buffer).room data) peer) := by
      simp only [takeOrWait, takeArrival, network_up h.link, Inbox.take?, first, nobody]
    rw [setInbox_up h.link] at taken
    obtain ⟨desk, view, ready, undelivered⟩ := (left.write receive.buffer data).finish under found
      (.arrived ((s.buffer receive.buffer).room data) peer)
    rw [taken]
    exact ⟨⟨_, desk⟩, rfl, rfl, undone, view, ready, nothing, _, there,
      undelivered.trans (congrArg some (h.delivery_datagram room data peer))⟩

/-- A look into the inbox: the first arrival is taken, or none is there. -/
theorem look (h : Desk capacity s e r) {id : ReceiveId} {receive : Receive}
    (under : r.state = .receiving id) (found : s.receives[id]? = some receive)
    (room : receive.buffer < s.buffers.length)
    (before : receive.outcome? = none) (nobody : e.network.inbox.waiting = []) :
    (∃ e', Desk capacity (s.takeOrWait id receive.buffer) e' r) ∧
      (Passed id s (s.takeOrWait id receive.buffer) ∨
        Received capacity s (s.takeOrWait id receive.buffer)) := by
  cases arrivals : e.network.inbox.arrivals with
  | nil =>
    obtain ⟨desk, passed⟩ := h.wait under found before nobody arrivals
    exact ⟨desk, .inl passed⟩
  | cons arrival rest =>
    obtain ⟨desk, received⟩ := h.takes under found room before nobody arrivals
    exact ⟨desk, .inr received⟩

/-- A turn of a receive operation: it takes the first arrival, or tasks do not notice it. -/
theorem turnReceive (h : Desk capacity s e r) (id : ReceiveId) :
    (∃ e', Desk capacity (s.turnReceive id) e' r) ∧
      (Passed id s (s.turnReceive id) ∨ Received capacity s (s.turnReceive id)) := by
  have still (spent : ∀ receive ∈ s.receives[id]?,
      receive.status = .waiting ∨ receive.isFinished = true) :
      (∃ e', Desk capacity s e' r) ∧ (Passed id s s ∨ Received capacity s s) :=
    ⟨⟨e, h⟩, .inl ⟨.refl, rfl, fun operates => operates.spend spent⟩⟩
  rw [Session.turnReceive, receive?]
  cases found : s.receives[id]? with
  | none => exact still (by simp [found])
  | some receive =>
    have spend (spent : receive.status = .waiting ∨ receive.isFinished = true) :=
      still fun other member => Option.some.inj (found.symm.trans member) ▸ spent
    by_cases under : r.state = .receiving id
    · cases h.phase with
      | idle spare idle => cases under.symm.trans idle
      | receiving id' receive' under' found' room stands =>
        cases under.symm.trans under'
        cases found.symm.trans found'
        obtain ⟨buffer, status, watchers⟩ := receive
        generalize waits : e.network.inbox.waiting = waiting at stands
        cases stands with
        | queued =>
          obtain ⟨handed, same⟩ : ∃ handed, s.hand buffer = { s with handed := handed } := by
            rw [hand]
            split
            · exact ⟨s.handed, rfl⟩
            · exact ⟨_, rfl⟩
          have desk : Desk capacity { s with handed := handed } e r := { h with }
          dsimp only
          rw [same]
          obtain ⟨after, passed | received⟩ := desk.look under found room rfl waits
          · exact ⟨after, .inl { passed with }⟩
          · exact ⟨after, .inr { received with }⟩
        | woken => exact h.look under found room rfl waits
        | waiting => exact spend (.inl rfl)
        | arrived count peer => exact spend (.inr rfl)
        | failed error => exact spend (.inr rfl)
    · have ended := h.finished id receive found under
      obtain ⟨buffer, status, watchers⟩ := receive
      cases status with
      | finished outcome => exact spend (.inr rfl)
      | queued cancelled => cases ended
      | waiting => cases ended
      | woken wake => cases ended

end Desk

end Session

end Osc
