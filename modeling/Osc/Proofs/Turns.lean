import Osc.Proofs.Changes

/-!
Each function of a session as a chain of changes. A task that runs comes to its end or to its
next wait by such a chain, and so does every turn, as long as the session is used by its calls.
-/

namespace Osc

theorem Endpoint.Alike.withInbox (e : Endpoint) (inbox : Inbox)
    (same : inbox.waiting = e.network.inbox.waiting) : e.Alike (e.withInbox inbox) :=
  ⟨rfl, rfl, rfl, rfl, same, rfl⟩

theorem Outcome.isMiscount_of_isPlain {outcome : Outcome} (plain : outcome.isPlain = true) :
    outcome.isMiscount = false := by
  cases outcome with
  | fault cause => exact (Bool.not_eq_true' _).mp plain
  | _ => rfl

theorem Outcome.isPlain_fault {fault : Fault} (calm : fault.isMiscount = false) :
    (Outcome.fault fault).isPlain = true := (Bool.not_eq_true' _).mpr calm

theorem Outcome.isPlain_ofAnswer {α : Type} {result : α → Result} {answer : Except Fault α}
    (calm : Calm answer) (other : ∀ a, (Outcome.value (result a)).isPlain = true) :
    (Outcome.ofAnswer result answer).isPlain = true := by
  cases answer with
  | ok a => exact other a
  | error fault => exact isPlain_fault (calm fault rfl)

namespace Session

variable {given : Option Turn} {s t : Session} {e : Endpoint} {id : TaskId}

theorem Change.chain (h : Change none s t) : Changes s t := .single h

/-- A task that runs comes to its end or to a wait by a chain of changes. -/
def Goes (s : Session) (id : TaskId) (p : Session × Progress) : Prop :=
  Changes s (p.1.settle id p.2)

theorem Goes.after {p : Session × Progress} (next : Goes t id p)
    (first : Changes s t) : Goes s id p := first.trans next

/-- A whole turn: what changes before and after it is taken from the queue. -/
def Course (given : Option Turn) (s t : Session) : Prop :=
  ∃ u v, Changes s u ∧ Relation.ReflGen (Change given) u v ∧ Changes v t

theorem Change.course (h : Change given s t) : Course given s t :=
  ⟨s, t, .refl, .single h, .refl⟩

/-- A task goes on in its turn, to its end or to a wait. -/
theorem Goes.course {p : Session × Progress} (next : Goes t id p) (first : Change given s t) :
    Course given s (p.1.settle id p.2) := ⟨s, t, .refl, .single first, next⟩

theorem goes_finished {cancelled : Bool} {outcome : Outcome}
    (runs : s.statuses[id]? = some (.running cancelled)) (calm : outcome.isMiscount = false)
    (stops : outcome = .value .stop → s.HasEnded) : Goes s id (s, .finished outcome) := by
  unfold Goes
  rw [settle_running runs]
  exact (Change.finish runs calm stops).chain

theorem goes_plain {cancelled : Bool} {outcome : Outcome}
    (runs : s.statuses[id]? = some (.running cancelled)) (plain : outcome.isPlain = true) :
    Goes s id (s, .finished outcome) := by
  apply goes_finished runs (Outcome.isMiscount_of_isPlain plain)
  rintro rfl
  cases plain

section Endpoints

theorem Inert.chain (h : Inert s t) : Changes s t := (Change.inert h).chain

theorem Inert.fit (h : Inert s t) (fit : s.Fit) : t.Fit := by
  have change : Change none s t := .inert h
  exact change.fit fit

theorem Inert.statuses (h : Inert s t) : t.statuses = s.statuses := statuses_eq h.tasks

theorem Inert.onto {e' : Endpoint} (up : s.link = .up e) (alike : e.Alike e') :
    Inert s (s.onto e') := ⟨rfl, rfl, rfl, rfl, rfl, rfl, rfl, rfl, rfl, rfl, rfl, e, e', up, rfl,
    alike⟩

theorem Inert.trans {u : Session} (first : Inert s t) (second : Inert t u) : Inert s u := by
  obtain ⟨e, e', up, up', alike⟩ := first.alike
  obtain ⟨e₁, e₂, up₁, up₂, alike'⟩ := second.alike
  cases up'.symm.trans up₁
  constructor
  case layer => exact second.layer.trans first.layer
  case codec => exact second.codec.trans first.codec
  case settings => exact second.settings.trans first.settings
  case receives => exact second.receives.trans first.receives
  case receiver => exact second.receiver.trans first.receiver
  case references => exact second.references.trans first.references
  case handles => exact second.handles.trans first.handles
  case tasks => exact second.tasks.trans first.tasks
  case ready => exact second.ready.trans first.ready
  case finished => exact second.finished.trans first.finished
  case sizes => exact second.sizes.trans first.sizes
  case alike => exact ⟨e, e₂, up, up₂, alike.trans alike'⟩

theorem Inert.isEndpointClosed (h : Inert s t) : t.isEndpointClosed = s.isEndpointClosed := by
  obtain ⟨e, e', up, up', alike⟩ := h.alike
  simp only [Session.isEndpointClosed, endpoint?, up, up', Option.any_some, alike.closed]

/-- What is in the buffers and what was logged is not noticed. -/
theorem Inert.record (up : s.link = .up e) {buffers : List Buffer}
    (sizes : buffers.map Buffer.size = s.buffers.map Buffer.size) (handed : List BufferId)
    (warnings : List CutWarning) :
    Inert s { s with buffers := buffers, handed := handed, warnings := warnings } :=
  ⟨rfl, rfl, rfl, rfl, rfl, rfl, rfl, rfl, rfl, rfl, sizes, e, e, up, up, .refl e⟩

/-- Writing to a buffer does not change its size. -/
theorem sizes_fill (buffers : List Buffer) (buffer : BufferId) (data : Bytes) :
    (buffers.modify buffer fun b => b.fill data).map Buffer.size = buffers.map Buffer.size := by
  apply List.ext_getElem?
  intro i
  rw [List.getElem?_map, List.getElem?_map, List.getElem?_modify]
  cases buffers[i]? with
  | none => rfl
  | some b =>
    by_cases same : buffer = i
    · simp [same, Buffer.fill]
    · simp [same]

/-- A step of the endpoint is not noticed. -/
theorem onEndpoint_inert {α : Type} (up : s.link = .up e) {step : Endpoint.Op α}
    (keeps : Keeps Endpoint.Alike step) :
    ∃ e' answer, s.onEndpoint step = (s.onto e', answer) ∧ Inert s (s.onto e') ∧ Calm answer := by
  obtain ⟨alike, calm⟩ := keeps e
  refine ⟨(step.run.run e).2, (step.run.run e).1, ?_, .onto up alike, calm⟩
  rw [onEndpoint, up]
  rfl

/-- Whoever waits first in an inbox is woken, which no task notices. -/
theorem wake_changes (fit : s.Fit) (up : s.link = .up e) (arrivals : List Arrival) :
    Changes s ((s.setInbox ⟨arrivals, e.network.inbox.waiting.tail⟩).wakeTaker
      e.network.inbox.waiting.head?) ∧
    ((s.setInbox ⟨arrivals, e.network.inbox.waiting.tail⟩).wakeTaker
      e.network.inbox.waiting.head?).tasks = s.tasks := by
  have laid : Changes s (s.onto (e.withInbox ⟨arrivals, e.network.inbox.waiting⟩)) :=
    (Inert.onto up (.withInbox e ⟨arrivals, e.network.inbox.waiting⟩ rfl)).chain
  rw [setInbox_onto up]
  cases waiting : e.network.inbox.waiting with
  | nil =>
    rw [waiting] at laid
    exact ⟨laid, rfl⟩
  | cons taker rest =>
    obtain ⟨receive, found, rfl, -⟩ := (fit.endpoint up).waiting taker (by simp [waiting])
    rw [waiting] at laid
    let woken := e.withInbox ⟨arrivals, .receive receive :: rest⟩
    exact ⟨laid.tail (Change.waken (s := s.onto woken) (e := woken) rfl rfl), rfl⟩

private theorem feed_changes (fit : s.Fit) (arrival : Arrival) :
    Changes s (s.feed arrival) ∧ (s.feed arrival).tasks = s.tasks := by
  obtain ⟨e, up⟩ := fit.up
  rw [feed, network_up up]
  exact wake_changes fit up _

private theorem passTurn_changes (fit : s.Fit) : Changes s s.passTurn := by
  obtain ⟨e, up⟩ := fit.up
  rw [passTurn, Inbox.pass, network_up up]
  cases e.network.inbox.arrivals.isEmpty with
  | true =>
    rw [if_pos rfl]
    change Changes s (s.setInbox e.network.inbox)
    rw [setInbox_onto up]
    exact (Inert.onto up (.withInbox e _ rfl)).chain
  | false => exact (wake_changes fit up e.network.inbox.arrivals).1

/-- Nothing is taken, or the first arrival. -/
theorem takeArrival_cases (up : s.link = .up e) (buffer : BufferId) :
    s.takeArrival buffer = (s, none) ∨
      ∃ t outcome, s.takeArrival buffer = (t, some outcome) ∧ Inert s t ∧ outcome ≠ .cancelled := by
  rw [takeArrival, network_up up, Inbox.take?]
  cases e.network.inbox.arrivals with
  | nil => exact .inl rfl
  | cons arrival rest =>
    let left := s.onto (e.withInbox ⟨rest, e.network.inbox.waiting⟩)
    have taken : Inert s left := .onto up (.withInbox e ⟨rest, e.network.inbox.waiting⟩ rfl)
    cases arrival with
    | datagram data peer =>
      have filled := Inert.record (s := left) rfl (sizes_fill s.buffers buffer data) s.handed
        s.warnings
      refine .inr ⟨_, _, rfl, ?_, by simp⟩
      rw [setInbox_onto up]
      exact taken.trans filled
    | failure error =>
      refine .inr ⟨_, _, rfl, ?_, by simp⟩
      rw [setInbox_onto up]
      exact taken

/-- An operation in its turn takes an arrival, or waits. -/
theorem takeOrWait_changes (up : s.link = .up e) {id : ReceiveId} {found : Receive}
    (there : s.receives[id]? = some found)
    (looks : found.status = .queued false ∨ found.status = .woken .due) (buffer : BufferId) :
    Changes s (s.takeOrWait id buffer) := by
  rw [takeOrWait]
  rcases takeArrival_cases up buffer with nothing | ⟨t, outcome, taken, same, brought⟩
  · rw [nothing]
    exact (Change.wait there looks).chain
  · rw [taken]
    have kept : t.receives[id]? = some found := by rw [same.receives, there]
    refine same.chain.tail (.conclude kept ?_ ?_)
    · exact looks.imp (⟨_, ·⟩) (⟨_, ·⟩)
    · have unasked : found.status.isAsked = false := by
        rcases looks with queued | woken
        · rw [queued]
          rfl
        · rw [woken]
          rfl
      simp [brought, unasked]

/-- Giving up a turn does nothing to an operation that does not wait. -/
theorem receives_passTurn (fit : s.Fit) {id : ReceiveId} {found : Receive}
    (there : s.receives[id]? = some found) (other : found.status ≠ .waiting) :
    s.passTurn.receives[id]? = some found := by
  obtain ⟨e, up⟩ := fit.up
  rw [passTurn, Inbox.pass, network_up up]
  cases e.network.inbox.arrivals.isEmpty with
  | true =>
    rw [if_pos rfl]
    change (s.setInbox e.network.inbox).receives[id]? = some found
    rw [setInbox_onto up]
    exact there
  | false =>
    change ((s.setInbox ⟨e.network.inbox.arrivals, e.network.inbox.waiting.tail⟩).wakeTaker
      e.network.inbox.waiting.head?).receives[id]? = some found
    rw [setInbox_onto up]
    cases waiting : e.network.inbox.waiting with
    | nil => exact there
    | cons taker rest =>
      obtain ⟨other', found', rfl, there', waits⟩ :=
        (fit.endpoint up).waiting taker (by simp [waiting])
      have different : other' ≠ id := by
        rintro rfl
        cases there.symm.trans there'
        exact other waits
      exact (List.getElem?_modify_ne _ s.receives different).trans there

/-- The turn of an operation. -/
theorem turnReceive_changes (fit : s.Fit) (id : ReceiveId) :
    Changes s (s.turnReceive id) := by
  obtain ⟨e, up⟩ := fit.up
  rw [turnReceive, receive?]
  cases there : s.receives[id]? with
  | none => exact .refl
  | some found =>
    obtain ⟨buffer, status, watchers⟩ := found
    cases status with
    | queued cancelled =>
      cases cancelled with
      | false =>
        have handed : Inert s (s.hand buffer) := by
          unfold hand
          split
          · exact .record up rfl s.handed s.warnings
          · exact .record up rfl _ s.warnings
        obtain ⟨-, e', -, up', -⟩ := handed.alike
        exact handed.chain.trans
          (takeOrWait_changes up' (handed.receives ▸ there) (.inl rfl) buffer)
      | true => exact (Change.conclude there (.inl ⟨true, rfl⟩) (iff_of_true rfl rfl)).chain
    | waiting => exact .refl
    | woken wake =>
      cases wake with
      | due => exact takeOrWait_changes up there (.inr rfl) buffer
      | dueCancelled =>
        have kept := receives_passTurn fit there (by simp)
        have passed : Changes s s.passTurn := passTurn_changes fit
        exact passed.tail (.conclude kept (.inr ⟨.dueCancelled, rfl⟩) (iff_of_true rfl rfl))
      | cancelled =>
        exact (Change.conclude there (.inr ⟨.cancelled, rfl⟩) (iff_of_true rfl rfl)).chain
    | finished outcome => exact .refl

end Endpoints

section Cancelling

/-- Cancelling a task, with what becomes of a task that runs. -/
theorem cancelTask_changes (fit : s.Fit) (target : TaskId) {cancelled : Bool}
    (runs : s.statuses[id]? = some (.running cancelled)) :
    Changes s (s.cancelTask target).1 ∧
      ∃ cancelled, (s.cancelTask target).1.statuses[id]? = some (.running cancelled) := by
  have asked : Changes s (s.asked target) := (Change.ask target).chain
  have still : (s.asked target).statuses = s.statuses := s.statuses_asked target
  have others {t : Session} {status : TaskStatus} (other : target ≠ id)
      (same : t.tasks = (s.asked target).tasks) :
      (t.setStatus target status).statuses[id]? = some (.running cancelled) := by
    rw [statuses_setStatus, statuses_eq same, still, List.getElem?_set_ne other, runs]
  rw [cancelTask_eq]
  cases at' : s.statuses[target]? with
  | none => exact ⟨.refl, cancelled, runs⟩
  | some status =>
    have now := at'
    rw [← still] at now
    have requested := cancelRequests_asked at'
    cases status with
    | finished outcome => exact ⟨.refl, cancelled, runs⟩
    | queued action earlier =>
      refine ⟨asked.tail (.markQueued now requested), cancelled, others ?_ rfl⟩
      rintro rfl
      cases runs.symm.trans at'
    | running earlier =>
      refine ⟨asked.tail (.markRunning now requested), ?_⟩
      by_cases same : target = id
      · subst same
        have inside := (List.getElem?_eq_some_iff.mp now).1
        exact ⟨true, by rw [statuses_setStatus, List.getElem?_set_self inside]⟩
      · exact ⟨cancelled, others same rfl⟩
    | woken wait wake =>
      refine ⟨asked.tail (.markWoken now requested), cancelled, others ?_ rfl⟩
      rintro rfl
      cases runs.symm.trans at'
    | blocked wait =>
      have other : target ≠ id := by
        rintro rfl
        cases runs.symm.trans at'
      have up : ∃ e, (s.asked target).link = .up e := fit.up
      cases wait with
      | pulling receive pull =>
        exact ⟨asked.tail (.unpull now requested), cancelled, others other rfl⟩
      | writing w =>
        obtain ⟨e, up⟩ := up
        simp only [cancelWait, up]
        exact ⟨asked.tail (.unwrite up now requested), cancelled, others other rfl⟩
      | closing receive earlier outcome =>
        exact ⟨asked.tail (.urge now requested), cancelled,
          others other (aside_cancelReceive (s.asked target) receive).tasks⟩
      | taking buffer => exact (fit.blocked at').elim

end Cancelling

section Closing

theorem tasks_closeEndpoint (s : Session) : s.closeEndpoint.tasks = s.tasks := by
  unfold closeEndpoint
  split <;> rfl

theorem tasks_releaseHandle (s : Session) (handle : HandleId) :
    (s.releaseHandle handle).1.tasks = s.tasks := by
  unfold releaseHandle release
  split
  · rfl
  · split
    · rfl
    · exact tasks_closeEndpoint _
    · rfl

/-- The receiver has an operation under way, which stopping it gives, or nothing is done. -/
theorem cancelReceiver_cases (s : Session) :
    (s.cancelReceiver = (s, none) ∧ ∀ r, s.receiver = some r → ∃ spare, r.state = .idle spare) ∨
    ∃ r receive, s.receiver = some r ∧ r.state = .receiving receive ∧ s.cancelReceiver =
      ((s.cancelReceive receive).setReceiver fun r => { r with state := .idle none },
        some receive) := by
  rw [cancelReceiver]
  cases receiver : s.receiver with
  | none => exact .inl ⟨rfl, by simp⟩
  | some r =>
    cases state : r.state with
    | idle spare =>
      refine .inl ⟨by simp only [Option.map_some, state], fun r' same => ?_⟩
      cases same
      exact ⟨spare, state⟩
    | receiving receive =>
      exact .inr ⟨r, receive, rfl, state, by simp only [Option.map_some, state]⟩

variable {handle : HandleId} {outcome : Outcome}

/-- A handle is given back before a task ends. -/
theorem release_goes (runs : s.statuses[id]? = some (.running false))
    (there : handle < s.handles.length) (plain : outcome.isPlain = true)
    (settled : handle = socketHandle → s.isHandleClosed handle = false → s.IsIdle) :
    Goes s id (concludeClose outcome (s.releaseHandle handle)) := by
  cases isOpen : s.isHandleClosed handle with
  | true =>
    rw [releaseHandle, isOpen]
    exact goes_plain runs plain
  | false =>
    by_cases counted : s.references.getD 0 = 0
    · exact (Change.overdrawn there isOpen counted).chain
    · have released : Change none s (s.releaseHandle handle).1 :=
        .release there isOpen counted fun socket => .inl (settled socket isOpen)
      have answer : s.releaseHandle handle = ((s.releaseHandle handle).1, .ok ()) := by
        rw [releaseHandle_open isOpen counted]
      have still : (s.releaseHandle handle).1.statuses[id]? = some (.running false) := by
        rw [statuses_eq (s.tasks_releaseHandle handle), runs]
      rw [answer]
      exact Goes.after (goes_plain still plain) released.chain

private theorem closeHandle_goes (runs : s.statuses[id]? = some (.running false))
    (there : handle < s.handles.length) (plain : outcome.isPlain = true) :
    Goes s id (s.closeHandle id handle outcome) := by
  rw [closeHandle]
  split
  · next socket =>
    obtain ⟨rfl, isOpen⟩ : handle = socketHandle ∧ s.isHandleClosed handle = false := by
      simpa using socket
    rcases s.cancelReceiver_cases with ⟨nothing, idle⟩ | ⟨r, receive, receiver, current, stopped⟩
    · rw [nothing]
      exact release_goes runs there plain fun _ _ => idle
    · rw [stopped]
      exact (Change.close runs plain there isOpen receiver current).chain
  · next other =>
    refine release_goes runs there plain fun socket isOpen => absurd ?_ other
    rw [isOpen, decide_eq_true socket]
    rfl

end Closing

section Writing

private theorem calm_conclude (address : Option Value) (size : Nat) {answer : Except Fault Int}
    (calm : Calm answer) : Calm (Sender.conclude address size answer) := by
  cases answer with
  | ok count =>
    by_cases whole : count = size
    · rw [Sender.conclude, if_pos whole]
      exact .ok ()
    · rw [Sender.conclude, if_neg whole]
      exact .error rfl
  | error fault =>
    exact .error ((Fault.isMiscount_wrapOs _ fault).trans (calm fault rfl))

private theorem concludeWrite_goes (runs : s.statuses[id]? = some (.running false)) {use : WriteUse}
    (fits : use.Fits s.handles.length) (size : Nat) {answer : Except Fault Int}
    (calm : Calm answer) : Goes s id (s.concludeWrite id size use answer) := by
  have sent (address : Option Value) :
      (Outcome.ofAnswer (fun _ => .nothing) (Sender.conclude address size answer)).isPlain = true :=
    Outcome.isPlain_ofAnswer (calm_conclude address size calm) fun _ => rfl
  cases use with
  | count => exact goes_plain runs (Outcome.isPlain_ofAnswer calm fun _ => rfl)
  | packet address => exact goes_plain runs (sent address)
  | packetThenClose address handle => exact closeHandle_goes runs fits (sent address)

private theorem write_goes (fit : s.Fit) (runs : s.statuses[id]? = some (.running false))
    {w : Write} (fits : w.use.Fits s.handles.length) : Goes s id (s.write id w) := by
  obtain ⟨e, up⟩ := fit.up
  obtain ⟨e', answer, asked, same, calm⟩ :=
    onEndpoint_inert up (Endpoint.keeps_attempt w.data w.goal)
  have still : (s.onto e').statuses[id]? = some (.running false) := runs
  rw [write, asked]
  cases answer with
  | error fault =>
    exact Goes.after (concludeWrite_goes still fits _ (.error (calm fault rfl))) same.chain
  | ok attempt =>
    cases attempt with
    | busy => exact same.chain.tail (.block still fits)
    | sent count => exact Goes.after (concludeWrite_goes still fits _ (.ok count)) same.chain

private theorem startWrite_goes (fit : s.Fit) (runs : s.statuses[id]? = some (.running false))
    (data : Bytes) (address : Option Value) {use : WriteUse}
    (fits : use.Fits s.handles.length) :
    Goes s id (s.startWrite id data address use) := by
  cases address with
  | none => exact write_goes fit runs fits
  | some address =>
    obtain ⟨e, up⟩ := fit.up
    obtain ⟨e', answer, asked, same, calm⟩ := onEndpoint_inert up (Endpoint.keeps_target address)
    have still : (s.onto e').statuses[id]? = some (.running false) := runs
    rw [startWrite]
    simp only [asked]
    cases answer with
    | ok goal =>
      exact Goes.after (write_goes (same.fit fit) still fits)
        same.chain
    | error fault =>
      exact Goes.after (concludeWrite_goes still fits _ (.error (calm fault rfl))) same.chain

private theorem resumeWrite_goes (fit : s.Fit) (runs : s.statuses[id]? = some (.running false))
    {w : Write} (fits : w.use.Fits s.handles.length) (wake : Wake) :
    Goes s id (s.resumeWrite id w wake) := by
  rw [resumeWrite]
  split
  · split
    · exact goes_plain runs rfl
    · exact goes_plain runs rfl
    · next address handle use =>
      rw [use] at fits
      exact closeHandle_goes runs fits rfl
  · exact write_goes fit runs fits

private theorem refuseSend_goes (runs : s.statuses[id]? = some (.running false)) {use : WriteUse}
    (fits : use.Fits s.handles.length) {fault : Fault} (calm : fault.isMiscount = false) :
    Goes s id (s.refuseSend id use fault) := by
  have plain := Outcome.isPlain_fault calm
  cases use with
  | count => exact goes_plain runs plain
  | packet address => exact goes_plain runs plain
  | packetThenClose address handle => exact closeHandle_goes runs fits plain

mutual

private theorem calm_toArgument (v : Value) : Calm v.toArgument := by
  unfold Value.toArgument
  split
  · exact .ok _
  · exact .ok _
  · exact .ok _
  · exact .ok _
  · exact .ok _
  · exact .ok _
  · exact .ok _
  · next items => exact (calm_toArgumentAll items).map Value.array
  · split
    · exact .ok _
    · exact .error rfl

private theorem calm_toArgumentAll (items : List Value) : Calm (Value.toArgumentAll items) := by
  cases items with
  | nil => exact .ok []
  | cons v rest =>
    unfold Value.toArgumentAll
    exact (calm_toArgument v).bind fun first => (calm_toArgumentAll rest).bind fun more => .ok _

end

private theorem calm_toPacket (v : Value) : Calm v.toPacket := by
  have arguments (v : Value) : Calm v.toArguments := by
    unfold Value.toArguments
    split
    · exact calm_toArgumentAll _
    · exact calm_toArgumentAll _
    · exact (calm_toArgument _).bind fun _ => .ok _
  unfold Value.toPacket
  split
  · exact .ok _
  · exact .ok _
  · unfold Value.toMessage
    split
    · exact .ok _
    · exact (arguments _).map _
    · exact (arguments _).map _
    · exact .error rfl

private theorem send_goes (fit : s.Fit) (runs : s.statuses[id]? = some (.running false))
    (handle : HandleId) (parcel : Parcel) {use : WriteUse} (fits : use.Fits s.handles.length) :
    Goes s id (s.send id handle parcel use) := by
  have calm : Calm (Sender.data s.codec parcel.packet) :=
    (calm_toPacket parcel.packet).bind fun v => fit.codec.encode v
  rw [send]
  cases made : Sender.data s.codec parcel.packet with
  | error fault => exact refuseSend_goes runs fits (calm fault made)
  | ok data =>
    dsimp only
    split
    · exact refuseSend_goes runs fits rfl
    · exact startWrite_goes fit runs data parcel.address fits

end Writing

section Pulling

/-- Whether a pull joins an operation: it does not, or nothing keeps it from that. -/
theorem refusePull_cases (s : Session) (pull : Pull) :
    (s.layer = .socket ∧ s.isHandleClosed socketHandle = true ∧
        s.refusePull pull = (s, some pull.use.stopped)) ∨
      ((s.layer = .socket && s.isHandleClosed socketHandle) = false ∧
        s.isEndpointClosed = true ∧
        s.refusePull pull = (s.cancelReceiver.1, some pull.use.stopped)) ∨
      s.refusePull pull = (s, some (.fault (.runtime .alreadyReceiving))) ∨
      s.Admits ∧ s.refusePull pull = (s, none) := by
  rw [refusePull]
  cases handle : s.layer = .socket && s.isHandleClosed socketHandle with
  | true =>
    obtain ⟨socket, closed⟩ : s.layer = .socket ∧ s.isHandleClosed socketHandle = true := by
      simpa using handle
    exact .inl ⟨socket, closed, if_pos rfl⟩
  | false =>
    cases endpoint : s.isEndpointClosed with
    | true => exact .inr (.inl ⟨rfl, rfl, rfl⟩)
    | false =>
      cases nobody : s.receiver.any Receiver.waiting with
      | true => exact .inr (.inr (.inl rfl))
      | false => exact .inr (.inr (.inr ⟨⟨handle, endpoint, nobody⟩, rfl⟩))

private theorem stopped_goes (runs : s.statuses[id]? = some (.running false)) (use : PullUse)
    (ended : s.HasEnded) : Goes s id (s, .finished use.stopped) :=
  goes_finished runs use.isMiscount_stopped fun _ => ended

/-- A receiver over an endpoint that is closed is stopped. -/
theorem cancelReceiver_goes (fit : s.Fit) (runs : s.statuses[id]? = some (.running false))
    (use : PullUse)
    (handle : (s.layer = .socket && s.isHandleClosed socketHandle) = false)
    (closed : s.isEndpointClosed = true) :
    Goes s id (s.cancelReceiver.1, .finished use.stopped) := by
  rcases s.cancelReceiver_cases with ⟨nothing, -⟩ | ⟨r, receive, receiver, current, stopped⟩
  · rw [nothing]
    exact stopped_goes runs use (.inr (.inl closed))
  · rw [stopped]
    have aside := aside_cancelReceive s receive
    refine Goes.after (stopped_goes ?_ use (.inr (.inl ?_)))
      (Change.stop closed handle receiver current).chain
    · exact (congrArg (·[id]?) (statuses_eq aside.tasks)).trans runs
    · exact (aside.isEndpointClosed fit.up).trans closed

private theorem startReceive_changes (runs : s.statuses[id]? = some (.running false))
    (free : s.Admits) {r : Receiver} (receiver : s.receiver = some r) :
    ∃ t r' receive, s.startReceive r = (t, receive) ∧ Changes s t ∧ t.Admits ∧
      t.statuses = s.statuses ∧ t.receiver = some r' ∧ r'.state = .receiving receive := by
  cases state : r.state with
  | receiving receive =>
    exact ⟨s, r, receive, by simp only [startReceive, state], .refl, free, rfl, receiver, state⟩
  | idle spare =>
    obtain ⟨buffer, buffers, given, provided⟩ : ∃ buffer buffers,
        s.receiveBuffer r = ({ s with buffers := buffers }, buffer) ∧
          s.Provides r.bufferSize spare buffer buffers := by
      rw [receiveBuffer, state]
      cases spare with
      | some buffer => exact ⟨buffer, s.buffers, rfl, .spare buffer⟩
      | none => exact ⟨_, _, rfl, .new⟩
    have started : Change none s _ := .receive runs free receiver state provided
    refine ⟨_, { r with state := .receiving s.receives.length }, s.receives.length, ?_,
      started.chain, ⟨free.handle, free.endpoint, ?_⟩, rfl, ?_, rfl⟩
    · simp only [startReceive, state, given]
    · have nobody := free.nobody
      rw [receiver] at nobody
      simpa only [queue, setReceiver, receiver, Option.map_some, Option.any_some] using nobody
    · simp only [queue, setReceiver, receiver, Option.map_some]

private theorem joinReceive_goes (fit : s.Fit) (runs : s.statuses[id]? = some (.running false))
    (free : s.Admits) (pull : Pull) : Goes s id (s.joinReceive id pull) := by
  obtain ⟨r, receiver⟩ := fit.receiver
  obtain ⟨t, r', receive, started, changes, admits, still, receiver', current⟩ :=
    startReceive_changes runs free receiver
  simp only [joinReceive, receiver, started]
  exact changes.tail (.join pull (still ▸ runs) admits receiver' current)

private theorem pullAgain_goes (fit : s.Fit) (runs : s.statuses[id]? = some (.running false))
    (pull : Pull) : Goes s id (s.pullAgain id pull) := by
  rw [pullAgain]
  rcases s.refusePull_cases pull with
    ⟨socket, closed, refused⟩ | ⟨handle, closed, refused⟩ | refused | ⟨free, admitted⟩
  · rw [refused]
    exact stopped_goes runs pull.use (.inl ⟨socket, closed⟩)
  · rw [refused]
    exact cancelReceiver_goes fit runs pull.use handle closed
  · rw [refused]
    exact goes_plain runs rfl
  · rw [admitted]
    exact joinReceive_goes fit runs free pull

private theorem isPlain_take {use : ItemUse} {item : Item} {outcome : Outcome}
    (taken : use.take item = .inl outcome) : outcome.isPlain = true := by
  cases use with
  | item =>
    cases taken
    rfl
  | packet =>
    cases taken
    cases item <;> rfl
  | items collected most =>
    rw [ItemUse.take] at taken
    split at taken
    · cases taken
      rfl
    · cases taken

private theorem useItem_goes (fit : s.Fit) (runs : s.statuses[id]? = some (.running false))
    (patience : Nat) (use : ItemUse) (item : Item) :
    Goes s id (s.useItem id patience use item) := by
  rw [useItem]
  cases taken : use.take item with
  | inl outcome => exact goes_plain runs (isPlain_take taken)
  | inr more => exact pullAgain_goes fit runs ⟨.stream more, patience⟩

private theorem calm_ofDatagram (fit : s.Fit) (capacity : Value) (reject : Bool)
    (datagram : Datagram) : Calm (Item.ofDatagram s.codec capacity reject datagram) := by
  unfold Item.ofDatagram
  split
  · exact .ok _
  · unfold Item.decode
    split
    · exact .ok _
    · exact .ok _
    · next fault other failed => exact .error (fit.codec.decode datagram.data fault failed)

private theorem useDatagram_goes (fit : s.Fit) (runs : s.statuses[id]? = some (.running false))
    (pull : Pull) (r : Receiver) (datagram : Datagram) :
    Goes s id (s.useDatagram id pull r datagram) := by
  obtain ⟨use, patience⟩ := pull
  cases use with
  | datagram => exact goes_plain runs rfl
  | stream use =>
    obtain ⟨e, up⟩ := fit.up
    have warned := Inert.record up rfl s.handed (s.warnings ++
      (CutWarning.ofDatagram? r.limit s.settings.rejectTruncated.truth datagram).toList)
    have fit' := warned.fit fit
    refine Goes.after ?_ warned.chain
    simp only [useDatagram]
    have calm := calm_ofDatagram fit r.capacity s.settings.rejectTruncated.truth datagram
    split
    · next item found => exact useItem_goes fit' runs patience use item
    · next fault found => exact goes_plain runs (Outcome.isPlain_fault (calm fault found))

private theorem useFailure_goes (fit : s.Fit) (runs : s.statuses[id]? = some (.running false))
    (pull : Pull) (error : OsError) : Goes s id (s.useFailure id pull error) := by
  obtain ⟨use, patience⟩ := pull
  cases use with
  | datagram => exact goes_plain runs rfl
  | stream use => exact useItem_goes fit runs patience use _

/-- Taking what an operation has brought makes the receiver idle; when it has brought nothing,
the pull is over. -/
theorem collect_cases {r : Receiver} (receiver : s.receiver = some r) (id : TaskId) (pull : Pull)
    (found : Receive) :
    (found.hasBrought = true ∧
      ((∃ datagram, s.collect id pull found =
        (s.setReceiver fun r => { r with state := .idle found.spare? }).useDatagram id pull r
          datagram) ∨
      ∃ error, s.collect id pull found =
        (s.setReceiver fun r => { r with state := .idle found.spare? }).useFailure id pull
          error)) ∨
    found.hasBrought = false ∧
      s.collect id pull found = (s, .finished (s.pullCancelled id pull)) := by
  obtain ⟨buffer, status, watchers⟩ := found
  cases status with
  | finished outcome =>
    cases outcome with
    | arrived count peer =>
      exact .inl ⟨rfl, .inl ⟨_, by simp only [collect, receiver]; rfl⟩⟩
    | failed error => exact .inl ⟨rfl, .inr ⟨error, by simp only [collect, receiver]; rfl⟩⟩
    | cancelled => exact .inr ⟨rfl, by simp only [collect, receiver]; rfl⟩
  | _ => exact .inr ⟨rfl, by simp only [collect, receiver]; rfl⟩

/-- What an operation has brought is used. -/
theorem collected_goes (fit : s.Fit) (runs : s.statuses[id]? = some (.running false)) {r : Receiver}
    {pull : Pull} {spare : Option BufferId} {p : Session × Progress}
    (used : (∃ datagram, p =
        (s.setReceiver fun r => { r with state := .idle spare }).useDatagram id pull r datagram) ∨
      ∃ error, p =
        (s.setReceiver fun r => { r with state := .idle spare }).useFailure id pull error) :
    Goes (s.setReceiver fun r => { r with state := .idle spare }) id p := by
  have fit' := fit.setReceiver fun r => { r with state := .idle spare }
  rcases used with ⟨datagram, rfl⟩ | ⟨error, rfl⟩
  · exact useDatagram_goes fit' runs pull r datagram
  · exact useFailure_goes fit' runs pull error

private theorem uncollected?_cases (s : Session) :
    s.uncollected? = none ∨ ∃ r receive found, s.receiver = some r ∧ r.state = .receiving receive ∧
      s.receives[receive]? = some found ∧ found.isFinished = true ∧
      s.uncollected? = some found := by
  rw [uncollected?]
  cases receiver : s.receiver with
  | none => exact .inl rfl
  | some r =>
    cases state : r.state with
    | idle spare => exact .inl (by simp only [Option.map_some, state])
    | receiving receive =>
      simp only [Option.map_some, state, receive?]
      cases there : s.receives[receive]? with
      | none => exact .inl rfl
      | some found =>
        cases finished : found.isFinished with
        | false => exact .inl (by simp [finished])
        | true => exact .inr ⟨r, receive, found, rfl, state, there, finished, by simp [finished]⟩

private theorem pull_goes (fit : s.Fit) (runs : s.statuses[id]? = some (.running false))
    (pull : Pull) : Goes s id (s.pull id pull) := by
  rw [Session.pull]
  rcases s.refusePull_cases pull with
    ⟨socket, closed, refused⟩ | ⟨handle, closed, refused⟩ | refused | ⟨free, admitted⟩
  · rw [refused]
    exact stopped_goes runs pull.use (.inl ⟨socket, closed⟩)
  · rw [refused]
    exact cancelReceiver_goes fit runs pull.use handle closed
  · rw [refused]
    exact goes_plain runs rfl
  · rw [admitted]
    rcases s.uncollected?_cases with
      nothing | ⟨r, receive, found, receiver, current, there, finished, left⟩
    · simp only [nothing]
      exact joinReceive_goes fit runs free pull
    · simp only [left]
      rcases collect_cases receiver id pull found with ⟨brought, used⟩ | ⟨nothing, lost⟩
      · exact Goes.after (collected_goes fit runs used)
          (Change.collect runs free receiver current there brought).chain
      · have cancelled : found.isCancelled = true := by
          simpa [Receive.hasBrought, finished] using nothing
        rw [lost]
        unfold pullCancelled
        split
        · exact stopped_goes runs pull.use (.inr (.inr ⟨receive, found, there, cancelled⟩))
        · exact goes_plain runs rfl

/-- A task goes on after it waited in a pull. -/
theorem resumePull_course (fit : s.Fit) (took : Takes given s (.resume id) t)
    {receive : ReceiveId} {pull : Pull} {wake : Wake}
    (woken : s.statuses[id]? = some (.woken (.pulling receive pull) wake)) :
    let p := (t.setStatus id (.running false)).resumePull id receive pull wake
    Course given s (p.1.settle id p.2) := by
  intro p
  have left : Change given s (t.relieve id) := .leave took woken
  have fit' := left.fit fit
  have inside := (List.getElem?_eq_some_iff.mp woken).1
  have runs : (t.relieve id).statuses[id]? = some (.running false) := by
    cases took
    exact (congrArg (·[id]?) (statuses_setStatus _ id _)).trans (List.getElem?_set_self inside)
  have requests : (t.relieve id).cancelRequests = s.cancelRequests := by
    cases took
    exact cancelRequests_setStatus _ id _
  have receives : (t.relieve id).receives = s.receives := by
    cases took
    rfl
  rcases (t.setStatus id (.running false)).resumePull_cases id receive pull wake with
    given | ⟨patience, again⟩ | ⟨found, there, undisturbed, goes⟩
  · rw [show p = _ from given]
    exact (goes_plain runs rfl).course left
  · rw [show p = _ from again]
    exact (pull_goes fit' runs _).course left
  · have due : wake = .due := by
      cases wake with
      | due => rfl
      | _ => cases undisturbed
    subst due
    have there : s.receives[receive]? = some found := receives ▸ there
    obtain ⟨r, receiver⟩ := fit'.receiver
    rcases collect_cases receiver id pull found with ⟨brought, used⟩ | ⟨nothing, lost⟩
    · rw [show p = (t.relieve id).collect id pull found from goes]
      exact (collected_goes fit' runs used).course (.gain took woken there brought)
    · have same : (t.relieve id).pullCancelled id pull = s.pullCancelled id pull := by
        rw [pullCancelled, pullCancelled, requests]
      rw [show p = _ from goes.trans lost, same, settle_finished runs]
      exact (Change.lose took woken there nothing).course

end Pulling

section Performing

private theorem handle_of_name {name : Text} {handle : HandleId}
    (found : s.handleId? name = some handle) : handle < s.handles.length := by
  obtain ⟨⟨h, i⟩, there, rfl⟩ := Option.map_eq_some_iff.mp found
  have member := List.mem_of_find?_eq_some there
  rw [List.mem_reverse] at member
  exact List.snd_lt_of_mem_zipIdx member

/-- Whatever is done with a handle that is looked up by name. -/
theorem withHandle_goes (runs : s.statuses[id]? = some (.running false)) (name : Text)
    {use : HandleId → Session × Progress}
    (used : ∀ handle, handle < s.handles.length → Goes s id (use handle)) :
    Goes s id (s.withHandle name use) := by
  rw [withHandle]
  cases found : s.handleId? name with
  | none => exact goes_plain runs rfl
  | some handle => exact used handle (handle_of_name found)

/-- A task that only asks the endpoint. -/
theorem answered_goes {α : Type} (fit : s.Fit) (runs : s.statuses[id]? = some (.running false))
    {step : Endpoint.Op α} (keeps : Keeps Endpoint.Alike step) {result : α → Result}
    (plain : ∀ a, (Outcome.value (result a)).isPlain = true) :
    Goes s id (answered result (s.onEndpoint step)) := by
  obtain ⟨e, up⟩ := fit.up
  obtain ⟨e', answer, asked, same, calm⟩ := onEndpoint_inert up keeps
  have still : (s.onto e').statuses[id]? = some (.running false) := runs
  rw [asked]
  exact Goes.after (goes_plain still (Outcome.isPlain_ofAnswer calm plain)) same.chain

private theorem onHandle_goes {α : Type} (fit : s.Fit)
    (runs : s.statuses[id]? = some (.running false))
    (handle : HandleId) (closed : TransportFault) (wrap : OsError → TransportFault)
    {step : Endpoint.Op α} (keeps : Keeps Endpoint.Alike step) {result : α → Result}
    (plain : ∀ a, (Outcome.value (result a)).isPlain = true) :
    Goes s id (s.onHandle handle closed wrap result step) := by
  obtain ⟨e, up⟩ := fit.up
  obtain ⟨e', answer, asked, same, calm⟩ := onEndpoint_inert up keeps
  have still : (s.onto e').statuses[id]? = some (.running false) := runs
  rw [onHandle]
  split
  · exact goes_plain runs rfl
  · rw [asked]
    exact Goes.after (goes_plain still (Outcome.isPlain_ofAnswer (calm.wrapOs wrap) plain))
      same.chain

private theorem cloneHandle_goes (runs : s.statuses[id]? = some (.running false))
    {handle : HandleId} (there : handle < s.handles.length) (name : Text) {result : Result}
    (plain : (Outcome.value result).isPlain = true) :
    Goes s id (s.cloneHandle handle name result) := by
  rw [cloneHandle]
  split
  · exact goes_plain runs rfl
  · next closed =>
    have isOpen : s.isHandleClosed handle = false := by simpa using closed
    by_cases counted : s.references.getD 0 = 0
    · exact (Change.overdrawn there isOpen counted).chain
    · have acquired : s.acquire =
          ({ s with references := some (s.references.getD 0 + 1) }, .ok ()) := by
        simp only [acquire, References.acquire, if_neg counted]
      rw [acquired]
      exact Goes.after (goes_plain runs plain) (Change.clone there isOpen counted name).chain

theorem perform_goes (fit : s.Fit) (runs : s.statuses[id]? = some (.running false))
    {action : Action} (call : action.isCall s.layer = true) :
    Goes s id (s.perform id action) := by
  obtain ⟨e, up⟩ := fit.up
  cases action with
  | feed arrival =>
    obtain ⟨fed, tasks⟩ := feed_changes fit arrival
    exact Goes.after (goes_plain (statuses_eq tasks ▸ runs) rfl) fed
  | script script =>
    cases script with
    | ok script =>
      have same : Inert s (s.follow script) := by
        unfold follow mapNetwork
        rw [up]
        exact ⟨rfl, rfl, rfl, rfl, rfl, rfl, rfl, rfl, rfl, rfl, rfl, e, _, up, rfl,
          rfl, rfl, rfl, rfl, rfl, rfl⟩
      exact Goes.after (goes_plain (same.statuses ▸ runs) rfl) same.chain
    | error fault => exact goes_plain runs call
  | cancel name =>
    rw [perform]
    cases s.taskId? name with
    | none => exact goes_plain runs rfl
    | some target =>
      obtain ⟨changes, cancelled, still⟩ := cancelTask_changes fit target runs
      exact Goes.after (goes_plain still rfl) changes
  | closeEndpoint =>
    have other : s.layer ≠ .socket := by simpa [Action.isCall] using call
    exact Goes.after (goes_plain (statuses_eq s.tasks_closeEndpoint ▸ runs) rfl)
      (Change.shut other).chain
  | writable =>
    rw [perform, reportWritable, up]
    dsimp only
    split
    · next watched => exact Goes.after (goes_plain runs rfl) (Change.writable up watched).chain
    · exact goes_plain runs rfl
  | acquire => cases call
  | release => cases call
  | next patience => exact pull_goes fit runs _
  | iterate most patience => exact pull_goes fit runs _
  | recv patience => exact pull_goes fit runs _
  | cancelReceive =>
    have other : s.layer ≠ .socket := by simpa [Action.isCall] using call
    rw [perform]
    rcases s.cancelReceiver_cases with ⟨nothing, -⟩ | ⟨r, receive, receiver, current, stopped⟩
    · rw [nothing]
      exact goes_plain runs rfl
    · have still : ((s.cancelReceive receive).setReceiver
          fun r => { r with state := .idle none }).statuses[id]? = some (.running false) :=
        (congrArg (·[id]?) (statuses_eq (aside_cancelReceive s receive).tasks)).trans runs
      rw [stopped]
      unfold Goes
      rw [settle_finished still]
      exact (Change.halt runs other receiver current).chain
  | connect address =>
    rw [perform]
    split
    · exact onHandle_goes fit runs _ _ _ (Endpoint.keeps_connect address) fun _ => rfl
    · exact answered_goes fit runs (Endpoint.keeps_connect address) fun _ => rfl
  | write data address => exact startWrite_goes fit runs data address trivial
  | send handle parcel =>
    refine withHandle_goes runs handle fun h there => ?_
    cases parcel with
    | ok parcel => exact send_goes fit runs h parcel trivial
    | error fault => exact goes_plain runs call
  | sendWithin handle parcel =>
    refine withHandle_goes runs handle fun h there => ?_
    cases parcel with
    | ok parcel => exact send_goes fit runs h parcel there
    | error fault => exact closeHandle_goes runs there call
  | receive size => cases call
  | sender name =>
    have socket : s.layer = .socket := by simpa [Action.isCall] using call
    exact cloneHandle_goes runs (fit.socket socket) name rfl
  | clone handle name =>
    refine withHandle_goes runs handle fun h there => ?_
    split
    · exact goes_plain runs rfl
    · exact cloneHandle_goes runs there name rfl
  | close handle =>
    exact withHandle_goes runs handle fun h there => closeHandle_goes runs there rfl
  | localAddress handle =>
    rw [perform]
    split
    · exact withHandle_goes runs handle fun h there =>
        onHandle_goes fit runs _ _ _ Endpoint.keeps_localAddress fun _ => rfl
    · exact answered_goes fit runs Endpoint.keeps_localAddress fun _ => rfl
  | peerAddress =>
    rw [perform]
    split
    · exact onHandle_goes fit runs _ _ _ Endpoint.keeps_peerAddress fun _ => rfl
    · exact answered_goes fit runs Endpoint.keeps_peerAddress fun _ => rfl
  | socketType =>
    refine goes_plain runs ?_
    unfold socketType
    split
    · rfl
    · split <;> rfl
  | settings => exact goes_plain runs rfl
  | shown =>
    refine goes_plain runs ?_
    unfold shown
    split <;> rfl
  | opening how => cases call
  | refuse fault => exact goes_plain runs call

end Performing

section Steps

theorem begin_goes (fit : s.Fit) (runs : s.statuses[id]? = some (.running false))
    {action : Action} (call : action.isCall s.layer = true) :
    Goes s id (s.begin id action) := by
  obtain ⟨e, up⟩ := fit.up
  rw [begin_up up]
  exact perform_goes fit runs call

/-- A handle may be given back before the turn for it is taken. -/
theorem releaseHandle_before {place : Nat} {turn : Turn} (fit : s.Fit) {handle : HandleId}
    (isOpen : s.isHandleClosed handle = false) (counted : s.references.getD 0 ≠ 0)
    (found : s.ready[place]? = some turn) (id : TaskId) (status : TaskStatus) :
    let first := (s.releaseHandle handle).1
    ({ s with ready := s.ready.eraseIdx place }.setStatus id status).releaseHandle handle =
        ({ first with ready := first.ready.eraseIdx place }.setStatus id status, .ok ()) ∧
      first.ready[place]? = some turn := by
  intro first
  obtain ⟨e, up⟩ := fit.up
  have inside := (List.getElem?_eq_some_iff.mp found).1
  let after := { s with ready := s.ready.eraseIdx place }.setStatus id status
  have first' : first = _ := congrArg Prod.fst (releaseHandle_open isOpen counted)
  have after' : after.releaseHandle handle = _ := releaseHandle_open (s := after) isOpen counted
  rw [first', after']
  change (if s.references.getD 0 = 1 then _ else _, _) = _ ∧ _
  by_cases last : s.references.getD 0 = 1
  · have up' : (s.marked handle 0).link = .up e := up
    have up'' : (after.marked handle 0).link = .up e := up
    rw [if_pos last, if_pos last, closeEndpoint_up up', closeEndpoint_up up'']
    constructor
    · have erased := List.eraseIdx_append_of_lt_length inside (e.close.2.map Turn.signal)
      have ready : (((s.marked handle 0).onto e.close.1).signalAll e.close.2).ready.eraseIdx
          place = s.ready.eraseIdx place ++ e.close.2.map Turn.signal := erased
      rw [ready]
      rfl
    · exact (List.getElem?_append_left inside).trans found
  · rw [if_neg last, if_neg last]
    exact ⟨rfl, found⟩

/-- A task goes on after it waited to close the socket. It gives back the reference while it
still stands as one that waited. -/
theorem resumeClose_course (fit : s.Fit) (took : Takes given s (.resume id) t)
    {receive : ReceiveId} {cancelled : Bool} {outcome : Outcome} {wake : Wake}
    (woken : s.statuses[id]? = some (.woken (.closing receive cancelled outcome) wake)) :
    let p := (t.setStatus id (.running false)).resumeClose cancelled outcome wake
    Course given s (p.1.settle id p.2) := by
  intro p
  obtain ⟨there, plain⟩ := fit.woken woken
  have going : Change given s (t.setStatus id (.running false)) := .goOn took woken (by simp)
  have inside := (List.getElem?_eq_some_iff.mp woken).1
  have runs : (t.setStatus id (.running false)).statuses[id]? = some (.running false) := by
    cases took
    exact (congrArg (·[id]?) (statuses_setStatus _ id _)).trans (List.getElem?_set_self inside)
  have goesOn : p = if cancelled || wake.isCancelled then
      (t.setStatus id (.running false), .finished .cancelled)
    else concludeClose outcome ((t.setStatus id (.running false)).releaseHandle socketHandle) := rfl
  rw [goesOn]
  split
  · exact (goes_plain runs rfl).course going
  · next undisturbed =>
    obtain ⟨rfl, due⟩ : cancelled = false ∧ wake = .due := by
      cases cancelled <;> cases wake <;> first | exact ⟨rfl, rfl⟩ | exact absurd rfl undisturbed
    subst due
    cases isOpen : s.isHandleClosed socketHandle with
    | true =>
      have still : (t.setStatus id (.running false)).isHandleClosed socketHandle = true := by
        cases took
        exact isOpen
      rw [releaseHandle, still]
      exact (goes_plain runs plain).course going
    | false =>
      have counted : s.references.getD 0 ≠ 0 := fit.not_overdrawn there isOpen
      have released : Change none s (s.releaseHandle socketHandle).1 :=
        .release there isOpen counted fun _ => .inr ⟨id, receive, outcome, woken⟩
      have waited : (s.releaseHandle socketHandle).1.statuses[id]? =
          some (.woken (.closing receive false outcome) .due) := by
        rw [statuses_eq (s.tasks_releaseHandle socketHandle), woken]
      cases took with
      | intro found =>
        obtain ⟨same, first⟩ :=
          releaseHandle_before fit isOpen counted found id (.running false)
        have later : Change (some (.resume id)) (s.releaseHandle socketHandle).1 _ :=
          .goOn (.intro first) waited (by simp)
        rw [same]
        refine ⟨_, _, released.chain, .single later, ?_⟩
        have now := List.getElem?_set_self (a := .running false)
          (List.getElem?_eq_some_iff.mp waited).1
        exact goes_plain ((congrArg (·[id]?) (statuses_setStatus _ id _)).trans now) plain

/-- The turn of a task. -/
theorem resume_course (fit : s.Fit) (took : Takes given s (.resume id) t) :
    Course given s (t.resume id) := by
  have tasks : t.tasks = s.tasks := by
    cases took
    rfl
  have layer : t.layer = s.layer := by
    cases took
    rfl
  have handles : t.handles = s.handles := by
    cases took
    rfl
  have idle (stale : ∀ status, s.statuses[id]? = some status → status.isAwake = false) :
      Course given s t := (Change.spend took stale).course
  rw [resume_eq, statuses_eq tasks]
  cases at' : s.statuses[id]? with
  | none => exact idle (by simp [at'])
  | some status =>
    have inside := (List.getElem?_eq_some_iff.mp at').1
    have runs : (t.setStatus id (.running false)).statuses[id]? = some (.running false) := by
      rw [statuses_setStatus, statuses_eq tasks, List.getElem?_set_self inside]
    have stale (asleep : status.isAwake = false) : Course given s t := by
      refine idle fun status' found => ?_
      cases at'.symm.trans found
      exact asleep
    cases status with
    | queued action cancelled =>
      cases cancelled with
      | true => exact (Change.drop took at').course
      | false =>
        have started := Change.start took at'
        have call : action.isCall t.layer = true := layer ▸ fit.queued at'
        exact (begin_goes (started.fit fit) runs call).course started
    | running cancelled => exact stale rfl
    | blocked wait => exact stale rfl
    | finished outcome => exact stale rfl
    | woken wait wake =>
      cases wait with
      | pulling receive pull => exact resumePull_course fit took at'
      | writing w =>
        have going := Change.goOn took at' (by simp)
        have fits : w.use.Fits t.handles.length := handles ▸ fit.woken at'
        exact (resumeWrite_goes (going.fit fit) runs fits wake).course going
      | closing receive cancelled outcome => exact resumeClose_course fit took at'
      | taking buffer => exact (fit.woken at').elim

theorem signal_course (took : Takes given s (.signal id) t) : Course given s (t.signal id) := by
  have tasks : t.tasks = s.tasks := by
    cases took
    rfl
  have known : (s.tasks[id]?).map Task.status = s.statuses[id]? := List.getElem?_map.symm
  have idle (deaf : ∀ wait, s.statuses[id]? ≠ some (.blocked wait)) : Course given s t :=
    (Change.spend took deaf).course
  rw [Session.signal, task?, tasks, known]
  cases at' : s.statuses[id]? with
  | none => exact idle (by simp [at'])
  | some status =>
    cases status with
    | blocked wait => exact (Change.tell took at').course
    | _ => exact idle (by simp [at'])

/-- Whoever is given a turn. -/
theorem turnAt_course (fit : s.Fit) (place : Nat) :
    Course s.ready[place]? s (s.turnAt place) := by
  rw [Session.turnAt]
  cases found : s.ready[place]? with
  | none => exact ⟨s, s, .refl, .refl, .refl⟩
  | some turn =>
    have took := Takes.intro found
    cases turn with
    | resume id => exact resume_course fit took
    | signal id => exact signal_course took
    | receive id =>
      have spent : Change (some (.receive id)) s _ := .spend took trivial
      exact ⟨s, _, .refl, .single spent, turnReceive_changes (spent.fit fit) id⟩

/-- Only calls of a layer are started. -/
def Calls (layer : Layer) (choices : List Choice) : Prop :=
  ∀ action ∈ actions choices, action.isCall layer = true

instance (layer : Layer) (choices : List Choice) : Decidable (Calls layer choices) :=
  inferInstanceAs (Decidable (∀ action ∈ actions choices, action.isCall layer = true))

theorem calls_append {layer : Layer} {before later : List Choice} :
    Calls layer (before ++ later) ↔ Calls layer before ∧ Calls layer later := by
  simp only [Calls, actions, List.filterMap_append, List.mem_append, or_imp, forall_and]

theorem calls_turn (layer : Layer) (place : Nat) : Calls layer [.turn place] :=
  fun action member => by cases member

theorem Calls.head {layer : Layer} {choice : Choice} {rest : List Choice}
    (calls : Calls layer (choice :: rest)) : Calls layer [choice] ∧ Calls layer rest := by
  have all : Calls layer ([choice] ++ rest) := calls
  exact calls_append.mp all

theorem Changes.keep {P : Session → Prop}
    (kept : ∀ s t, Change none s t → s.Fit → P s → P t) (changes : Changes s t)
    (fit : s.Fit) (h : P s) : P t := by
  induction changes with
  | refl => exact h
  | tail before change ih => exact kept _ _ change (Changes.fit before fit) ih

namespace Course

variable {P : Session → Prop}

/-- What is kept before, at and after the change that takes the turn is kept by the turn. -/
theorem keep (course : Course given s t) (fit : s.Fit)
    (kept : ∀ given' s t, given' = none ∨ given' = given → Change given' s t → s.Fit → P s → P t)
    (h : P s) : t.Fit ∧ P t := by
  obtain ⟨u, v, before, taken, after⟩ := course
  have h := before.keep (kept none · · (.inl rfl)) fit h
  have fit := before.fit fit
  cases taken with
  | refl => exact ⟨after.fit fit, after.keep (kept none · · (.inl rfl)) fit h⟩
  | single change =>
    have fit' := change.fit fit
    have h := kept given u v (.inr rfl) change fit h
    exact ⟨after.fit fit', after.keep (kept none · · (.inl rfl)) fit' h⟩

theorem layer (course : Course given s t) (fit : s.Fit) : t.layer = s.layer :=
  (course.keep fit (fun _ _ _ _ change fit same => (change.layer fit).trans same) rfl).2

end Course

/-- The turn that is given, if one is. -/
def given? (s : Session) : Choice → Option Turn
  | .spawn .. => none
  | .turn place => s.ready[place]?

theorem choose_course (fit : s.Fit) {choice : Choice} (calls : Calls s.layer [choice]) :
    Course (s.given? choice) s (s.choose choice) := by
  cases choice with
  | spawn name action =>
    have spawned : Change none s (s.spawn name action) :=
      .spawn name (calls action (by simp [actions]))
    exact spawned.course
  | turn place => exact turnAt_course fit place

/-- What every change keeps, a schedule keeps. -/
theorem schedule_keep {P : Session → Prop} {choices : List Choice}
    (kept : ∀ given s t, Change given s t → s.Fit → P s → P t)
    (fit : s.Fit) (calls : Calls s.layer choices) (h : P s) :
    (s.schedule choices).Fit ∧ P (s.schedule choices) := by
  induction choices generalizing s with
  | nil => exact ⟨fit, h⟩
  | cons choice rest ih =>
    obtain ⟨first, later⟩ := calls.head
    have course := choose_course fit first
    have same := course.layer fit
    obtain ⟨fit, h⟩ := course.keep fit (fun given s t _ => kept given s t) h
    exact ih fit (same ▸ later) h

theorem schedule_fit {choices : List Choice} (fit : s.Fit) (calls : Calls s.layer choices) :
    (s.schedule choices).Fit ∧ (s.schedule choices).layer = s.layer :=
  schedule_keep (P := fun t => t.layer = s.layer)
    (fun _ _ _ change fit same => (change.layer fit).trans same) fit calls rfl

theorem turnAt_fit (fit : s.Fit) (place : Nat) :
    (s.turnAt place).Fit ∧ (s.turnAt place).layer = s.layer :=
  (turnAt_course fit place).keep (P := fun t => t.layer = s.layer) fit
    (fun _ _ _ _ change fit same => (change.layer fit).trans same) rfl

/-- The turn of a task that has nothing to do. -/
theorem resume_asleep {status : TaskStatus} (found : s.statuses[id]? = some status)
    (asleep : status.isAwake = false) : s.resume id = s := by
  rw [resume_eq, found]
  cases status with
  | queued | woken => cases asleep
  | _ => rfl

theorem turnAt_asleep {place : Nat} (first : s.ready[place]? = some (.resume id))
    {status : TaskStatus} (found : s.statuses[id]? = some status)
    (asleep : status.isAwake = false) :
    s.turnAt place = { s with ready := s.ready.eraseIdx place } := by
  rw [turnAt_resume first]
  exact resume_asleep (s := { s with ready := s.ready.eraseIdx place }) found asleep

end Steps

/-- An endpoint that was not used before, on which something may have arrived. -/
structure IsFresh (e : Endpoint) : Prop where
  opened : e.closed = false
  latch : e.latch = none
  waiting : e.network.inbox.waiting = []
  closings : e.network.closings = 0

/-- A layer over an endpoint, before anything happens. -/
def fresh (layer : Layer) (codec : Codec) (settings : Settings) (e : Endpoint) (limit : Int) :
    Session where
  layer := layer
  codec := codec
  settings := settings
  link := .up e
  buffers := [Buffer.empty (limit + 1).toNat]
  handed := []
  receives := []
  receiver := some ⟨settings.maxDatagramSize, limit, .idle (some 0), false⟩
  references := if hasReferences layer then some 1 else none
  handles := if layer = .socket then [⟨socketName, false⟩] else []
  tasks := []
  ready := []
  finished := []
  warnings := []

theorem attach_bare {layer : Layer} (received : hasReceiver layer = true) (codec : Codec)
    (earlier : Except Fault Settings) (hosts : Hosts) (settings : Settings) (e : Endpoint) :
    (bare layer codec earlier hosts).attach settings e =
      (Receiver.limitOf e.network.memory settings.maxDatagramSize).map
        (fresh layer codec settings e) := by
  have layer' : (bare layer codec earlier hosts).layer = layer := rfl
  simp only [attach, layer', received, if_true, addReceiver, network]
  cases Receiver.limitOf e.network.memory settings.maxDatagramSize <;> rfl

/-- What a layer is when it was built over an endpoint. -/
theorem exists_fresh {layer : Layer} (received : hasReceiver layer = true) {codec : Codec}
    {earlier : Except Fault Settings} {hosts : Hosts} {settings : Settings} {start : Session}
    (built : (bare layer codec earlier hosts).attach settings e = .ok start) :
    ∃ limit, Receiver.limitOf e.network.memory settings.maxDatagramSize = .ok limit ∧
      start = fresh layer codec settings e limit := by
  rw [attach_bare received] at built
  cases limited : Receiver.limitOf e.network.memory settings.maxDatagramSize with
  | error fault =>
    rw [limited] at built
    cases built
  | ok limit =>
    rw [limited] at built
    exact ⟨limit, rfl, (Except.ok.inj built).symm⟩

theorem Fit.start {layer : Layer} {codec : Codec} {settings : Settings} {limit : Int}
    (calm : codec.IsCalm) (waiting : e.network.inbox.waiting = []) :
    (fresh layer codec settings e limit).Fit := by
  constructor
  case up => exact ⟨e, rfl⟩
  case receiver => exact ⟨_, rfl⟩
  case codec => exact calm
  case socket =>
    intro socket
    cases socket
    exact Nat.one_pos
  case bare => exact fun other => if_neg other
  case count =>
    intro socket
    cases socket
    rfl
  case statuses =>
    intro status member
    cases member
  case waits =>
    have nobody : (fresh layer codec settings e limit).network.inbox.waiting = [] := waiting
    rw [nobody]
    exact ⟨List.nodup_nil, by simp⟩

end Session

end Osc
