import Osc.Proofs.Single
import Osc.Proofs.Telling

/-!
The one who waits. A receiver is said to be waited on exactly while one task is inside a pull.
Another that pulls in the meantime is refused, which changes nothing else; and the one inside the
pull, if it was never asked to stop, ends with what its operation has come to.
-/

namespace Osc

/-- What a task inside a pull ends with that was not asked to stop. -/
def ReceiveOutcome.result (limit : Int) (buffer : Buffer) : ReceiveOutcome → Outcome
  | .cancelled => .value (.datagram none)
  | outcome => outcome.delivery limit buffer

namespace Session

variable {given : Option Turn} {s t : Session} {id : TaskId}

/-- A task is suspended inside a pull. -/
def IsInside (s : Session) (id : TaskId) : Prop := ∃ receive, s.Pulls id receive

section Flag

/-- Whoever is inside a pull stays there, or the receiver is not waited on any more. -/
theorem Passes.inside (passes : Passes given s t) {receive : ReceiveId}
    (pulls : s.Pulls id receive) :
    t.Pulls id receive ∨ t.receiver.any Receiver.waiting = false := by
  obtain ⟨old, before, pulled⟩ := pulls
  obtain ⟨new, now, passage⟩ := passes.passage before
  cases passage with
  | same => exact .inl ⟨_, now, pulled⟩
  | wakes wait unclosing => exact .inl ⟨_, now, pulled⟩
  | marks wait wake => exact .inl ⟨_, now, pulled⟩
  | tells signal told wait => exact .inl ⟨_, now, pulled⟩
  | resumes turn awake left =>
    exact .inr (left.resolve_left fun none => by cases none.symm.trans pulled)
  | ends turn awake left =>
    exact .inr (left.resolve_left fun none => by cases none.symm.trans pulled)
  | _ => cases pulled

/-- A receiver that is waited on was so before, or a task has just begun to wait. -/
theorem Change.waiting (change : Change given s t) (fit : s.Fit)
    (waits : t.receiver.any Receiver.waiting = true) :
    s.receiver.any Receiver.waiting = true ∨ ∃ id, t.IsInside id := by
  obtain ⟨e, up⟩ := fit.up
  have steady (same : t.receiver = s.receiver) : s.receiver.any Receiver.waiting = true :=
    same ▸ waits
  cases change with
  | inert same => exact .inl (steady same.receiver)
  | spend took stale => cases took; exact .inl waits
  | tell took blocked => cases took; exact .inl waits
  | drop took queued => cases took; exact .inl waits
  | start took queued => cases took; exact .inl waits
  | goOn took woken other => cases took; exact .inl waits
  | @leave v id receive pull wake took woken => cases (v.any_relieve id).symm.trans waits
  | @gain v id receive pull found took woken there brought =>
    rw [any_setState, any_relieve] at waits
    cases waits
  | @lose v id receive pull found took woken there brought =>
    cases (v.any_relieve id).symm.trans waits
  | collect runs free receiver current there brought =>
    rw [any_setState] at waits
    exact .inl waits
  | receive runs free receiver idle provided =>
    exact .inl ((s.any_setState _).symm.trans waits)
  | @join id r receive pull runs free receiver current =>
    let said := s.setReceiver fun r => { r with waiting := true }
    refine .inr ⟨id, receive, .blocked (.pulling receive pull), ?_, rfl⟩
    rw [statuses_setStatus, statuses_eq (aside_watch said receive id).tasks]
    exact List.getElem?_set_self (List.getElem?_eq_some_iff.mp runs).1
  | @stop r receive closed handle receiver current =>
    rw [any_cancelReceive] at waits
    exact .inl waits
  | @halt id r receive runs other receiver current =>
    exact .inl ((s.any_cancelReceive receive).symm.trans waits)
  | @close id r receive outcome runs plain there isOpen receiver current =>
    let stopped := (s.cancelReceive receive).setReceiver fun r => { r with state := .idle none }
    have watched := congrArg (·.any Receiver.waiting) (aside_watch stopped receive id).receiver
    exact .inl ((watched.trans (s.any_cancelReceive receive)).symm.trans waits)
  | release there isOpen counted settled =>
    exact .inl (steady (aside_releaseHandle fit isOpen counted).1)
  | overdrawn there isOpen counted => exact (fit.not_overdrawn there isOpen counted).elim
  | block runs fits =>
    rw [awaitWritable_up up] at waits
    exact .inl waits
  | shut other =>
    rw [closeEndpoint_up up] at waits
    exact .inl waits
  | @wait id found there looks =>
    have here : (s.setReceive id .waiting).link = .up e := up
    rw [setInbox_onto here] at waits
    exact .inl waits
  | urge blocked asked => exact .inl (steady (aside_cancelReceive s _).receiver)
  | _ => exact .inl waits

/-- A receiver is not said to be waited on in vain. -/
def IsMinded (s : Session) : Prop :=
  s.receiver.any Receiver.waiting = true → ∃ id, s.IsInside id

theorem Change.isMinded (change : Change given s t) (fit : s.Fit) (h : s.IsMinded) :
    t.IsMinded := by
  intro waits
  rcases change.waiting fit waits with before | begun
  · obtain ⟨id, receive, pulls⟩ := h before
    rcases (change.passes fit).inside pulls with still | left
    · exact ⟨id, receive, still⟩
    · cases left.symm.trans waits
  · exact begun

/-- A receiver is waited on exactly while one task is inside a pull. -/
theorem waiting_iff (single : s.Single) (minded : s.IsMinded) :
    s.receiver.any Receiver.waiting = true ↔ ∃! id, s.IsInside id := by
  constructor
  · intro waits
    obtain ⟨id, receive, pulls⟩ := minded waits
    refine ⟨id, ⟨receive, pulls⟩, ?_⟩
    rintro other ⟨receive', pulls'⟩
    exact single.alone other id receive' receive pulls' pulls
  · rintro ⟨id, ⟨receive, pulls⟩, -⟩
    exact single.inside id receive pulls

end Flag

section Turns

variable {place : Nat} {e : Endpoint} {r : Receiver}

/-- A task that pulls while another waits on the receiver is refused, and nothing else happens. -/
theorem turnAt_refused (layer : s.layer = .receiver) (up : s.link = .up e)
    (opened : e.closed = false) (waits : s.receiver.any Receiver.waiting = true)
    (first : s.ready[place]? = some (.resume id))
    {patience : Nat} (queued : s.statuses[id]? = some (.queued (.next patience) false)) :
    s.turnAt place = { s with ready := s.ready.eraseIdx place }.finish id
      (.fault (.runtime .alreadyReceiving)) := by
  let going := s.begun place id
  have waits : going.receiver.any Receiver.waiting = true := waits
  have refused (pull : Pull) :
      going.refusePull pull = (going, some (.fault (.runtime .alreadyReceiving))) := by
    have layer : going.layer = .receiver := layer
    have opened : going.isEndpointClosed = false := by
      simpa [isEndpointClosed, endpoint?, going, begun, setStatus, up] using opened
    simp [refusePull, layer, opened, waits]
  have ends : going.perform id (.next patience) =
      (going, .finished (.fault (.runtime .alreadyReceiving))) := by
    simp only [perform, pull, refused]
  exact turnAt_ends up first queued ends

private theorem collect_result (receiver : s.receiver = some r) (unasked : s.cancelRequests id = 0)
    {found : Receive} {outcome : ReceiveOutcome} (ended : found.outcome? = some outcome)
    (patience : Nat) :
    ∃ t, s.collect id ⟨.datagram, patience⟩ found =
        (t, .finished (outcome.result r.limit (s.buffer found.buffer))) ∧
      t.statuses = s.statuses := by
  cases outcome with
  | arrived count peer =>
    refine ⟨s.setReceiver fun r => { r with state := .idle (some found.buffer) }, ?_, rfl⟩
    simp only [collect, receiver, ended]
    rfl
  | failed error =>
    refine ⟨s.setReceiver fun r => { r with state := .idle none }, ?_, rfl⟩
    simp only [collect, receiver, ended]
    rfl
  | cancelled =>
    refine ⟨s, ?_, rfl⟩
    simp only [collect, receiver, ended, pullCancelled, unasked, if_true]
    rfl

/-- The last turn of a task inside a pull. -/
theorem turnAt_ended (first : s.ready[place]? = some (.resume id)) {receive : ReceiveId}
    {pull : Pull} {wake : Wake}
    (woken : s.statuses[id]? = some (.woken (.pulling receive pull) wake)) {outcome : Outcome}
    (ends : (s.begun place id).resumePull id receive pull wake = (t, .finished outcome))
    (same : t.statuses = (s.begun place id).statuses) :
    (s.turnAt place).statuses[id]? = some (.finished outcome) := by
  have runs : t.statuses[id]? = some (.running false) := by
    rw [same]
    exact s.statuses_begun place (List.getElem?_eq_some_iff.mp woken).1
  rw [turnAt_woken first woken]
  change (((s.begun place id).resumePull id receive pull wake).1.settle id
    ((s.begun place id).resumePull id receive pull wake).2).statuses[id]? = _
  rw [ends]
  exact status_settle runs (.finished outcome)

private theorem cancelRequests_begun (s : Session) (place : Nat) (id : TaskId) :
    (s.begun place id).cancelRequests = s.cancelRequests :=
  cancelRequests_setStatus { s with ready := s.ready.eraseIdx place } id (.running false)

/-- A task that was told of the end of its operation ends with what that has come to, unless the
task was ever asked to stop. -/
theorem turnAt_told (receiver : s.receiver = some r) (first : s.ready[place]? = some (.resume id))
    {receive : ReceiveId} {patience : Nat}
    (woken : s.statuses[id]? = some (.woken (.pulling receive ⟨.datagram, patience⟩) .due))
    (unasked : s.cancelRequests id = 0) {found : Receive} {outcome : ReceiveOutcome}
    (there : s.receives[receive]? = some found) (ended : found.outcome? = some outcome) :
    (s.turnAt place).statuses[id]? =
      some (.finished (outcome.result r.limit (s.buffer found.buffer))) := by
  let going := s.begun place id
  let left := going.setReceiver fun r => { r with waiting := false }
  have requests : left.cancelRequests id = 0 :=
    (congrFun (s.cancelRequests_begun place id) id).trans unasked
  have calm : left.isInterrupted id found .due = false := by
    simp [isInterrupted, Wake.isCancelled, requests]
  have receiver : left.receiver = some { r with waiting := false } := by
    simp only [left, going, begun, setReceiver, setStatus, receiver, Option.map_some]
  obtain ⟨t, collected, same⟩ := collect_result receiver requests ended patience
  refine turnAt_ended (t := t) first woken ?_ same
  rw [resumePull_calm (s := going) ⟨.datagram, patience⟩ there calm, collected]
  rfl

end Turns

end Session

end Osc
