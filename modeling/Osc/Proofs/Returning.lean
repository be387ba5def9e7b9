import Osc.Proofs.Passages

/-!
Calls of close that return. A call of close for the socket asks its operation to stop, waits for the
end of that, and then gives back the handle; it returns with the handle closed, and it is cancelled
otherwise. A closed handle stays closed, so that the socket is closed once a call has returned.
-/

namespace Osc

namespace Session

variable {s : Session} {id : TaskId}

/-- How far a call of close is with the socket, once it has begun. -/
inductive Closes (closed : Bool) : TaskStatus → Prop where
  | waits (receive : ReceiveId) (cancelled : Bool) :
      Closes closed (.blocked (.closing receive cancelled (.value .nothing)))
  | woken (receive : ReceiveId) (cancelled : Bool) (wake : Wake) :
      Closes closed (.woken (.closing receive cancelled (.value .nothing)) wake)
  | returned (shut : closed = true) : Closes closed (.finished (.value .nothing))
  | cancelled : Closes closed (.finished .cancelled)

namespace Closes

variable {closed : Bool} {status : TaskStatus}

theorem mono (h : Closes closed status) {after : Bool} (stays : closed = true → after = true) :
    Closes after status := by
  cases h with
  | waits receive cancelled => exact .waits receive cancelled
  | woken receive cancelled wake => exact .woken receive cancelled wake
  | returned shut => exact .returned (stays shut)
  | cancelled => exact .cancelled

theorem rests (h : Closes closed status) : status.isRunning = false := by
  cases h <;> rfl

theorem nudged (h : Closes closed status) {new : TaskStatus} (nudge : Nudge status new) :
    Closes closed new := by
  cases nudge with
  | same => exact h
  | dooms action cancelled => cases h
  | wakes wait unclosing =>
    cases h with
    | waits receive cancelled => cases unclosing
  | marks wait wake =>
    cases h with
    | woken receive cancelled wake => exact .woken receive cancelled wake.cancel
  | urges receive cancelled outcome =>
    cases h with
    | waits receive cancelled => exact .waits receive true
  | tells wait =>
    cases h with
    | waits receive cancelled => exact .woken receive cancelled .due

end Closes

/-- To give back the handle of a socket closes it. -/
private theorem releaseHandle_shuts (fit : s.Fit) (socket : s.layer = .socket) :
    ∃ t, s.releaseHandle socketHandle = (t, .ok ()) ∧ t.tasks = s.tasks ∧
      t.isHandleClosed socketHandle = true := by
  have there : socketHandle < s.handles.length := fit.socket socket
  cases closed : s.isHandleClosed socketHandle with
  | true => exact ⟨s, by rw [releaseHandle, closed]; rfl, rfl, closed⟩
  | false =>
    have counted : s.references.getD 0 ≠ 0 := fit.not_overdrawn there closed
    have marked (count : Nat) :
        (s.marked socketHandle count).isHandleClosed socketHandle = true := by
      rw [isHandleClosed, marked, List.getElem?_modify_eq, List.getElem?_eq_getElem there]
      rfl
    obtain ⟨e, up⟩ := fit.up
    rw [releaseHandle_open closed counted]
    split
    · refine ⟨_, rfl, ?_, ?_⟩
      · rw [closeEndpoint_up (s := s.marked socketHandle 0) up]
        rfl
      · rw [closeEndpoint_up (s := s.marked socketHandle 0) up]
        exact marked 0
    · exact ⟨_, rfl, rfl, marked _⟩

/-- A turn of a call of close. -/
private theorem settle_closes {p : Session × Progress}
    (runs : p.1.statuses[id]? = some (.running false))
    (closes : Closes (p.1.isHandleClosed socketHandle) p.2.status) :
    ∃ status, (p.1.settle id p.2).statuses[id]? = some status ∧
      Closes ((p.1.settle id p.2).isHandleClosed socketHandle) status := by
  refine ⟨p.2.status, status_settle runs p.2, ?_⟩
  rw [isHandleClosed, (settle_stays p.1 id p.2).2.1]
  exact closes

/-- A call of close that is at its last step closes the socket. -/
private theorem concludeClose_closes (fit : s.Fit) (socket : s.layer = .socket)
    (runs : s.statuses[id]? = some (.running false)) :
    let p := concludeClose (.value .nothing) (s.releaseHandle socketHandle)
    ∃ status, (p.1.settle id p.2).statuses[id]? = some status ∧
      Closes ((p.1.settle id p.2).isHandleClosed socketHandle) status := by
  obtain ⟨t, released, tasks, shut⟩ := releaseHandle_shuts fit socket
  rw [released]
  exact settle_closes (p := (t, .finished _)) (statuses_eq tasks ▸ runs) (.returned shut)

section Turns

variable {place : Nat} (fit : s.Fit) (socket : s.layer = .socket)
  (first : s.ready[place]? = some (.resume id))

include fit socket first

/-- The first turn of a call of close. -/
private theorem closes_begin {name : Text}
    (queued : s.statuses[id]? = some (.queued (.close name) false))
    (known : s.handleId? name = some socketHandle) :
    ∃ status, (s.turnAt place).statuses[id]? = some status ∧
      Closes ((s.turnAt place).isHandleClosed socketHandle) status := by
  obtain ⟨e, up⟩ := fit.up
  let u := s.begun place id
  have runs : u.statuses[id]? = some (.running false) :=
    statuses_begun place (List.getElem?_eq_some_iff.mp queued).1
  have fit' : u.Fit := (fit.turns _).setStatus id (.running false) trivial
  have performed : u.perform id (.close name) =
      u.closeHandle id socketHandle (.value .nothing) := by
    have known : u.handleId? name = some socketHandle := known
    simp only [perform, withHandle, known]
  rw [turnAt_queued up first queued, performed]
  rw [closeHandle]
  split
  · rcases u.cancelReceiver_cases with ⟨nothing, -⟩ | ⟨r, receive, -, -, stopped⟩
    · rw [nothing]
      exact concludeClose_closes fit' socket runs
    · rw [stopped]
      let stopped := (u.cancelReceive receive).setReceiver fun r => { r with state := .idle none }
      have tasks : (stopped.watch receive id).tasks = u.tasks :=
        (aside_watch stopped receive id).tasks.trans (aside_cancelReceive u receive).tasks
      exact settle_closes (p := (stopped.watch receive id, .blocked _)) (statuses_eq tasks ▸ runs)
        (.waits receive false)
  · exact concludeClose_closes fit' socket runs

/-- A later turn of a call of close. -/
private theorem closes_turnAt {status : TaskStatus} (found : s.statuses[id]? = some status)
    (closes : Closes (s.isHandleClosed socketHandle) status) :
    ∃ status, (s.turnAt place).statuses[id]? = some status ∧
      Closes ((s.turnAt place).isHandleClosed socketHandle) status := by
  have rests (asleep : status.isAwake = false) :
      ∃ status, (s.turnAt place).statuses[id]? = some status ∧
        Closes ((s.turnAt place).isHandleClosed socketHandle) status := by
    rw [turnAt_asleep first found asleep]
    exact ⟨status, found, closes⟩
  cases closes with
  | woken receive cancelled wake =>
    have runs := s.statuses_begun place (List.getElem?_eq_some_iff.mp found).1
    have fit' : (s.begun place id).Fit := (fit.turns _).setStatus id (.running false) trivial
    rw [turnAt_woken first found, proceed, resumeClose]
    split
    · exact settle_closes (p := (_, .finished .cancelled)) runs .cancelled
    · exact concludeClose_closes fit' socket runs
  | waits | returned | cancelled => exact rests rfl

end Turns

/-- Whoever is given a turn, a call of close goes on. -/
private theorem choose_closes (fit : s.Fit) (socket : s.layer = .socket) {choice : Choice}
    (calls : Calls .socket [choice]) {status : TaskStatus} (found : s.statuses[id]? = some status)
    (closes : Closes (s.isHandleClosed socketHandle) status) :
    ∃ status, (s.choose choice).statuses[id]? = some status ∧
      Closes ((s.choose choice).isHandleClosed socketHandle) status := by
  have calls : Calls s.layer [choice] := socket ▸ calls
  by_cases turn : s.given? choice = some (.resume id)
  · cases choice with
    | spawn name action => cases turn
    | turn place => exact closes_turnAt fit socket turn found closes
  · obtain ⟨status, now, closes⟩ := choose_other (fun _ closes => closes.rests)
      (fun _ _ nudge closes => closes.nudged nudge) fit calls turn found closes
    refine ⟨status, now, closes.mono fun closed => ?_⟩
    have kept := (choose_course fit calls).keep
      (P := fun t => t.layer = .socket ∧ t.isHandleClosed socketHandle = true) fit
      (fun _ _ _ _ change fit h =>
        ⟨(change.layer fit).trans h.1, (change.shift fit h.1).closed h.2⟩)
      ⟨socket, closed⟩
    exact kept.2.2

private theorem schedule_closes {choices : List Choice} (fit : s.Fit) (socket : s.layer = .socket)
    (calls : Calls .socket choices) {status : TaskStatus} (found : s.statuses[id]? = some status)
    (closes : Closes (s.isHandleClosed socketHandle) status) :
    ∃ status, (s.schedule choices).statuses[id]? = some status ∧
      Closes ((s.schedule choices).isHandleClosed socketHandle) status := by
  refine schedule_status (I := fun u => u.Fit ∧ u.layer = .socket)
    (P := fun u => Closes (u.isHandleClosed socketHandle)) ?_ ⟨fit, socket⟩ calls found closes
  rintro u choice status ⟨fit, socket⟩ first found closes
  have calls : Calls u.layer [choice] := socket ▸ first
  obtain ⟨fit', layer⟩ : (u.choose choice).Fit ∧ (u.choose choice).layer = u.layer :=
    schedule_fit fit calls
  exact ⟨⟨fit', layer.trans socket⟩, choose_closes fit socket first found closes⟩

/-- A call of close for the socket was given its first turn, and has returned since. -/
def HasReturned (start : Session) (choices : List Choice) : Prop :=
  ∃ (first rest : List Choice) (place : Nat) (id : TaskId) (name : Text),
    choices = first ++ .turn place :: rest ∧
      (start.schedule first).ready[place]? = some (.resume id) ∧
      (start.schedule first).statuses[id]? = some (.queued (.close name) false) ∧
      (start.schedule first).handleId? name = some socketHandle ∧
      (start.schedule choices).statuses[id]? = some (.finished (.value .nothing))

/-- The socket is closed once a call of close has returned. -/
theorem HasReturned.closed {choices : List Choice} (returned : s.HasReturned choices)
    (fit : s.Fit) (socket : s.layer = .socket) (calls : Calls .socket choices) :
    (s.schedule choices).isHandleClosed socketHandle = true := by
  obtain ⟨first, rest, place, id, name, rfl, turn, queued, known, ended⟩ := returned
  obtain ⟨before, after⟩ := calls_append.mp calls
  obtain ⟨fit, same⟩ := schedule_fit fit (socket ▸ before)
  have socket := same.trans socket
  obtain ⟨status, now, closes⟩ := closes_begin fit socket turn queued known
  obtain ⟨fit', layer⟩ := turnAt_fit fit place
  obtain ⟨status, last, closes⟩ :=
    schedule_closes fit' (layer.trans socket) after.head.2 now closes
  rw [schedule_append] at ended ⊢
  cases last.symm.trans ended
  cases closes with
  | returned shut => exact shut

end Session

end Osc
