import Osc.Proofs.Telling

/-!
Why a stream ends. A pull that comes away with nothing had an operation that was cancelled, since
its task was not told before the end; and operations are only cancelled once the endpoint is
closed, or by a task that stops the receiver.
-/

namespace Osc

namespace Session

variable {given : Option Turn} {s t : Session} {id : TaskId}

/-- Some operation was asked to stop. -/
def HasAsked (s : Session) : Prop := ∃ r ∈ s.receives, r.status.isAsked = true

/-- The endpoint is closed, or a task has stopped the receiver. -/
def IsStopped (s : Session) : Prop :=
  s.isEndpointClosed = true ∨ .finished (.value (.receiveCancelled true)) ∈ s.statuses

/-- Whatever has stopped has a reason to. -/
structure Founded (s : Session) : Prop where
  asked : s.HasAsked → s.IsStopped
  stop : .finished (.value .stop) ∈ s.statuses → s.IsStopped

theorem hasAsked_modify {receive : ReceiveId} {f : Receive → Receive}
    (receives : t.receives = s.receives.modify receive f)
    (kept : ∀ found, s.receives[receive]? = some found → (f found).status.isAsked = true →
      found.status.isAsked = true) (h : t.HasAsked) : s.HasAsked := by
  obtain ⟨r, member, asked⟩ := h
  rw [receives] at member
  obtain ⟨other, there⟩ := List.mem_iff_getElem?.mp member
  by_cases same : receive = other
  · subst same
    rw [List.getElem?_modify_eq] at there
    obtain ⟨before, here, rfl⟩ := Option.map_eq_some_iff.mp there
    exact ⟨before, List.mem_of_getElem? here, kept before here asked⟩
  · rw [List.getElem?_modify_ne _ _ same] at there
    exact ⟨r, List.mem_of_getElem? there, asked⟩

/-- A closed endpoint stays closed. -/
theorem Change.isEndpointClosed (change : Change given s t) (fit : s.Fit)
    (closed : s.isEndpointClosed = true) : t.isEndpointClosed = true := by
  obtain ⟨e, up⟩ := fit.up
  have now : e.closed = true := by
    simpa only [Session.isEndpointClosed, endpoint?, up, Option.any_some] using closed
  have asked (receive : ReceiveId) : (s.cancelReceive receive).isEndpointClosed = true :=
    ((aside_cancelReceive s receive).isEndpointClosed fit.up).trans closed
  cases change with
  | inert same => exact same.isEndpointClosed.trans closed
  | spend took stale => cases took; exact closed
  | tell took blocked => cases took; exact closed
  | drop took queued => cases took; exact closed
  | start took queued => cases took; exact closed
  | goOn took woken other => cases took; exact closed
  | leave took woken => cases took; exact closed
  | gain took woken there brought => cases took; exact closed
  | lose took woken there brought => cases took; exact closed
  | @join id r receive pull runs free receiver current =>
    have same := aside_watch (s.setReceiver fun r => { r with waiting := true }) receive id
    exact (same.isEndpointClosed fit.up).trans closed
  | stop closed' handle receiver current => exact asked _
  | halt runs other receiver current => exact asked _
  | @close id r receive outcome runs plain there isOpen receiver current =>
    let stopped := (s.cancelReceive receive).setReceiver fun r => { r with state := .idle none }
    have same := aside_watch stopped receive id
    exact (same.isEndpointClosed (fit.cancelReceive receive).up).trans (asked receive)
  | release there isOpen counted settled =>
    rcases releaseHandle_cases up isOpen counted with ⟨-, same⟩ | ⟨-, same⟩
    · rw [same]
      rfl
    · rw [same]
      exact closed
  | overdrawn there isOpen counted => exact (fit.not_overdrawn there isOpen counted).elim
  | @block id w runs fits =>
    rw [awaitWritable_up up]
    unfold Endpoint.awaitWritable
    split <;> exact now
  | writable up' watched =>
    cases up.symm.trans up'
    exact now
  | shut other =>
    rw [closeEndpoint_up up]
    rfl
  | waken up' first =>
    cases up.symm.trans up'
    exact now
  | @wait id found there looks =>
    have here : (s.setReceive id .waiting).link = .up e := up
    rw [setInbox_onto here]
    exact now
  | unwrite up' blocked asked =>
    cases up.symm.trans up'
    exact now
  | urge blocked requested => exact asked _
  | _ => exact closed

theorem Change.isStopped (change : Change given s t) (fit : s.Fit) (h : s.IsStopped) :
    t.IsStopped := by
  rcases h with closed | stopped
  · exact .inl (change.isEndpointClosed fit closed)
  · exact .inr ((change.stir fit).finished stopped)

/-- Operations are asked to stop when the endpoint is closed, or by a task. -/
theorem Change.hasAsked (change : Change given s t) (fit : s.Fit) (other : s.layer ≠ .socket)
    (h : t.HasAsked) : s.HasAsked ∨ t.IsStopped := by
  obtain ⟨e, up⟩ := fit.up
  have stopped := change.isEndpointClosed fit
  cases change with
  | inert same =>
    rw [HasAsked, same.receives] at h
    exact .inl h
  | spend took stale => cases took; exact .inl h
  | tell took blocked => cases took; exact .inl h
  | drop took queued => cases took; exact .inl h
  | start took queued => cases took; exact .inl h
  | goOn took woken other => cases took; exact .inl h
  | leave took woken => cases took; exact .inl h
  | gain took woken there brought => cases took; exact .inl h
  | lose took woken there brought => cases took; exact .inl h
  | receive runs free receiver idle provided =>
    obtain ⟨r, member, asked⟩ := h
    rcases List.mem_append.mp member with old | new
    · exact .inl ⟨r, old, asked⟩
    · cases List.mem_singleton.mp new
      cases asked
  | @join id r receive pull runs free receiver current =>
    let said := s.setReceiver fun r => { r with waiting := true }
    rcases said.watch_cases receive id with ⟨same, -⟩ | ⟨same, -⟩
    · rw [same] at h
      exact .inl h
    · rw [same] at h
      exact .inl (hasAsked_modify (t := (said.watch receive id).setStatus id _)
        (congrArg receives same) (fun found _ asked => asked) (same ▸ h))
  | stop closed handle receiver current => exact .inr (.inl (stopped closed))
  | @halt id r receive runs other receiver current =>
    refine .inr (.inr (List.mem_of_getElem? (i := id) ?_))
    have tasks : ((s.cancelReceive receive).setReceiver
        fun r => { r with state := .idle none }).statuses = s.statuses :=
      statuses_eq (aside_cancelReceive s receive).tasks
    rw [statuses_finish, tasks]
    exact List.getElem?_set_self (List.getElem?_eq_some_iff.mp runs).1
  | close runs plain there isOpen receiver current =>
    exact absurd (fit.socket_of_handle there) other
  | release there isOpen counted settled => exact absurd (fit.socket_of_handle there) other
  | clone there isOpen counted name => exact absurd (fit.socket_of_handle there) other
  | overdrawn there isOpen counted => exact absurd (fit.socket_of_handle there) other
  | block runs fits =>
    rw [awaitWritable_up up] at h
    exact .inl h
  | shut other =>
    rw [closeEndpoint_up up] at h
    exact .inl h
  | waken up first => exact .inl (hasAsked_modify rfl (fun found _ asked => by cases asked) h)
  | @wait id found there looks =>
    have here : (s.setReceive id .waiting).link = .up e := up
    rw [setInbox_onto here] at h
    exact .inl (hasAsked_modify rfl (fun found _ asked => by cases asked) h)
  | @conclude id found outcome there turn asked =>
    refine .inl (hasAsked_modify rfl (fun found' there' now => ?_) h)
    cases there.symm.trans there'
    cases outcome with
    | cancelled => exact asked.mp rfl
    | _ => cases now
  | @unpull id receive pull blocked requested =>
    exact .inl (hasAsked_modify (f := fun r => { r with watchers := r.watchers.erase id }) rfl
      (fun found _ asked => asked) h)
  | urge blocked requested =>
    exact absurd (fit.socket_of_handle (fit.blocked blocked).1) other
  | _ => exact .inl h

theorem Change.founded (change : Change given s t) (fit : s.Fit) (other : s.layer ≠ .socket)
    (prompt : s.Prompt) (h : s.Founded) : t.Founded := by
  have stays := change.isStopped fit
  constructor
  case asked =>
    intro asked
    rcases change.hasAsked fit other asked with before | stopped
    · exact stays (h.asked before)
    · exact stopped
  case stop =>
    intro ended
    cases change.stir fit with
    | none same => exact stays (h.stop (statuses_eq same ▸ ended))
    | spawn name action more =>
      rw [statuses, more, List.map_append] at ended
      rcases List.mem_append.mp ended with old | new
      · exact stays (h.stop old)
      · cases List.mem_singleton.mp new
    | ask id more =>
      rw [statuses_eq more, statuses_asked] at ended
      exact stays (h.stop ended)
    | set id old new found running now stops =>
      rw [statuses_eq now, statuses_setStatus] at ended
      rcases List.mem_or_eq_of_mem_set ended with before | rfl
      · exact stays (h.stop before)
      · apply stays
        rcases stops rfl with (⟨socket, -⟩ | closed | ⟨receive, r, there, cancelled⟩) |
          ⟨unasked, receive, pull, r, woken, there, nothing⟩
        · exact absurd socket other
        · exact .inl closed
        · exact h.asked ⟨r, List.mem_of_getElem? there, Receive.isAsked_of_isCancelled cancelled⟩
        · obtain ⟨r', there', finished⟩ := (prompt id).woken receive pull woken
          cases there.symm.trans there'
          have cancelled : r.isCancelled = true := by
            simpa [Receive.hasBrought, finished] using nothing
          exact h.asked ⟨r, List.mem_of_getElem? there, Receive.isAsked_of_isCancelled cancelled⟩

/-- Below a socket there is a reason for all that has stopped, in whatever order turns are given. -/
theorem schedule_founded {layer : Layer} {codec : Codec} {settings : Settings} {e : Endpoint}
    {limit : Int} {choices : List Choice} (other : layer ≠ .socket) (calm : codec.IsCalm)
    (unused : IsFresh e) (calls : Calls layer choices) :
    ((fresh layer codec settings e limit).schedule choices).Founded := by
  let start := fresh layer codec settings e limit
  have founded : start.Founded := by
    refine ⟨?_, nofun⟩
    rintro ⟨r, member, -⟩
    cases member
  have kept (given : Option Turn) (s t : Session) (change : Change given s t) (fit : s.Fit)
      (h : s.layer ≠ .socket ∧ s.Prompt ∧ s.Founded) :
      t.layer ≠ .socket ∧ t.Prompt ∧ t.Founded := by
    obtain ⟨below, prompt, founded⟩ := h
    refine ⟨?_, change.prompt fit prompt, change.founded fit below prompt founded⟩
    rwa [change.layer fit]
  obtain ⟨-, -, -, founded⟩ := schedule_keep kept
    (Fit.start calm unused.waiting) calls ⟨other, .start unused, founded⟩
  exact founded

end Session

end Osc
