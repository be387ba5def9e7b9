import Osc.Proofs.Ending
import Osc.Proofs.Single

/-!
Who owns the buffers of a receiver. A buffer belongs to the operation that was started with it
until that is over, asked to stop or not, and no other operation is given it before. The receiver
keeps the buffer of an operation that has brought a datagram for the next one; it needs a new
buffer only after a failure, or when it was stopped while an operation was under way.
-/

namespace Osc

theorem Receive.isFinished_of_spare {r : Receive} {buffer : BufferId}
    (left : r.spare? = some buffer) : r.isFinished = true ∧ r.buffer = buffer := by
  obtain ⟨own, status, watchers⟩ := r
  cases status with
  | finished outcome =>
    cases outcome with
    | arrived count peer => exact ⟨rfl, Option.some.inj left⟩
    | _ => cases left
  | _ => cases left

/-- An operation that has failed. -/
def Receive.HasFailed (r : Receive) : Prop := ∃ error, r.status = .finished (.failed error)

theorem Receive.GoesOn.running_of {old new : Receive} (goes : old.GoesOn new)
    (running : new.isFinished = false) : old.isFinished = false :=
  Bool.eq_false_iff.mpr fun finished => by simp [goes.finished finished] at running

theorem Receive.HasFailed.isFinished {r : Receive} (failed : r.HasFailed) :
    r.isFinished = true := by
  obtain ⟨error, status⟩ := failed
  rw [Receive.isFinished, outcome?, status]
  rfl

theorem Receive.GoesOn.hasFailed {old new : Receive} (goes : old.GoesOn new)
    (failed : old.HasFailed) : new.HasFailed := by
  obtain ⟨error, status⟩ := failed
  exact ⟨error, (goes.ended (HasFailed.isFinished ⟨error, status⟩)).trans status⟩

/-- What has brought something leaves its buffer, unless it has failed. -/
theorem Receive.spare?_of_hasBrought {r : Receive} (brought : r.hasBrought = true) :
    r.spare? = some r.buffer ∨ r.spare? = none ∧ r.HasFailed := by
  obtain ⟨own, status, watchers⟩ := r
  cases status with
  | finished outcome =>
    cases outcome with
    | arrived count peer => exact .inl rfl
    | failed error => exact .inr ⟨rfl, error, rfl⟩
    | cancelled => cases brought
  | _ => cases brought

namespace Session

variable {given : Option Turn} {s t : Session} {id : TaskId}

section Upkeep

/-- The state of the receiver. -/
def state? (s : Session) : Option ReceiverState := s.receiver.map Receiver.state

theorem state?_eq {r : Receiver} (receiver : s.receiver = some r) : s.state? = some r.state := by
  rw [state?, receiver, Option.map_some]

theorem state?_setWaiting (s : Session) (waiting : Bool) :
    (s.setReceiver fun r => { r with waiting := waiting }).state? = s.state? := by
  rw [state?, state?, setReceiver]
  cases s.receiver <;> rfl

theorem state?_setState (fit : s.Fit) (state : ReceiverState) :
    (s.setReceiver fun r => { r with state := state }).state? = some state := by
  obtain ⟨r, receiver⟩ := fit.receiver
  rw [state?, setReceiver, receiver]
  rfl

theorem buffers_cancelReceive (s : Session) (receive : ReceiveId) :
    (s.cancelReceive receive).buffers = s.buffers := by
  have laid (inbox : Inbox) : (s.setInbox inbox).buffers = s.buffers := by
    unfold setInbox mapNetwork
    split <;> rfl
  unfold cancelReceive
  split
  · rfl
  · exact laid _
  · rfl
  · rfl

theorem buffers_watch (s : Session) (receive : ReceiveId) (id : TaskId) :
    (s.watch receive id).buffers = s.buffers := by
  unfold watch
  split <;> rfl

/-- Why a receiver is stopped: a task closes the socket and waits for the end of the operation, the
endpoint was closed below an open socket, or a task stops the receiver itself. -/
inductive Reason (s t : Session) (receive : ReceiveId) : Prop where
  | closes (socket : s.layer = .socket) (id : TaskId) (outcome : Outcome)
      (waits : t.statuses[id]? = some (.blocked (.closing receive false outcome)))
  | shut (closed : s.isEndpointClosed = true)
      (handle : (s.layer = .socket && s.isHandleClosed socketHandle) = false)
  | halts (other : s.layer ≠ .socket) (id : TaskId)
      (runs : s.statuses[id]? = some (.running false))
      (ended : t.statuses[id]? = some (.finished (.value (.receiveCancelled true))))

/-- How the receiver goes on while it starts no operation: it is stopped, for a reason, or it keeps
what an operation that was waited for or left has brought. -/
inductive Proceeds (s t : Session) : Prop where
  | same (same : t.state? = s.state?)
  | stops {receive : ReceiveId} (before : s.state? = some (.receiving receive))
      (after : t.state? = some (.idle none)) (reason : Reason s t receive)
  | keeps {receive : ReceiveId} {found : Receive}
      (held : s.state? = some (.receiving receive) ∨ ∃ id, s.Pulls id receive)
      (there : s.receives[receive]? = some found) (brought : found.hasBrought = true)
      (after : t.state? = some (.idle found.spare?))

/-- What a change means for the buffers: an operation is started with one, or none is given away
and none is added. -/
inductive Upkeep (s t : Session) : Prop where
  | stays (length : t.receives.length = s.receives.length)
      (sizes : t.buffers.map Buffer.size = s.buffers.map Buffer.size) (proceeds : Proceeds s t)
  | starts {r : Receiver} {spare : Option BufferId} {buffer : BufferId} (free : s.Admits)
      (receiver : s.receiver = some r) (idle : r.state = .idle spare)
      (provided : s.Provides r.bufferSize spare buffer t.buffers)
      (receives : t.receives = s.receives ++ [Receive.start buffer])
      (statuses : t.statuses = s.statuses)
      (after : t.state? = some (.receiving s.receives.length))

/-- Neither the receiver nor its buffers change. -/
theorem Upkeep.same (length : t.receives.length = s.receives.length)
    (buffers : t.buffers = s.buffers) (receiver : t.receiver = s.receiver) : Upkeep s t :=
  .stays length (by rw [buffers]) (.same (by rw [state?, state?, receiver]))

theorem Change.upkeep (change : Change given s t) (fit : s.Fit) : Upkeep s t := by
  obtain ⟨e, up⟩ := fit.up
  have asked (receive : ReceiveId) : (s.cancelReceive receive).Fit := fit.cancelReceive receive
  have length := s.length_cancelReceive
  have sizes (receive : ReceiveId) : (s.cancelReceive receive).buffers.map Buffer.size =
      s.buffers.map Buffer.size := by rw [s.buffers_cancelReceive]
  cases change with
  | inert same =>
    exact .stays (by rw [same.receives]) same.sizes (.same (by rw [state?, state?, same.receiver]))
  | spend took stale => cases took; exact .same rfl rfl rfl
  | tell took blocked => cases took; exact .same rfl rfl rfl
  | drop took queued => cases took; exact .same rfl rfl rfl
  | start took queued => cases took; exact .same rfl rfl rfl
  | goOn took woken other => cases took; exact .same rfl rfl rfl
  | leave took woken => cases took; exact .stays rfl rfl (.same (state?_setWaiting _ false))
  | @gain v id receive pull found took woken there brought =>
    have relieved := (fit.took took).relieve id
    cases took
    exact .stays rfl rfl (.keeps (.inr ⟨_, _, woken, rfl⟩) there brought
      (state?_setState relieved _))
  | lose took woken there brought =>
    cases took
    exact .stays rfl rfl (.same (state?_setWaiting _ false))
  | collect runs free receiver current there brought =>
    have held := (state?_eq receiver).trans (congrArg some current)
    exact .stays rfl rfl (.keeps (.inl held) there brought (state?_setState fit _))
  | receive runs free receiver idle provided =>
    refine .starts free receiver idle provided rfl rfl ?_
    simp only [state?, queue, setReceiver, receiver, Option.map_some]
  | @join id r receive pull runs free receiver current =>
    let said := s.setReceiver fun r => { r with waiting := true }
    refine .stays (said.length_watch receive id) ?_ (.same ?_)
    · exact congrArg (List.map Buffer.size) (said.buffers_watch receive id)
    · exact (congrArg (Option.map Receiver.state) (aside_watch said receive id).receiver).trans
        (s.state?_setWaiting true)
  | @stop r receive closed handle receiver current =>
    exact .stays (length receive) (sizes receive) (.stops
      ((state?_eq receiver).trans (congrArg some current)) (state?_setState (asked receive) _)
      (.shut closed handle))
  | @halt id r receive runs other receiver current =>
    let stopped := (s.cancelReceive receive).setReceiver fun r => { r with state := .idle none }
    have statuses : stopped.statuses = s.statuses :=
      statuses_eq (aside_cancelReceive s receive).tasks
    have ended : (stopped.finish id (.value (.receiveCancelled true))).statuses[id]? =
        some (.finished (.value (.receiveCancelled true))) := by
      rw [statuses_finish, statuses]
      exact List.getElem?_set_self (List.getElem?_eq_some_iff.mp runs).1
    exact .stays (length receive) (sizes receive) (.stops
      ((state?_eq receiver).trans (congrArg some current)) (state?_setState (asked receive) _)
      (.halts other id runs ended))
  | @close id r receive outcome runs plain there isOpen receiver current =>
    let stopped := (s.cancelReceive receive).setReceiver fun r => { r with state := .idle none }
    have waits : ((stopped.watch receive id).setStatus id
        (.blocked (.closing receive false outcome))).statuses[id]? =
          some (.blocked (.closing receive false outcome)) := by
      have tasks : stopped.tasks = s.tasks := (aside_cancelReceive s receive).tasks
      rw [statuses_setStatus, statuses_eq ((aside_watch stopped receive id).tasks.trans tasks)]
      exact List.getElem?_set_self (List.getElem?_eq_some_iff.mp runs).1
    refine .stays ((stopped.length_watch receive id).trans (length receive)) ?_ (.stops
      ((state?_eq receiver).trans (congrArg some current)) ?_
      (.closes (fit.socket_of_handle there) id outcome waits))
    · exact (congrArg (List.map Buffer.size) (stopped.buffers_watch receive id)).trans
        (sizes receive)
    · exact (congrArg (Option.map Receiver.state) (aside_watch stopped receive id).receiver).trans
        (state?_setState (asked receive) _)
  | release there isOpen counted settled =>
    rcases releaseHandle_cases up isOpen counted with ⟨-, same⟩ | ⟨-, same⟩
    · rw [same]
      exact .same rfl rfl rfl
    · rw [same]
      exact .same rfl rfl rfl
  | overdrawn there isOpen counted => exact (fit.not_overdrawn there isOpen counted).elim
  | block runs fits =>
    rw [awaitWritable_up up]
    exact .same rfl rfl rfl
  | shut other =>
    rw [closeEndpoint_up up]
    exact .same rfl rfl rfl
  | @wait id found there looks =>
    have here : (s.setReceive id .waiting).link = .up e := up
    rw [setInbox_onto here]
    exact .same (List.length_modify ..) rfl rfl
  | waken up first => exact .same (List.length_modify ..) rfl rfl
  | conclude there turn asked => exact .same (List.length_modify ..) rfl rfl
  | unpull blocked asked => exact .same (List.length_modify ..) rfl rfl
  | urge blocked requested =>
    exact .same (length _) (s.buffers_cancelReceive _) (aside_cancelReceive s _).receiver
  | _ => exact .same rfl rfl rfl

end Upkeep

section Owning

/-- The receiver is at an operation, or a task waits for what it brings. -/
def Holds (s : Session) (receive : ReceiveId) : Prop :=
  s.state? = some (.receiving receive) ∨ ∃ id, s.Pulls id receive

/-- Buffers and who owns them. The first operation uses the first buffer, and every other buffer
was made for an operation that came after one with another. What the receiver keeps belongs to
nobody, what it still has to take belongs to nobody else, and no two operations that are not over
have the same buffer. -/
structure Owned (s : Session) : Prop where
  first : s.receives = [] → s.state? = some (.idle (some 0))
  zero : ∀ a, s.receives[0]? = some a → a.buffer = 0
  room : ∀ a ∈ s.receives, a.buffer < s.buffers.length
  spare : ∀ b, s.state? = some (.idle (some b)) →
    b < s.buffers.length ∧ ∀ a ∈ s.receives, a.isFinished = false → a.buffer ≠ b
  alone : ∀ (i j : ReceiveId) (a b : Receive), s.receives[i]? = some a → s.receives[j]? = some b →
    a.isFinished = false ∨ s.Holds i → b.isFinished = false → a.buffer = b.buffer → i = j
  latest : ∀ i, s.Holds i → i + 1 = s.receives.length
  made : ∀ b, 0 < b → b < s.buffers.length → ∃ (j : ReceiveId) (a c : Receive),
    s.receives[j]? = some a ∧ s.receives[j + 1]? = some c ∧ c.buffer = b ∧ a.buffer ≠ b
  sizes : ∀ r, s.receiver = some r → ∀ b ∈ s.buffers, b.size = r.bufferSize

/-- Operations that go on, one for one. -/
theorem Onward.before {before after : List Receive} (onward : Onward before after)
    (length : after.length = before.length) {i : ReceiveId} {new : Receive}
    (there : after[i]? = some new) : ∃ old, before[i]? = some old ∧ old.GoesOn new := by
  obtain ⟨inside, -⟩ := List.getElem?_eq_some_iff.mp there
  have here := List.getElem?_eq_getElem (length ▸ inside)
  obtain ⟨new', there', goes⟩ := onward i _ here
  cases there.symm.trans there'
  exact ⟨_, here, goes⟩

theorem Onward.mem {before after : List Receive} (onward : Onward before after)
    (length : after.length = before.length) {new : Receive} (member : new ∈ after) :
    ∃ old ∈ before, old.GoesOn new := by
  obtain ⟨i, there⟩ := List.mem_iff_getElem?.mp member
  obtain ⟨old, here, goes⟩ := onward.before length there
  exact ⟨old, List.mem_of_getElem? here, goes⟩

/-- What is held was held before, unless an operation was started. -/
theorem Proceeds.holds (proceeds : Proceeds s t) (passes : Passes given s t) {i : ReceiveId}
    (holds : t.Holds i) : s.Holds i := by
  have state (now : t.state? = some (.receiving i)) : s.Holds i := by
    cases proceeds with
    | same same => exact .inl (same ▸ now)
    | stops before after reason => cases after.symm.trans now
    | keeps held there brought after => cases after.symm.trans now
  rcases holds with now | ⟨id, pulls⟩
  · exact state now
  · rcases passes.pulls pulls with before | ⟨-, r, receiver, -, current⟩
    · exact .inr ⟨id, before⟩
    · exact state ((state?_eq receiver).trans (congrArg some current))

namespace Owned

theorem stays (h : s.Owned) (passes : Passes given s t) (onward : Onward s.receives t.receives)
    (built : Built s t) (length : t.receives.length = s.receives.length)
    (sizes : t.buffers.map Buffer.size = s.buffers.map Buffer.size) (proceeds : Proceeds s t) :
    t.Owned := by
  have buffers : t.buffers.length = s.buffers.length := by
    simpa using congrArg List.length sizes
  constructor
  case first =>
    intro none
    have before : s.receives = [] := List.eq_nil_of_length_eq_zero (by rw [← length, none]; rfl)
    have idle := h.first before
    cases proceeds with
    | same same => exact same.trans idle
    | stops receiving after reason => cases idle.symm.trans receiving
    | keeps held there brought after =>
      rw [before] at there
      cases there
  case zero =>
    intro a there
    obtain ⟨old, here, goes⟩ := onward.before length there
    exact goes.buffer.trans (h.zero old here)
  case room =>
    intro a member
    obtain ⟨old, here, goes⟩ := onward.mem length member
    rw [goes.buffer, buffers]
    exact h.room old here
  case spare =>
    intro b idle
    rw [buffers]
    cases proceeds with
    | same same =>
      obtain ⟨inside, apart⟩ := h.spare b (same ▸ idle)
      refine ⟨inside, fun a member running => ?_⟩
      obtain ⟨old, here, goes⟩ := onward.mem length member
      rw [goes.buffer]
      exact apart old here (goes.running_of running)
    | stops before after reason => cases after.symm.trans idle
    | @keeps receive found held there brought after =>
      have left : found.spare? = some b := by simpa using after.symm.trans idle
      obtain ⟨finished, rfl⟩ := Receive.isFinished_of_spare left
      refine ⟨h.room found (List.mem_of_getElem? there), fun a member running same => ?_⟩
      obtain ⟨j, here⟩ := List.mem_iff_getElem?.mp member
      obtain ⟨old, before, goes⟩ := onward.before length here
      have apart := h.alone receive j found old there before (.inr held) (goes.running_of running)
        (same.symm.trans goes.buffer)
      subst apart
      cases there.symm.trans before
      rw [goes.running_of running] at finished
      cases finished
  case alone =>
    intro i j a b there there' holds running same
    obtain ⟨old, here, goes⟩ := onward.before length there
    obtain ⟨old', here', goes'⟩ := onward.before length there'
    refine h.alone i j old old' here here' ?_ (goes'.running_of running) ?_
    · exact holds.imp goes.running_of (proceeds.holds passes)
    · rw [← goes.buffer, ← goes'.buffer, same]
  case latest =>
    intro i holds
    rw [length]
    exact h.latest i (proceeds.holds passes holds)
  case made =>
    intro b positive inside
    obtain ⟨j, a, c, there, there', same, other⟩ := h.made b positive (buffers ▸ inside)
    obtain ⟨a', now, goes⟩ := onward j a there
    obtain ⟨c', now', goes'⟩ := onward (j + 1) c there'
    exact ⟨j, a', c', now, now', goes'.buffer.trans same, fun same => other (goes.buffer ▸ same)⟩
  case sizes =>
    intro r receiver b member
    obtain ⟨r', receiver', bounds⟩ : ∃ r', s.receiver = some r' ∧ r'.bounds = r.bounds := by
      have same := built.bounds
      rw [receiver, Option.map_some] at same
      exact Option.map_eq_some_iff.mp same.symm
    have size : b.size ∈ s.buffers.map Buffer.size := sizes ▸ List.mem_map_of_mem member
    obtain ⟨b', member', same⟩ := List.mem_map.mp size
    have limit : r'.limit = r.limit := congrArg Prod.snd bounds
    rw [← same, h.sizes r' receiver' b' member', Receiver.bufferSize, Receiver.bufferSize, limit]

/-- A buffer that is provided is there, and no operation that is not over has it. -/
theorem provided (h : s.Owned) {size : Nat} {spare : Option BufferId} {buffer : BufferId}
    {buffers : List Buffer} (idle : s.state? = some (.idle spare))
    (provided : s.Provides size spare buffer buffers) :
    s.buffers.length ≤ buffers.length ∧ buffer < buffers.length ∧
      ∀ a ∈ s.receives, a.isFinished = false → a.buffer ≠ buffer := by
  cases provided with
  | spare =>
    obtain ⟨inside, apart⟩ := h.spare buffer idle
    exact ⟨Nat.le_refl _, inside, apart⟩
  | new =>
    rw [List.length_append]
    exact ⟨Nat.le_add_right .., Nat.lt_succ_self _, fun a member _ => (h.room a member).ne⟩

theorem starts (h : s.Owned) (single : s.Single) (built : Built s t) {r : Receiver}
    {spare : Option BufferId} {buffer : BufferId} (free : s.Admits)
    (receiver : s.receiver = some r) (idle : r.state = .idle spare)
    (provided : s.Provides r.bufferSize spare buffer t.buffers)
    (receives : t.receives = s.receives ++ [Receive.start buffer])
    (statuses : t.statuses = s.statuses)
    (after : t.state? = some (.receiving s.receives.length)) : t.Owned := by
  have state : s.state? = some (.idle spare) := (state?_eq receiver).trans (congrArg some idle)
  obtain ⟨more, inside, apart⟩ := h.provided state provided
  have holds {i : ReceiveId} (holds : t.Holds i) : i = s.receives.length := by
    rcases holds with now | ⟨id, status, found, pulled⟩
    · simpa using now.symm.trans after
    · rw [statuses] at found
      exact absurd ⟨status, found, pulled⟩ (single.free free id i)
  have cases {i : ReceiveId} {a : Receive} (there : t.receives[i]? = some a) :
      s.receives[i]? = some a ∨ i = s.receives.length ∧ a = Receive.start buffer := by
    rw [receives] at there
    simpa only [eq_comm] using getElem?_concat_eq_some.mp there
  constructor
  case first => exact fun none => by simp [receives] at none
  case zero =>
    intro a there
    rcases cases there with old | ⟨none, rfl⟩
    · exact h.zero a old
    · have first := h.first (List.eq_nil_of_length_eq_zero none.symm)
      cases state.symm.trans first
      generalize t.buffers = buffers at provided
      cases provided
      rfl
  case room =>
    intro a member
    obtain ⟨i, there⟩ := List.mem_iff_getElem?.mp member
    rcases cases there with old | ⟨-, rfl⟩
    · exact (h.room a (List.mem_of_getElem? old)).trans_le more
    · exact inside
  case spare => exact fun b now => by cases now.symm.trans after
  case alone =>
    intro i j a b there there' held running same
    rcases cases there with old | ⟨rfl, rfl⟩
    · have going : a.isFinished = false := by
        refine held.resolve_right fun held => ?_
        exact (List.getElem?_eq_some_iff.mp old).1.ne (holds held)
      rcases cases there' with old' | ⟨rfl, rfl⟩
      · exact h.alone i j a b old old' (.inl going) running same
      · exact absurd same (apart a (List.mem_of_getElem? old) going)
    · rcases cases there' with old' | ⟨rfl, rfl⟩
      · exact absurd same.symm (apart b (List.mem_of_getElem? old') running)
      · rfl
  case latest =>
    intro i held
    rw [holds held, receives, List.length_append]
    rfl
  case made =>
    intro b positive below
    have kept {i : ReceiveId} {a : Receive} (there : s.receives[i]? = some a) :
        t.receives[i]? = some a := by
      rw [receives]
      exact getElem?_concat_eq_some.mpr (.inl there)
    by_cases old : b < s.buffers.length
    · obtain ⟨j, a, c, there, there', same, other⟩ := h.made b positive old
      exact ⟨j, a, c, kept there, kept there', same, other⟩
    · -- The buffer is new, since the receiver had none; so an operation came before.
      generalize now : t.buffers = buffers at provided below
      cases provided with
      | spare => exact absurd below old
      | new =>
        have is : b = s.buffers.length := by
          rw [List.length_append] at below
          exact Nat.le_antisymm (Nat.le_of_lt_succ below) (Nat.le_of_not_lt old)
        have earlier : s.receives ≠ [] := fun none => by cases state.symm.trans (h.first none)
        obtain ⟨j, last⟩ :=
          Nat.exists_eq_add_one_of_ne_zero (mt List.eq_nil_of_length_eq_zero earlier)
        have there := List.getElem?_eq_getElem (last ▸ Nat.lt_succ_self j : j < s.receives.length)
        refine ⟨j, _, Receive.start _, kept there, ?_, is.symm, ?_⟩
        · rw [receives, ← last]
          exact List.getElem?_concat_length
        · rw [is]
          exact (h.room _ (List.mem_of_getElem? there)).ne
  case sizes =>
    intro r' receiver' b member
    have same := built.bounds
    rw [receiver, receiver', Option.map_some, Option.map_some] at same
    have limit : r'.limit = r.limit := congrArg Prod.snd (Option.some.inj same)
    have size : r'.bufferSize = r.bufferSize := by
      rw [Receiver.bufferSize, Receiver.bufferSize, limit]
    rw [size]
    generalize t.buffers = buffers at provided member
    cases provided with
    | spare => exact h.sizes r receiver b member
    | new =>
      rcases List.mem_append.mp member with old | new
      · exact h.sizes r receiver b old
      · cases List.mem_singleton.mp new
        rfl

end Owned

theorem Change.owned (change : Change given s t) (fit : s.Fit) (single : s.Single) (h : s.Owned) :
    t.Owned := by
  have passes := change.passes fit
  have onward := change.onward fit
  have built := change.built fit
  cases change.upkeep fit with
  | stays length sizes proceeds => exact h.stays passes onward built length sizes proceeds
  | starts free receiver idle provided receives statuses after =>
    exact h.starts single built free receiver idle provided receives statuses after

theorem Owned.start {layer : Layer} {codec : Codec} {settings : Settings} {e : Endpoint}
    {limit : Int} : (fresh layer codec settings e limit).Owned := by
  have nobody (i : ReceiveId) : ¬ (fresh layer codec settings e limit).Holds i := by
    rintro (state | ⟨id, status, found, -⟩)
    · cases state
    · cases found
  constructor
  case first => exact fun _ => rfl
  case zero => nofun
  case room => nofun
  case spare =>
    intro b idle
    cases idle
    exact ⟨Nat.one_pos, nofun⟩
  case alone => nofun
  case latest => exact fun i held => absurd held (nobody i)
  case made =>
    exact fun b positive below => absurd positive (Nat.not_lt.mpr (Nat.le_of_lt_succ below))
  case sizes =>
    intro r receiver b member
    cases receiver
    cases List.mem_singleton.mp member
    rfl

end Owning

section Reuse

/-- A task has stopped the receiver while that was at an operation. -/
def HasStopped (s : Session) (id : TaskId) : Prop :=
  s.statuses[id]? = some (.finished (.value (.receiveCancelled true)))

/-- A task has stopped the receiver since an earlier session. -/
def StoppedSince (u s : Session) : Prop := ∃ id : TaskId, s.HasStopped id ∧ ¬ u.HasStopped id

/-- Operations since an earlier session, while no task has stopped the receiver: each has the
buffer of the one before, unless that failed, and the receiver keeps the buffer of the last. -/
structure Reuses (u s : Session) : Prop where
  pairs : ∀ (j : ReceiveId) (a c : Receive), u.receives.length ≤ j → s.receives[j]? = some a →
    s.receives[j + 1]? = some c → a.HasFailed ∨ c.buffer = a.buffer
  last : ∀ (j : ReceiveId) (a : Receive), u.receives.length ≤ j → j + 1 = s.receives.length →
    s.receives[j]? = some a → a.HasFailed ∨ s.isEndpointClosed = true ∨
      s.state? = some (.receiving j) ∨ s.state? = some (.idle (some a.buffer))

theorem Reuses.refl (s : Session) : Reuses s s where
  pairs j a c since there := by
    cases (List.getElem?_eq_some_iff.mp there).1.not_ge since
  last j a since _ there := by
    cases (List.getElem?_eq_some_iff.mp there).1.not_ge since

theorem Change.reuses {u : Session} (change : Change given s t) (fit : s.Fit)
    (other : s.layer ≠ .socket) (owned : s.Owned) (unstopped : ¬ StoppedSince s t)
    (h : Reuses u s) : Reuses u t := by
  have onward := change.onward fit
  have closed := change.isEndpointClosed fit
  cases change.upkeep fit with
  | stays length sizes proceeds =>
    constructor
    case pairs =>
      intro j a c since there there'
      obtain ⟨old, here, goes⟩ := onward.before length there
      obtain ⟨old', here', goes'⟩ := onward.before length there'
      refine (h.pairs j old old' since here here').imp goes.hasFailed fun same => ?_
      rw [goes.buffer, goes'.buffer, same]
    case last =>
      intro j a since end' there
      obtain ⟨old, here, goes⟩ := onward.before length there
      rcases h.last j old since (length ▸ end') here with failed | shut | state
      · exact .inl (goes.hasFailed failed)
      · exact .inr (.inl (closed shut))
      · cases proceeds with
        | same same =>
          rw [same, goes.buffer]
          exact .inr (.inr state)
        | stops before after reason =>
          cases reason with
          | closes socket => exact absurd socket other
          | shut shut handle => exact .inr (.inl (closed shut))
          | halts other id runs ended =>
            refine absurd ⟨id, ended, fun stopped => ?_⟩ unstopped
            cases stopped.symm.trans runs
        | @keeps receive found held found' brought after =>
          -- The operation that has brought something is the last one.
          have is : receive = j :=
            Nat.succ.inj ((owned.latest receive held).trans (length.symm.trans end'.symm))
          subst is
          cases here.symm.trans found'
          rcases Receive.spare?_of_hasBrought brought with kept | ⟨-, failed⟩
          · rw [after, kept, goes.buffer]
            exact .inr (.inr (.inr rfl))
          · exact .inl (goes.hasFailed failed)
  | @starts r spare buffer free receiver idle provided receives statuses after =>
    have state : s.state? = some (.idle spare) := (state?_eq receiver).trans (congrArg some idle)
    constructor
    case pairs =>
      intro j a c since there there'
      rw [receives] at there there'
      rcases getElem?_concat_eq_some.mp there' with old' | ⟨new, rfl⟩
      · have inside := (List.getElem?_eq_some_iff.mp old').1
        rw [List.getElem?_append_left (Nat.lt_of_succ_lt inside)] at there
        exact h.pairs j a c since there old'
      · rw [List.getElem?_append_left (new ▸ Nat.lt_succ_self j)] at there
        rcases h.last j a since new there with failed | shut | now | now
        · exact .inl failed
        · cases free.endpoint.symm.trans shut
        · cases state.symm.trans now
        · cases state.symm.trans now
          generalize t.buffers = buffers at provided
          cases provided
          exact .inr rfl
    case last =>
      intro j a since end' there
      have is : j = s.receives.length := by
        rw [receives, List.length_append] at end'
        exact Nat.succ.inj end'
      exact .inr (.inr (.inl (is ▸ after)))

/-- Operations that follow each other have the same buffer as long as none has failed. -/
theorem Reuses.same {u : Session} (h : Reuses u s) {i j : ReceiveId} {a b : Receive}
    (since : u.receives.length ≤ i) (le : i ≤ j) (there : s.receives[i]? = some a)
    (there' : s.receives[j]? = some b)
    (unfailed : ∀ (k : ReceiveId) (c : Receive), i ≤ k → k < j → s.receives[k]? = some c →
      ¬ c.HasFailed) : b.buffer = a.buffer := by
  induction j, le using Nat.le_induction generalizing b with
  | base =>
    cases there.symm.trans there'
    rfl
  | succ j le ih =>
    obtain ⟨inside, -⟩ := List.getElem?_eq_some_iff.mp there'
    have here := List.getElem?_eq_getElem (Nat.lt_of_succ_lt inside)
    have same := ih here fun k c first last => unfailed k c first (last.trans (Nat.lt_succ_self j))
    rcases h.pairs j _ b (since.trans le) here there' with failed | next
    · exact absurd failed (unfailed j _ le (Nat.lt_succ_self j) here)
    · exact next.trans same

/-- What stays true of a receiver and its buffers from a session on. -/
structure Segment (u s : Session) : Prop where
  other : s.layer ≠ .socket
  single : s.Single
  owned : s.Owned
  stopped : ∀ id, u.HasStopped id → s.HasStopped id
  reuses : ¬ StoppedSince u s → Reuses u s

theorem Segment.refl (other : s.layer ≠ .socket) (single : s.Single) (owned : s.Owned) :
    Segment s s := ⟨other, single, owned, fun _ stopped => stopped, fun _ => .refl s⟩

theorem Change.segment {u : Session} (change : Change given s t) (fit : s.Fit)
    (h : Segment u s) : Segment u t where
  other := change.layer fit ▸ h.other
  single := change.single fit h.single
  owned := change.owned fit h.single h.owned
  stopped id before := (change.passes fit).finished (h.stopped id before)
  reuses unstopped := by
    have before : ¬ StoppedSince u s := by
      rintro ⟨id, now, not⟩
      exact unstopped ⟨id, (change.passes fit).finished now, not⟩
    have meanwhile : ¬ StoppedSince s t := by
      rintro ⟨id, now, not⟩
      exact unstopped ⟨id, now, fun earlier => not (h.stopped id earlier)⟩
    exact change.reuses fit h.other h.owned meanwhile (h.reuses before)

theorem Segment.schedule {choices : List Choice} (fit : s.Fit) (other : s.layer ≠ .socket)
    (single : s.Single) (owned : s.Owned) (calls : Calls s.layer choices) :
    Segment s (s.schedule choices) :=
  (schedule_keep (fun _ _ _ change fit => change.segment fit) fit calls
    (.refl other single owned)).2

end Reuse

end Session

end Osc
