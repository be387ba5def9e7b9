import Osc.Proofs.Handles
import Osc.Proofs.Hearing

/-!
Closing a socket. A call of close stops the receiver's operation and waits for its end before the
handle is closed, so an operation that is not over is the receiver's or has a call of close that
waits for it. When no operation is started while a call waits, the receiver is idle from then on.
-/

namespace Osc

namespace Session

variable {given : Option Turn} {s t u : Session} {id : TaskId}

section Awaiting

/-- Some call of close waits for the end of an operation. -/
def IsAwaited (s : Session) (receive : ReceiveId) : Prop :=
  ∃ (id : TaskId) (cancelled : Bool) (outcome : Outcome),
    s.statuses[id]? = some (.blocked (.closing receive cancelled outcome))

/-- Who waits to close the socket goes on waiting until the operation is over. -/
theorem Passes.awaited (passes : Passes given s t) (prompt : s.Prompt) {receive : ReceiveId}
    (awaited : s.IsAwaited receive) : t.IsAwaited receive ∨ s.IsOver receive := by
  obtain ⟨id, cancelled, outcome, blocked⟩ := awaited
  obtain ⟨new, now, passage⟩ := passes.passage blocked
  cases passage with
  | same => exact .inl ⟨id, cancelled, outcome, now⟩
  | urges => exact .inl ⟨id, true, outcome, now⟩
  | wakes wait unclosing => cases unclosing
  | tells signal told wait =>
    have heard : 0 < s.heard id := by
      have queued := List.count_pos_iff.mpr told
      unfold heard
      omega
    obtain ⟨wait, blocked', hears⟩ := (prompt id).hears heard
    cases blocked.symm.trans blocked'
    exact .inr (hears.signal told receive rfl)
  | resumes turn awake => cases awake
  | ends turn awake => cases awake

/-- An operation that is not over is the one that the receiver is at, or some call of close waits
for its end. -/
def Accompanied (s : Session) : Prop :=
  ∀ (i : ReceiveId) (found : Receive), s.receives[i]? = some found → found.isFinished = false →
    s.state? = some (.receiving i) ∨ s.IsAwaited i

theorem Change.accompanied (change : Change given s t) (fit : s.Fit) (socket : s.layer = .socket)
    (books : s.Books) (owned : s.Owned) (prompt : s.Prompt) (h : s.Accompanied) :
    t.Accompanied := by
  have passes := change.passes fit
  have onward := change.onward fit
  intro i found there going
  cases change.upkeep fit with
  | starts free receiver idle provided receives statuses after =>
    rw [receives] at there
    rcases getElem?_concat_eq_some.mp there with old | ⟨rfl, -⟩
    · rcases h i found old going with state | awaited
      · cases state.symm.trans ((state?_eq receiver).trans (congrArg some idle))
      · exact .inr (by rwa [IsAwaited, statuses])
    · exact .inl after
  | stays length sizes proceeds =>
    obtain ⟨old, here, goes⟩ := onward.before length there
    have running := goes.running_of going
    rcases h i old here running with state | awaited
    · cases proceeds with
      | same same => exact .inl (same.trans state)
      | stops before after reason =>
        cases state.symm.trans before
        cases reason with
        | closes socket id outcome waits => exact .inr ⟨id, false, outcome, waits⟩
        | halts other => exact absurd socket other
        | shut closed handle =>
          -- The endpoint of an open socket is open.
          have isOpen : s.isHandleClosed socketHandle = false := by simpa [socket] using handle
          have some := openHandles_pos (fit.socket socket) isOpen
          exact absurd (books.closed.mp closed) some.ne'
      | @keeps receive taken held there brought after =>
        -- The receiver is at one operation, which is over when it has brought something.
        have same := (owned.latest receive held).trans (owned.latest i (.inl state)).symm
        cases Nat.succ.inj same
        cases here.symm.trans there
        cases running.symm.trans (Receive.isFinished_of_hasBrought brought)
    · rcases passes.awaited prompt awaited with still | ⟨found', here', finished⟩
      · exact .inr still
      · cases here.symm.trans here'
        cases running.symm.trans finished

/-- What all changes keep of a socket. -/
structure Managed (s : Session) : Prop where
  socket : s.layer = .socket
  single : s.Single
  books : s.Books
  owned : s.Owned
  prompt : s.Prompt
  remembers : s.Remembers
  accompanied : s.Accompanied

theorem Change.managed (change : Change given s t) (fit : s.Fit) (h : s.Managed) :
    t.Managed where
  socket := (change.layer fit).trans h.socket
  single := change.single fit h.single
  books := change.books fit h.socket h.books
  owned := change.owned fit h.single h.owned
  prompt := change.prompt fit h.prompt
  remembers := change.remembers fit h.owned h.remembers
  accompanied := change.accompanied fit h.socket h.books h.owned h.prompt h.accompanied

theorem Managed.start {codec : Codec} {settings : Settings} {e : Endpoint} {limit : Int}
    (unused : IsFresh e) : (fresh .socket codec settings e limit).Managed where
  socket := rfl
  single := .start
  books := .start unused
  owned := .start
  prompt := .start unused
  remembers := .start
  accompanied := fun i found there => by cases there

end Awaiting

section Orderly

/-- Nobody is in the course of a turn. -/
def Calm (s : Session) : Prop := ∀ (id : TaskId) (cancelled : Bool),
  s.statuses[id]? ≠ some (.running cancelled)

/-- Some call of close waits for the end of an operation. -/
def IsBeingClosed (s : Session) : Prop := ∃ status ∈ s.statuses, status.isClosing = true

instance (s : Session) : Decidable s.IsBeingClosed :=
  inferInstanceAs (Decidable (∃ status ∈ s.statuses, status.isClosing = true))

theorem isBeingClosed_of {status : TaskStatus} (found : s.statuses[id]? = some status)
    (closing : status.isClosing = true) : s.IsBeingClosed :=
  ⟨status, List.mem_of_getElem? found, closing⟩

/-- Whoever runs did so before, or was given the turn. -/
theorem Passes.running (passes : Passes given s t) {cancelled : Bool}
    (runs : t.statuses[id]? = some (.running cancelled)) :
    (∃ cancelled, s.statuses[id]? = some (.running cancelled)) ∨ given = some (.resume id) := by
  rcases passes.status id _ runs with ⟨-, action, new⟩ | ⟨old, before, passage⟩
  · cases new
  · cases passage with
    | same => exact .inl ⟨cancelled, before⟩
    | resumes turn awake => exact .inr turn
    | goes earlier new unpulled unclosing => exact .inl ⟨earlier, before⟩

/-- Whoever waits to close the socket did so before, or has just stopped the receiver. -/
theorem Passes.closing (passes : Passes given s t) (waits : t.IsBeingClosed) :
    s.IsBeingClosed ∨ ∃ (id : TaskId) (status : TaskStatus),
      s.statuses[id]? = some (.running false) ∧ t.statuses[id]? = some status ∧
        status.isRunning = false ∧ t.IsIdle := by
  obtain ⟨status, member, closing⟩ := waits
  obtain ⟨id, found⟩ := List.mem_iff_getElem?.mp member
  rcases passes.status id status found with ⟨-, action, rfl⟩ | ⟨old, before, passage⟩
  · cases closing
  · cases passage with
    | same => exact .inl (isBeingClosed_of before closing)
    | dooms action cancelled => cases closing
    | wakes wait unclosing => exact .inl (isBeingClosed_of before closing)
    | marks wait wake => exact .inl (isBeingClosed_of before closing)
    | urges receive cancelled outcome => exact .inl (isBeingClosed_of before rfl)
    | tells signal told wait => exact .inl (isBeingClosed_of before closing)
    | resumes turn awake => cases closing
    | ends turn awake outcome => cases closing
    | goes cancelled new unpulled unclosing => cases unclosing.symm.trans closing
    | joins pull free receiver waits current => cases closing
    | closes receive outcome idle => exact .inr ⟨id, _, before, found, rfl, idle⟩

theorem Calm.keep (h : s.Calm) (passes : Passes none s t) : t.Calm := by
  intro id cancelled runs
  rcases passes.running runs with ⟨earlier, before⟩ | turn
  · exact h id earlier before
  · cases turn

/-- Along a turn: one task runs at most, and the receiver is idle when the socket is closed or
about to be. A task that is about to close it does not run. -/
structure Orderly (s : Session) : Prop where
  one : ∀ (i j : TaskId) (a b : Bool), s.statuses[i]? = some (.running a) →
    s.statuses[j]? = some (.running b) → i = j
  closing : s.IsBeingClosed → s.IsIdle ∧ s.Calm
  closed : s.isHandleClosed socketHandle = true → s.IsIdle

theorem Shift.calm (shift : Shift s t) (idle : s.IsIdle) (calm : s.Calm) : t.IsIdle := by
  rcases shift.idle idle with idle | starts
  · exact idle
  · obtain ⟨id, cancelled, runs⟩ := starts.runs
    exact absurd runs (calm id cancelled)

theorem Shift.shut (shift : Shift s t) (idle : s.IsIdle)
    (closed : s.isHandleClosed socketHandle = true) : t.IsIdle := by
  rcases shift.idle idle with idle | starts
  · exact idle
  · cases starts.isOpen.symm.trans closed

theorem Change.orderly (change : Change none s t) (fit : s.Fit) (socket : s.layer = .socket)
    (h : s.Orderly) : t.Orderly := by
  have passes := change.passes fit
  have shift := change.shift fit socket
  have before {i : TaskId} {a : Bool} (runs : t.statuses[i]? = some (.running a)) :
      ∃ b, s.statuses[i]? = some (.running b) := by
    rcases passes.running runs with earlier | turn
    · exact earlier
    · cases turn
  constructor
  case one =>
    intro i j a b first second
    obtain ⟨a, first⟩ := before first
    obtain ⟨b, second⟩ := before second
    exact h.one i j a b first second
  case closing =>
    intro waits
    rcases passes.closing waits with earlier | ⟨id, status, runs, found, halted, idle⟩
    · obtain ⟨idle, calm⟩ := h.closing earlier
      exact ⟨shift.calm idle calm, calm.keep passes⟩
    · refine ⟨idle, fun i a now => ?_⟩
      obtain ⟨b, earlier⟩ := before now
      cases h.one i id b false earlier runs
      cases found.symm.trans now
      cases halted
  case closed =>
    intro closed
    rcases shift.closes closed with earlier | idle | ⟨id, receive, outcome, waited⟩
    · exact shift.shut (h.closed earlier) earlier
    · exact idle
    · obtain ⟨idle, calm⟩ := h.closing (isBeingClosed_of waited rfl)
      exact shift.calm idle calm

/-- A turn may be taken when nobody runs and no call of close waits. -/
theorem Change.orderly_of_calm (change : Change given s t) (fit : s.Fit)
    (socket : s.layer = .socket) (h : s.Orderly) (calm : s.Calm) (nobody : ¬ s.IsBeingClosed) :
    t.Orderly := by
  have passes := change.passes fit
  have shift := change.shift fit socket
  have turned {i : TaskId} {a : Bool} (runs : t.statuses[i]? = some (.running a)) :
      given = some (.resume i) := by
    rcases passes.running runs with ⟨b, before⟩ | turn
    · exact absurd before (calm i b)
    · exact turn
  constructor
  case one =>
    intro i j a b first second
    cases (turned first).symm.trans (turned second)
    rfl
  case closing =>
    intro waits
    rcases passes.closing waits with earlier | ⟨id, status, runs, -⟩
    · exact absurd earlier nobody
    · exact absurd runs (calm id false)
  case closed =>
    intro closed
    rcases shift.closes closed with earlier | idle | ⟨id, receive, outcome, waited⟩
    · exact shift.shut (h.closed earlier) earlier
    · exact idle
    · exact absurd (isBeingClosed_of waited rfl) nobody

/-- As long as no operation is started, an idle receiver stays idle. -/
theorem Course.idle (course : Course given s t) (fit : s.Fit) (socket : s.layer = .socket)
    (idle : s.IsIdle) (same : t.receives.length = s.receives.length) : t.IsIdle := by
  let n := s.receives.length
  have kept (given' : Option Turn) (u v : Session) (_ : given' = none ∨ given' = given)
      (change : Change given' u v) (fit : u.Fit)
      (h : u.layer = .socket ∧ n ≤ u.receives.length ∧ (u.receives.length = n → u.IsIdle)) :
      v.layer = .socket ∧ n ≤ v.receives.length ∧ (v.receives.length = n → v.IsIdle) := by
    obtain ⟨socket, more, idle⟩ := h
    have shift := change.shift fit socket
    refine ⟨(change.layer fit).trans socket, ?_, fun same => ?_⟩
    · rcases shift.length with length | starts
      · exact length ▸ more
      · exact starts.length ▸ Nat.le_succ_of_le more
    · -- Operations are never taken away, so that there were as many in between.
      have earlier : u.receives.length = n := by
        rcases shift.length with length | starts
        · exact length.symm.trans same
        · have length := starts.length
          omega
      rcases shift.idle (idle earlier) with idle | starts
      · exact idle
      · have length := starts.length
        omega
  obtain ⟨-, -, -, idle⟩ := course.keep fit kept ⟨socket, Nat.le_refl n, fun _ => idle⟩
  exact idle same

/-- When nobody runs and no call of close waits, a whole turn keeps the order: before the task is
given its turn nobody runs, and from then on that task alone. -/
theorem Course.orderly (course : Course given s t) (fit : s.Fit) (socket : s.layer = .socket)
    (calm : s.Calm) (nobody : ¬ s.IsBeingClosed)
    (closed : s.isHandleClosed socketHandle = true → s.IsIdle) : t.Orderly := by
  obtain ⟨u, v, before, taken, after⟩ := course
  have opening (u v : Session) (change : Change none u v) (fit : u.Fit)
      (h : u.layer = .socket ∧ u.Orderly ∧ u.Calm ∧ ¬ u.IsBeingClosed) :
      v.layer = .socket ∧ v.Orderly ∧ v.Calm ∧ ¬ v.IsBeingClosed := by
    obtain ⟨socket, orderly, calm, nobody⟩ := h
    have passes := change.passes fit
    refine ⟨(change.layer fit).trans socket, change.orderly fit socket orderly,
      calm.keep passes, fun waits => ?_⟩
    rcases passes.closing waits with earlier | ⟨id, status, runs, -⟩
    · exact nobody earlier
    · exact calm id false runs
  have ending (u v : Session) (change : Change none u v) (fit : u.Fit)
      (h : u.layer = .socket ∧ u.Orderly) : v.layer = .socket ∧ v.Orderly :=
    ⟨(change.layer fit).trans h.1, change.orderly fit h.1 h.2⟩
  have start : s.Orderly :=
    ⟨fun i _ a _ runs => absurd runs (calm i a), fun waits => absurd waits nobody, closed⟩
  obtain ⟨socket, orderly, calm, nobody⟩ :=
    before.keep opening fit ⟨socket, start, calm, nobody⟩
  have fit := before.fit fit
  have goesOn : v.Fit ∧ v.layer = .socket ∧ v.Orderly := by
    cases taken with
    | refl => exact ⟨fit, socket, orderly⟩
    | single change =>
      exact ⟨change.fit fit, (change.layer fit).trans socket,
        change.orderly_of_calm fit socket orderly calm nobody⟩
  obtain ⟨fit, socket, orderly⟩ := goesOn
  exact (after.keep ending fit ⟨socket, orderly⟩).2

theorem not_running_set {status : TaskStatus} (other : status.isRunning = false)
    (statuses : t.statuses = s.statuses.set id status) (cancelled : Bool) :
    t.statuses[id]? ≠ some (.running cancelled) := by
  intro runs
  rw [statuses, List.getElem?_set] at runs
  simp only [if_true] at runs
  split at runs
  · cases runs
    cases other
  · cases runs

theorem not_running_settle (s : Session) (id : TaskId) (progress : Progress) (cancelled : Bool) :
    (s.settle id progress).statuses[id]? ≠ some (.running cancelled) := by
  cases progress with
  | blocked wait => exact not_running_set rfl (s.statuses_setStatus id (.blocked wait)) cancelled
  | finished outcome =>
    rw [settle]
    split
    · exact not_running_set rfl (s.statuses_finish id .cancelled) cancelled
    · exact not_running_set rfl (s.statuses_finish id outcome) cancelled

/-- Between turns nobody runs. -/
theorem Calm.choose (calm : s.Calm) (fit : s.Fit) {choice : Choice}
    (calls : Calls s.layer [choice]) : (s.choose choice).Calm := by
  have course := choose_course fit calls
  have kept (given' : Option Turn) (u v : Session) (same : given' = none ∨ given' = s.given? choice)
      (change : Change given' u v) (fit : u.Fit)
      (h : ∀ (id : TaskId) (cancelled : Bool), u.statuses[id]? = some (.running cancelled) →
        s.given? choice = some (.resume id)) :
      ∀ (id : TaskId) (cancelled : Bool), v.statuses[id]? = some (.running cancelled) →
        s.given? choice = some (.resume id) := by
    intro id cancelled runs
    rcases (change.passes fit).running runs with ⟨earlier, before⟩ | turn
    · exact h id earlier before
    · rcases same with rfl | rfl
      · cases turn
      · exact turn
  obtain ⟨-, turned⟩ := course.keep fit kept fun id cancelled runs =>
    absurd runs (calm id cancelled)
  intro id cancelled runs
  have turn := turned id cancelled runs
  cases choice with
  | spawn name action => cases turn
  | turn place =>
    have first : s.ready[place]? = some (.resume id) := turn
    change (s.turnAt place).statuses[id]? = some (.running cancelled) at runs
    rw [turnAt, first] at runs
    change ({ s with ready := s.ready.eraseIdx place }.resume id).statuses[id]? = _ at runs
    rw [resume] at runs
    split at runs
    · exact not_running_set rfl (statuses_finish _ id .cancelled) cancelled runs
    · exact not_running_settle _ id _ cancelled runs
    · exact not_running_settle _ id _ cancelled runs
    · exact calm id cancelled runs

/-- No operation is started while a call of close waits. -/
def Undisturbed (s : Session) : List Choice → Prop
  | [] => True
  | choice :: rest =>
    (s.IsBeingClosed → (s.choose choice).receives.length = s.receives.length) ∧
      (s.choose choice).Undisturbed rest

instance decidableUndisturbed : (s : Session) → (choices : List Choice) →
    Decidable (s.Undisturbed choices)
  | _, [] => inferInstanceAs (Decidable True)
  | s, choice :: rest =>
    have := decidableUndisturbed (s.choose choice) rest
    inferInstanceAs (Decidable (
      (s.IsBeingClosed → (s.choose choice).receives.length = s.receives.length) ∧
        (s.choose choice).Undisturbed rest))

/-- A socket between turns, with a receiver that is idle when it is closed or about to be. -/
structure Tidy (s : Session) : Prop where
  fit : s.Fit
  managed : s.Managed
  calm : s.Calm
  closing : s.IsBeingClosed → s.IsIdle
  closed : s.isHandleClosed socketHandle = true → s.IsIdle

theorem Tidy.choose (h : s.Tidy) {choice : Choice} (calls : Calls .socket [choice])
    (undisturbed : s.IsBeingClosed → (s.choose choice).receives.length = s.receives.length) :
    (s.choose choice).Tidy := by
  have socket := h.managed.socket
  have calls : Calls s.layer [choice] := socket ▸ calls
  have course := choose_course h.fit calls
  have idle : ((s.choose choice).IsBeingClosed → (s.choose choice).IsIdle) ∧
      ((s.choose choice).isHandleClosed socketHandle = true → (s.choose choice).IsIdle) := by
    by_cases waits : s.IsBeingClosed
    · have idle := course.idle h.fit socket (h.closing waits) (undisturbed waits)
      exact ⟨fun _ => idle, fun _ => idle⟩
    · have orderly := course.orderly h.fit socket h.calm waits h.closed
      exact ⟨fun waits => (orderly.closing waits).1, orderly.closed⟩
  obtain ⟨closing, closed⟩ := idle
  obtain ⟨fit, managed⟩ := course.keep h.fit
    (fun _ _ _ _ change fit managed => change.managed fit managed) h.managed
  exact ⟨fit, managed, h.calm.choose h.fit calls, closing, closed⟩

theorem Tidy.schedule {choices : List Choice} (h : s.Tidy) (calls : Calls .socket choices)
    (undisturbed : s.Undisturbed choices) : (s.schedule choices).Tidy := by
  induction choices generalizing s with
  | nil => exact h
  | cons choice rest ih =>
    obtain ⟨first, later⟩ := calls.head
    exact ih (h.choose first undisturbed.1) later undisturbed.2

theorem Tidy.start {codec : Codec} {settings : Settings} {e : Endpoint} {limit : Int}
    (calm : codec.IsCalm) (unused : IsFresh e) :
    (fresh .socket codec settings e limit).Tidy where
  fit := Fit.start calm unused.waiting
  managed := .start unused
  calm := fun id cancelled runs => by cases runs
  closing := fun ⟨status, member, _⟩ => by cases member
  closed := fun closed => by cases closed

end Orderly

end Session

end Osc
