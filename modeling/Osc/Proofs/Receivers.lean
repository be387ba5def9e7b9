import Osc.Proofs.Handles
import Osc.Proofs.Hearing
import Osc.Proofs.Waiting

/-!
A receiver in every run, whatever tasks pull, cancel each other, stop the receiver or close its
endpoint, whatever arrives, and in whatever order turns are given: who waits on it, which operation
needs an arrival, whom a buffer belongs to, and when a new one is made.
-/

namespace Osc

namespace Session

variable {s : Session}

/-- A receiver of some capacity in good order. -/
structure InOrder (capacity : Int) (s : Session) : Prop where
  /-- At most one operation is neither over nor asked to stop. -/
  one : ∀ (i j : ReceiveId) (a b : Receive), s.receives[i]? = some a → s.receives[j]? = some b →
    a.isFinished = false → a.status.isAsked = false →
    b.isFinished = false → b.status.isAsked = false → i = j
  /-- The receiver is waited on exactly while one task is inside a pull. -/
  waiting : s.receiver.any Receiver.waiting = true ↔ ∃! id, s.IsInside id
  /-- While a task is inside a pull and the endpoint is open, the pull of another is refused in its
  turn, and nothing else happens. -/
  refused : ∀ (first second : TaskId) (place patience : Nat), s.IsInside first →
    s.isEndpointClosed = false → s.ready[place]? = some (.resume second) →
    s.statuses[second]? = some (.queued (.next patience) false) →
    s.turnAt place = { s with ready := s.ready.eraseIdx place }.finish second
      (.fault (.runtime .alreadyReceiving))
  /-- A task inside a pull that was never asked to stop goes on when its operation is over, and not
  before that. Then it has a turn in which it is told, or, once it was told, one in which it ends
  with what the operation has come to. -/
  served : ∀ (id : TaskId) (receive : ReceiveId) (patience : Nat), s.cancelRequests id = 0 →
    let wait := Wait.pulling receive ⟨.datagram, patience⟩
    (s.statuses[id]? = some (.blocked wait) → s.IsOver receive → .signal id ∈ s.ready) ∧
    ∀ wake, s.statuses[id]? = some (.woken wait wake) → .resume id ∈ s.ready ∧
      ∃ found outcome, s.receives[receive]? = some found ∧ found.outcome? = some outcome ∧
        ∀ place, s.ready[place]? = some (.resume id) → (s.turnAt place).statuses[id]? =
          some (.finished (outcome.result capacity (s.buffer found.buffer)))
  /-- Every buffer, and so that of every operation, has one byte more than the capacity. -/
  sizes : (∀ b ∈ s.buffers, (b.size : Int) = capacity + 1) ∧
    ∀ a ∈ s.receives, a.buffer < s.buffers.length
  /-- What an idle receiver holds is a buffer that belongs to no operation that is not over. -/
  spare : ∀ b, s.state? = some (.idle (some b)) →
    b < s.buffers.length ∧ ∀ a ∈ s.receives, a.isFinished = false → a.buffer ≠ b
  /-- No two operations that are not over have the same buffer. -/
  alone : ∀ (i j : ReceiveId) (a b : Receive), s.receives[i]? = some a → s.receives[j]? = some b →
    a.isFinished = false → b.isFinished = false → a.buffer = b.buffer → i = j

/-- What all changes keep of a receiver. -/
structure Tended (s : Session) : Prop where
  layer : s.layer = .receiver
  single : s.Single
  owned : s.Owned
  minded : s.IsMinded
  prompt : s.Prompt
  remembers : s.Remembers

theorem Change.tended {given : Option Turn} {s t : Session} (change : Change given s t)
    (fit : s.Fit) (h : s.Tended) : t.Tended where
  layer := (change.layer fit).trans h.layer
  single := change.single fit h.single
  owned := change.owned fit h.single h.owned
  minded := change.isMinded fit h.minded
  prompt := change.prompt fit h.prompt
  remembers := change.remembers fit h.owned h.remembers

theorem Tended.start {codec : Codec} {settings : Settings} {e : Endpoint} {limit : Int}
    (unused : IsFresh e) : (fresh .receiver codec settings e limit).Tended where
  layer := rfl
  single := .start
  owned := .start
  minded := nofun
  prompt := .start unused
  remembers := .start

theorem Tended.inOrder {capacity : Int} (h : s.Tended) (fit : s.Fit) (room : 0 ≤ capacity + 1)
    (limit : ∀ r, s.receiver = some r → r.limit = capacity) : s.InOrder capacity := by
  obtain ⟨e, up⟩ := fit.up
  obtain ⟨r, receiver⟩ := fit.receiver
  constructor
  case one =>
    intro i j a b there there' going unasked going' unasked'
    have first :=
      h.single.current i r a receiver there (by simp [Receive.isSettled, going, unasked])
    have second :=
      h.single.current j r b receiver there' (by simp [Receive.isSettled, going', unasked'])
    exact ReceiverState.receiving.inj (first.symm.trans second)
  case waiting => exact waiting_iff h.single h.minded
  case refused =>
    rintro first second place patience ⟨receive, pulls⟩ opened turn queued
    have opened : e.closed = false := by
      simpa only [isEndpointClosed, endpoint?, up, Option.any_some] using opened
    exact turnAt_refused h.layer up opened (h.single.inside first receive pulls) turn queued
  case served =>
    intro id receive patience unasked wait
    constructor
    · exact fun blocked ended => (h.remembers id).turn rfl ended blocked
    · intro wake woken
      obtain ⟨rfl, turn⟩ := (h.remembers id).due unasked woken
      obtain ⟨found, there, finished⟩ := (h.prompt id).woken receive _ woken
      obtain ⟨outcome, ended⟩ := Option.isSome_iff_exists.mp finished
      refine ⟨turn, found, outcome, there, ended, fun place first => ?_⟩
      rw [← limit r receiver]
      exact turnAt_told receiver first woken unasked there ended
  case sizes =>
    refine ⟨fun b member => ?_, h.owned.room⟩
    rw [h.owned.sizes r receiver b member, Receiver.bufferSize, limit r receiver]
    exact Int.toNat_of_nonneg room
  case spare => exact h.owned.spare
  case alone =>
    intro i j a b there there' going going'
    exact h.owned.alone i j a b there there' (.inl going) going'

/-- Good order, and what a receiver and its buffers have been through since, along a schedule. -/
theorem Tended.schedule {before later : List Choice} (h : s.Tended) (fit : s.Fit)
    (calls : Calls .receiver (before ++ later)) :
    (s.schedule before).Fit ∧ (s.schedule before).Tended ∧
      Segment (s.schedule before) (s.schedule (before ++ later)) := by
  obtain ⟨first, second⟩ := calls_append.mp calls
  obtain ⟨fit', tended⟩ :=
    schedule_keep (fun _ _ _ change fit => change.tended fit) fit (h.layer.symm ▸ first) h
  have below : (s.schedule before).layer ≠ .socket := by
    rw [tended.layer]
    nofun
  rw [schedule_append]
  exact ⟨fit', tended, .schedule fit' below tended.single tended.owned
    (tended.layer.symm ▸ second)⟩

/-- A buffer that is made in a step is that of an operation that is started in it, after one that
has failed or, since that was started, was stopped. -/
theorem Tended.made {t : Session} (h : s.Tended) (onward : Onward s.receives t.receives)
    (owned : t.Owned) {buffer : BufferId} (new : s.buffers.length ≤ buffer)
    (made : buffer < t.buffers.length) :
    ∃ (j : ReceiveId) (a b : Receive), s.receives.length ≤ j + 1 ∧ t.receives[j]? = some a ∧
      t.receives[j + 1]? = some b ∧ b.buffer = buffer ∧
        ∀ u, (¬ StoppedSince u t → Reuses u t) → u.receives.length ≤ j →
          a.HasFailed ∨ StoppedSince u t := by
  have some : 0 < s.buffers.length := by
    cases none : s.receives with
    | nil => exact (h.owned.spare 0 (h.owned.first none)).1
    | cons a rest => exact (Nat.zero_le _).trans_lt (h.owned.room a (by simp [none]))
  obtain ⟨j, a, b, there, there', same, other⟩ := owned.made buffer (some.trans_le new) made
  refine ⟨j, a, b, ?_, there, there', same, fun u reuses since => ?_⟩
  · by_contra old
    have here := List.getElem?_eq_getElem (Nat.not_le.mp old)
    obtain ⟨b', now, goes⟩ := onward (j + 1) _ here
    cases there'.symm.trans now
    have inside := h.owned.room _ (List.mem_of_getElem? here)
    rw [← goes.buffer, same] at inside
    exact inside.not_ge new
  · by_contra neither
    obtain ⟨unfailed, unstopped⟩ := not_or.mp neither
    rcases (reuses unstopped).pairs j a b since there there' with failed | kept
    · exact unfailed failed
    · exact other (kept.symm.trans same)

/-- In every run a receiver is in good order; operations that follow each other share a buffer as
long as none fails and no task stops the receiver; and when a buffer is made, it is for an operation
that is started after one that has failed, or after the receiver was stopped while it was at one. -/
theorem receiver_inOrder {codec : Codec} {settings : Settings} {earlier : Except Fault Settings}
    {hosts : Hosts} {e : Endpoint} {start : Session} {capacity : Int} {choices : List Choice}
    (calm : codec.IsCalm) (unused : IsFresh e)
    (whole : settings.maxDatagramSize.integer? = some capacity)
    (built : (bare .receiver codec earlier hosts).attach settings e = .ok start)
    (calls : Calls .receiver choices) :
    let s := start.schedule choices
    s.InOrder capacity ∧
    (∀ before later, choices = before ++ later →
      let u := start.schedule before
      ¬ StoppedSince u s → ∀ (i j : ReceiveId) (a b : Receive), u.receives.length ≤ i → i ≤ j →
        s.receives[i]? = some a → s.receives[j]? = some b →
        (∀ (k : ReceiveId) (c : Receive), i ≤ k → k < j → s.receives[k]? = some c →
          ¬ c.HasFailed) → b.buffer = a.buffer) ∧
    ∀ choice, Calls .receiver [choice] →
      let t := s.choose choice
      ∀ buffer, s.buffers.length ≤ buffer → buffer < t.buffers.length →
        ∃ (j : ReceiveId) (a b : Receive), s.receives.length ≤ j + 1 ∧ t.receives[j]? = some a ∧
          t.receives[j + 1]? = some b ∧ b.buffer = buffer ∧
            ∀ before later, choices = before ++ later →
              let u := start.schedule before
              u.receives.length ≤ j → a.HasFailed ∨ StoppedSince u t := by
  intro s
  obtain ⟨limit, limited, rfl⟩ := exists_fresh rfl built
  obtain ⟨rfl, room⟩ := Receiver.limitOf_eq_ok whole limited
  let start := fresh .receiver codec settings e limit
  have fit : start.Fit := Fit.start calm unused.waiting
  have tended : start.Tended := .start unused
  have segment {all before later : List Choice} (calls : Calls .receiver all)
      (parts : all = before ++ later) :
      Segment (start.schedule before) (start.schedule all) := by
    subst parts
    exact (tended.schedule fit calls).2.2
  have alone : Calls .receiver (choices ++ []) := choices.append_nil.symm ▸ calls
  obtain ⟨fit', tended', -⟩ := tended.schedule fit alone
  refine ⟨tended'.inOrder fit' room ?_, ?_, ?_⟩
  · obtain ⟨-, same⟩ := schedule_keep (P := fun t => Built start t)
      (fun _ _ _ change fit same => same.trans (change.built fit)) fit calls ⟨rfl, rfl, rfl, rfl⟩
    intro r receiver
    have bounds := same.bounds
    rw [receiver, Option.map_some] at bounds
    exact congrArg Prod.snd (Option.some.inj bounds)
  · intro before later parts u unstopped i j a b since le there there' unfailed
    exact ((segment calls parts).reuses unstopped).same since le there there' unfailed
  · intro choice call t buffer new made
    have last : start.schedule (choices ++ [choice]) = t := start.schedule_append ..
    have calls' : Calls .receiver (choices ++ [choice]) := calls_append.mpr ⟨calls, call⟩
    obtain ⟨-, onward⟩ := schedule_keep (P := fun t => Onward s.receives t.receives)
      (fun _ _ _ change fit onward => onward.trans (change.onward fit)) fit'
      (tended'.layer.symm ▸ call) (.refl _)
    have owned : t.Owned := last ▸ (segment calls' rfl).owned
    obtain ⟨j, a, b, started, there, there', same, reason⟩ := tended'.made onward owned new made
    refine ⟨j, a, b, started, there, there', same, ?_⟩
    intro before later parts u since
    have parts' : choices ++ [choice] = before ++ (later ++ [choice]) := by
      rw [parts, List.append_assoc]
    have whole : Segment u t := by
      rw [← last]
      exact segment calls' parts'
    exact reason u whole.reuses since

def idleReceiver : Session := fresh .receiver .osc .default (.inMemory (.quiet [])) 65536

/-- A task pulls, and another is about to. -/
def secondPull : List Choice := [
  .spawn (Text.ofString "a") (.next 0), .turn 0, .spawn (Text.ofString "b") (.next 0)]

/-- The receiver is stopped and the first task is cancelled, which their operation has not noticed
yet when a third task is about to pull. -/
def thirdPull : List Choice := secondPull ++ [
  .turn 1, .spawn (Text.ofString "c") .cancelReceive, .turn 1,
  .spawn (Text.ofString "d") (.cancel (Text.ofString "a")), .turn 1, .turn 1,
  .spawn (Text.ofString "e") (.next 0)]

theorem receiver_inOrder_thirdPull :
    let s := idleReceiver.schedule secondPull
    let t := idleReceiver.schedule thirdPull
    let u := t.choose (.turn 1)
    IsFresh (.inMemory (.quiet [])) ∧ Calls .receiver secondPull ∧ Calls .receiver thirdPull ∧
      s.turnAt 1 = { s with ready := [.receive 0] }.finish 1
        (.fault (.runtime .alreadyReceiving)) ∧
      t.InOrder 65536 ∧ t.receives.map Receive.isFinished = [false] ∧ t.buffers.length = 1 ∧
      u.receives.map Receive.isFinished = [false, false] ∧
      u.receives.map Receive.buffer = [0, 1] ∧ u.buffers.length = 2 ∧
      StoppedSince idleReceiver u := by
  intro s t u
  have unused : IsFresh (.inMemory (.quiet [])) := ⟨rfl, rfl, rfl, rfl⟩
  have built : (bare .receiver .osc (.ok .default) []).attach .default (.inMemory (.quiet [])) =
      .ok idleReceiver := rfl
  have second : Calls .receiver secondPull := by decide
  have third : Calls .receiver thirdPull := by decide
  obtain ⟨waited, -⟩ := receiver_inOrder Codec.osc_isCalm unused rfl built second
  obtain ⟨order, -, made⟩ := receiver_inOrder Codec.osc_isCalm unused rfl built third
  obtain ⟨j, a, b, -, there, there', same, reason⟩ :=
    made (.turn 1) (by decide) 1 (by decide +kernel) (by decide +kernel)
  refine ⟨unused, second, third, ?_, order, rfl, rfl, rfl, rfl, rfl, ?_⟩
  · have pulls : s.IsInside 0 := ⟨0, .blocked (.pulling 0 ⟨.datagram, 0⟩), rfl, rfl⟩
    exact waited.refused 0 1 1 0 pulls rfl rfl rfl
  · have running : ∀ r ∈ u.receives, r.isFinished = false := by decide +kernel
    refine (reason [] thirdPull rfl (Nat.zero_le j)).resolve_left fun failed => ?_
    cases failed.isFinished.symm.trans (running a (List.mem_of_getElem? there))

end Session

end Osc
