import Mathlib.Tactic
import Osc.Session.Run

/-!
Schedules: the steps of a session in any order at all. Tasks are started and turns are
given as in a run, but a turn may go to anyone in the queue, so whatever an order of
arrivals, pulls and cancellations can bring about is the outcome of some schedule. A run
is the schedule in which it is always the turn of the first.

What a schedule is judged by is its history: the actions whose tasks have ended, each
with its outcome, in the order in which they ended.
-/

namespace Osc

/-- What happens around a receiver: something arrives, a task pulls, a task is cancelled. -/
def Action.isTraffic : Action → Bool
  | .feed _ | .next _ | .cancel _ => true
  | _ => false

def Action.isPull : Action → Bool
  | .next _ => true
  | _ => false

/-- A task inside a pull, on which the receiver is said to be waiting. -/
def TaskStatus.isPulling : TaskStatus → Bool
  | .blocked (.pulling ..) | .woken (.pulling ..) _ => true
  | _ => false

def TaskStatus.isOver : TaskStatus → Bool
  | .finished _ => true
  | _ => false

/-- A task with a pull that is not over, which it may not have reached yet. -/
def TaskStatus.isPull : TaskStatus → Bool
  | .queued action _ => action.isPull
  | status => status.isPulling

/-- A task that was cancelled, whether it has noticed or not. -/
def TaskStatus.isCancelled : TaskStatus → Bool
  | .queued _ cancelled | .running cancelled => cancelled
  | .woken _ wake => wake.isCancelled
  | .finished .cancelled => true
  | _ => false

/-- What a pull ends with that gets an arrival, at a given capacity. -/
def Arrival.delivery (capacity : Nat) : Arrival → Outcome
  | .datagram data peer =>
    .value (.datagram (some ⟨data.take capacity, peer, decide (capacity < data.length)⟩))
  | .failure error => .fault (.transport (.receive error))

namespace Session

inductive Choice where
  | spawn (name : Text) (action : Action)
  | turn (place : Nat)

def giveTurn (s : Session) : Turn → Session
  | .resume id => s.resume id
  | .signal id => s.signal id
  | .receive id => s.turnReceive id

/-- Gives the turn at a place of the queue. -/
def turnAt (s : Session) (place : Nat) : Session :=
  match s.ready[place]? with
  | none => s
  | some turn => { s with ready := s.ready.eraseIdx place }.giveTurn turn

def choose (s : Session) : Choice → Session
  | .spawn name action => s.spawn name action
  | .turn place => s.turnAt place

def schedule (s : Session) (choices : List Choice) : Session := choices.foldl choose s

theorem schedule_append (s : Session) (first rest : List Choice) :
    s.schedule (first ++ rest) = (s.schedule first).schedule rest := List.foldl_append

def Event.choice : Event → Choice
  | .spawn name action => .spawn name action
  | .turn => .turn 0

theorem turnAt_zero (s : Session) : s.turnAt 0 = s.turn := by
  obtain ⟨layer, codec, settings, link, buffers, handed, receives, receiver, references, handles,
    tasks, ready, finished, warnings⟩ := s
  cases ready with
  | nil => rfl
  | cons turn rest => cases turn <;> rfl

/-- Runs are schedules. -/
theorem run_eq_schedule (s : Session) (events : List Event) :
    s.run events = s.schedule (events.map Event.choice) := by
  have step (s : Session) (event : Event) : s.step event = s.choose event.choice := by
    cases event with
    | spawn name action => rfl
    | turn => exact s.turnAt_zero.symm
  induction events generalizing s with
  | nil => rfl
  | cons event events ih =>
    rw [run, List.foldl_cons, step]
    exact ih _

/-- The actions that a schedule starts; the place of each is its task. -/
def actions (choices : List Choice) : List Action :=
  choices.filterMap fun
    | .spawn _ action => some action
    | .turn _ => none

/-- There is only traffic, and a pull is started only when all earlier ones are over. -/
def permits (s : Session) : Choice → Prop
  | .spawn _ action => action.isTraffic = true ∧
      (action.isPull = true → ∀ t ∈ s.tasks, t.status.isPull = false)
  | .turn _ => True

/-- Along a schedule one consumer pulls at a time. -/
def OneConsumer (s : Session) : List Choice → Prop
  | [] => True
  | choice :: rest => s.permits choice ∧ (s.choose choice).OneConsumer rest

instance (s : Session) : (choice : Choice) → Decidable (s.permits choice)
  | .spawn _ action => inferInstanceAs (Decidable (action.isTraffic = true ∧
      (action.isPull = true → ∀ t ∈ s.tasks, t.status.isPull = false)))
  | .turn _ => inferInstanceAs (Decidable True)

instance decidableOneConsumer : (s : Session) → (choices : List Choice) →
    Decidable (s.OneConsumer choices)
  | _, [] => inferInstanceAs (Decidable True)
  | s, choice :: rest =>
    have := decidableOneConsumer (s.choose choice) rest
    inferInstanceAs (Decidable (s.permits choice ∧ (s.choose choice).OneConsumer rest))

/-- What each task did that has ended, and how it ended, in the order in which they did. -/
def history (s : Session) (actions : List Action) : List (Action × Outcome) :=
  s.finished.filterMap fun id =>
    (actions[id]?).bind fun action => ((s.task? id).bind Task.outcome?).map (action, ·)

/-- What has arrived. -/
def arrived (history : List (Action × Outcome)) : List Arrival :=
  history.filterMap fun
    | (.feed arrival, .value .nothing) => some arrival
    | _ => none

/-- The outcomes of the pulls that were not cancelled. -/
def pulled (history : List (Action × Outcome)) : List Outcome :=
  history.filterMap fun
    | (.next _, .cancelled) => none
    | (.next _, outcome) => some outcome
    | _ => none

end Session

end Osc
