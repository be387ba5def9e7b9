import Osc.Session.Run

/-!
What can be seen of a session between its steps.
-/

namespace Osc.Session

/-- The names of the tasks that wait, in order. -/
def pending (s : Session) : List Text :=
  ((s.tasks.filter fun t => !t.isFinished).map Task.name).mergeSort Text.before

/-- The tasks that ended after the first ones, with their outcomes. -/
def finishedAfter (s : Session) (count : Nat) : List (Text × Outcome) :=
  (s.finished.drop count).filterMap fun id =>
    (s.task? id).bind fun t => t.outcome?.map fun outcome => (t.name, outcome)

/-- The number of receives that are inside the endpoint. -/
def inFlight (s : Session) : Nat :=
  (s.receives.filter Receive.isInside).length + (s.tasks.filter fun t =>
    match t.status with
    | .blocked (.taking _) | .woken (.taking _) _ => true
    | _ => false).length

/-- The sizes of the buffers that the endpoint was given. -/
def handedSizes (s : Session) : List Nat := s.handed.map fun id => (s.buffer id).size

/-- Each handle's name with whether the latest handle of that name is closed. -/
def handleStates (s : Session) : List (Text × Bool) :=
  (s.handles.filterMap fun h => (s.handleId? h.name).map fun id => (h.name, s.isHandleClosed id))

end Osc.Session
