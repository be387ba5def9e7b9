import Osc.Session.Perform

/-!
Running a session. Events start tasks and give turns, in any order; to play a step is to
start its tasks and then give turns until nobody is ready.
-/

namespace Osc.Session

def finish (s : Session) (id : TaskId) (outcome : Outcome) : Session :=
  { s.setStatus id (.finished outcome) with finished := s.finished ++ [id] }

/-- Ends a turn. A task that cancelled itself on the way to its end is cancelled. -/
def settle (s : Session) (id : TaskId) : Progress → Session
  | .blocked wait => s.setStatus id (.blocked wait)
  | .finished outcome =>
    match (s.task? id).map Task.status with
    | some (.running true) => s.finish id .cancelled
    | _ => s.finish id outcome

/-- One turn of a task. One that is cancelled before its first turn does nothing. -/
def resume (s : Session) (id : TaskId) : Session :=
  match (s.task? id).map Task.status with
  | some (.queued _ true) => s.finish id .cancelled
  | some (.queued action false) =>
    let (s, progress) := (s.setStatus id (.running false)).begin id action
    s.settle id progress
  | some (.woken wait wake) =>
    let (s, progress) := (s.setStatus id (.running false)).proceed id wake wait
    s.settle id progress
  | _ => s

/-- Gives the first turn of the queue. -/
def turn (s : Session) : Session :=
  match s.ready with
  | [] => s
  | .resume id :: rest => { s with ready := rest }.resume id
  | .signal id :: rest => { s with ready := rest }.signal id
  | .receive id :: rest => { s with ready := rest }.turnReceive id

/-- Starts a task; its first turn comes after those that are queued. -/
def spawn (s : Session) (name : Text) (action : Action) : Session :=
  { s with tasks := s.tasks ++ [Task.start name action] }.queue
    [.resume s.tasks.length]

inductive Event where
  | spawn (name : Text) (action : Action)
  | turn

def step (s : Session) : Event → Session
  | .spawn name action => s.spawn name action
  | .turn => s.turn

def run (s : Session) (events : List Event) : Session := events.foldl step s

def isQuiet (s : Session) : Bool := s.ready.isEmpty

/-- Gives turns until nobody is ready, at most as many as the fuel. -/
def runQuiet : Nat → Session → Session
  | 0, s => s
  | fuel + 1, s => if s.isQuiet then s else runQuiet fuel s.turn

/-- Enough turns for a step: each task, each receive operation and each arrival brings
about a few. -/
def turnBound (s : Session) : Nat :=
  64 * (s.ready.length + s.tasks.length + s.receives.length + s.network.inbox.arrivals.length + 1)

/-- Starts tasks in order and gives turns until nobody is ready. -/
def play (s : Session) (tasks : List (Text × Action)) : Session :=
  let s := tasks.foldl (fun s (name, action) => s.spawn name action) s
  runQuiet s.turnBound s

end Osc.Session
