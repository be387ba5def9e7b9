import Osc.Datagram

/-!
The arrivals at an endpoint that nobody has taken yet, and those who wait for one, in the
order in which they came. Putting an arrival down wakes the first who waits and does not
hand the arrival over: whoever looks first takes it.
-/

namespace Osc

/-- Places of tasks, receive operations and buffers in the lists that hold them. -/
abbrev TaskId := Nat

abbrev ReceiveId := Nat

abbrev BufferId := Nat

inductive Taker where
  | task (id : TaskId)
  | receive (id : ReceiveId)
deriving DecidableEq

structure Inbox where
  arrivals : List Arrival
  waiting : List Taker

namespace Inbox

def empty : Inbox := ⟨[], []⟩

/-- Wakes the first who waits. -/
def wake (inbox : Inbox) : Inbox × Option Taker :=
  ({ inbox with waiting := inbox.waiting.tail }, inbox.waiting.head?)

def put (inbox : Inbox) (arrival : Arrival) : Inbox × Option Taker :=
  wake { inbox with arrivals := inbox.arrivals ++ [arrival] }

def take? (inbox : Inbox) : Option (Arrival × Inbox) :=
  match inbox.arrivals with
  | [] => none
  | arrival :: rest => some (arrival, { inbox with arrivals := rest })

def wait (inbox : Inbox) (taker : Taker) : Inbox :=
  { inbox with waiting := inbox.waiting ++ [taker] }

def leave (inbox : Inbox) (taker : Taker) : Inbox :=
  { inbox with waiting := inbox.waiting.erase taker }

/-- Wakes the next one in the place of one who was woken and does not take what is there. -/
def pass (inbox : Inbox) : Inbox × Option Taker :=
  if inbox.arrivals.isEmpty then (inbox, none) else inbox.wake

end Inbox

end Osc
