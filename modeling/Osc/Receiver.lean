import Osc.Allocation
import Osc.Datagram
import Osc.Inbox

/-!
A receiver takes datagrams one at a time through a buffer that it uses again and again.
Each datagram is taken by a receive operation of its own, which outlives the pull that
started it: a pull that is cancelled leaves the operation to the next one, and only
cancelling the receiver stops it. The buffer has room for one byte more than the
receiver's capacity, so a datagram that is too long shows by its count.
-/

namespace Osc

/-- How a wait ended: what was waited for has come, or the one who waited was cancelled,
after that or before. -/
inductive Wake where
  | due
  | dueCancelled
  | cancelled
deriving DecidableEq

def Wake.isCancelled : Wake → Bool
  | .due => false
  | .dueCancelled | .cancelled => true

/-- Cancelling between the end of a wait and the turn that follows it. -/
def Wake.cancel : Wake → Wake
  | .due => .dueCancelled
  | wake => wake

inductive ReceiveOutcome where
  | arrived (count : Nat) (peer : Value)
  | failed (error : OsError)
  | cancelled

/-- An operation is queued for its first turn, waits in the endpoint for an arrival, is
woken and queued for its next turn, or is over. -/
inductive ReceiveStatus where
  | queued (cancelled : Bool)
  | waiting
  | woken (wake : Wake)
  | finished (outcome : ReceiveOutcome)

/-- A receive operation: the buffer that is its own until it is over, and the tasks to tell
when it is, in the order in which they asked. -/
structure Receive where
  buffer : BufferId
  status : ReceiveStatus
  watchers : List TaskId

namespace Receive

def start (buffer : BufferId) : Receive := ⟨buffer, .queued false, []⟩

def outcome? (r : Receive) : Option ReceiveOutcome :=
  match r.status with
  | .finished outcome => some outcome
  | _ => none

def isFinished (r : Receive) : Bool := r.outcome?.isSome

def isCancelled (r : Receive) : Bool :=
  match r.status with
  | .finished .cancelled => true
  | _ => false

/-- Whether the operation is inside the endpoint. -/
def isInside (r : Receive) : Bool :=
  match r.status with
  | .waiting | .woken _ => true
  | _ => false

end Receive

/-- A receiver holds its buffer, or none after a failure, or has an operation under way. -/
inductive ReceiverState where
  | idle (buffer : Option BufferId)
  | receiving (id : ReceiveId)

/-- `waiting` tells whether a task is inside a pull; a second one is refused. -/
structure Receiver where
  capacity : Value
  limit : Int
  state : ReceiverState
  waiting : Bool

namespace Receiver

def isReceiving (r : Receiver) : Bool :=
  match r.state with
  | .idle _ => false
  | .receiving _ => true

def bufferSize (r : Receiver) : Nat := (r.limit + 1).toNat

/-- Why a capacity that is no whole number gives no buffer: it cannot be added to, or the
sum is no size. -/
def capacityFault (capacity : Value) : TypeFault :=
  let type := capacity.typeName
  match capacity with
  | .float _ | .foreign .complex => .notBuffer type
  | .text _ | .bytes .fixed _ | .bytes .growing _ | .list _ | .tuple _ => .notJoined "int" type
  | _ => .noOperator "+" type "int"

/-- The capacity as a number; the memory must have room for a buffer, so it is not below -1. -/
def limitOf (memory : Nat) (capacity : Value) : Except Fault Int :=
  match capacity.integer? with
  | some n => do
    let _ ← allocation memory (n + 1)
    return n
  | none => .error (.type (capacityFault capacity))

end Receiver

end Osc
