import Osc.Endpoint
import Osc.Receiver
import Osc.Sender
import Osc.Settings
import Osc.Stream

/-!
Tasks of a session. A task performs one action; it runs until it has to wait, and goes on
when what it waits for has come or when it is cancelled. What a task will do after a wait
is part of the wait.
-/

namespace Osc

/-- The part of the library that a session is about. -/
inductive Layer where
  | shared
  | receiver
  | stream
  | socket
  | endpoint
deriving DecidableEq

/-- The settings that a layer is built with. A socket checks them; what is below it takes
them as they are, and some layers have none. -/
def Layer.settings : Layer → Except Fault (List (Text × Value)) → Except Fault Settings
  | .socket, fields => fields.bind Settings.ofFields
  | .receiver, fields | .stream, fields => fields.map Settings.pick
  | .shared, _ | .endpoint, _ => .ok .default

/-- Ways to get an endpoint over a datagram socket. -/
inductive Opening where
  | bind (address reuse : Value)
  | adopt (kind : SocketKind) (family : Int)

/-- What the network will do: by how many bytes writes fall short, how often a write finds
the socket busy, and which operations fail. -/
structure Script where
  shortBy : Option Int
  stalls : Nat
  failures : List (Operation × OsError)

/-- A packet to send, to the peer or to an address. -/
structure Parcel where
  packet : Value
  address : Option Value

/-- An action with values that cannot be built is refused. Where their fault comes only in
the course of the action, the values are part of it, built or not. -/
inductive Action where
  | feed (arrival : Arrival)
  | script (script : Except Fault Script)
  | cancel (name : Text)
  | closeEndpoint
  | writable
  | acquire
  | release
  | next (patience : Nat)
  | iterate (most : Option Nat) (patience : Nat)
  | recv (patience : Nat)
  | cancelReceive
  | connect (address : Value)
  | write (data : Bytes) (address : Option Value)
  | send (handle : Text) (parcel : Except Fault Parcel)
  | sendWithin (handle : Text) (parcel : Except Fault Parcel)
  | receive (size : Int)
  | sender (name : Text)
  | clone (handle name : Text)
  | close (handle : Text)
  | localAddress (handle : Text)
  | peerAddress
  | socketType
  | settings
  | shown
  | opening (how : Except Fault Opening)
  | refuse (fault : Fault)

/-- What an action gives when it succeeds. -/
inductive Result where
  | nothing
  | stop
  | datagram (found : Option Datagram)
  | item (found : Item)
  | items (found : List Item)
  | packet (packet : Packet) (peer : Value)
  | received (count : Nat) (peer : Value) (buffer : Bytes)
  | sent (count : Int)
  | address (address : Value)
  | settings (settings : Settings)
  | socketType (name : String)
  | shown (text : Text)
  | cancelled (effective : Bool)
  | fired (registered : Bool)
  | receiveCancelled (found : Bool)
  | acquired
  | sameEndpoint
  | sameSocket

inductive Outcome where
  | value (result : Result)
  | fault (fault : Fault)
  | cancelled
  | unopened

/-- What becomes of the items of a stream: one is the result, or its packet, or all are
collected until there are enough. -/
inductive ItemUse where
  | item
  | packet
  | items (collected : List Item) (most : Option Nat)

inductive PullUse where
  | datagram
  | stream (use : ItemUse)

/-- A pull may outlive some cancellations of its task, and is then made again. -/
structure Pull where
  use : PullUse
  patience : Nat

/-- What follows a write: its count is the result, or it was the send of a packet, after
which the handle may be closed. -/
inductive WriteUse where
  | count
  | packet (address : Option Value)
  | packetThenClose (address : Option Value) (handle : HandleId)

structure Write where
  data : Bytes
  goal : Option Value
  use : WriteUse

/-- What a task waits for: the end of a receive operation, to take what it brought; a
writable socket; the end of a receive operation, to close the socket; or an arrival. -/
inductive Wait where
  | pulling (receive : ReceiveId) (pull : Pull)
  | writing (write : Write)
  | closing (receive : ReceiveId) (cancelled : Bool) (outcome : Outcome)
  | taking (buffer : BufferId)

inductive TaskStatus where
  | queued (action : Action) (cancelled : Bool)
  | running (cancelled : Bool)
  | blocked (wait : Wait)
  | woken (wait : Wait) (wake : Wake)
  | finished (outcome : Outcome)

/-- A task with the number of cancellations that were asked of it. -/
structure Task where
  name : Text
  status : TaskStatus
  cancelRequests : Nat

def Task.start (name : Text) (action : Action) : Task := ⟨name, .queued action false, 0⟩

def Task.outcome? (t : Task) : Option Outcome :=
  match t.status with
  | .finished outcome => some outcome
  | _ => none

def Task.isFinished (t : Task) : Bool := t.outcome?.isSome

/-- How far a task came in one turn: to its end, or to a wait. -/
inductive Progress where
  | finished (outcome : Outcome)
  | blocked (wait : Wait)

/-- An answer as the outcome of a task. -/
def Outcome.ofAnswer (result : α → Result) : Except Fault α → Outcome
  | .ok a => .value (result a)
  | .error cause => .fault cause

namespace ItemUse

/-- The outcome when the stream has ended. -/
def stopped : ItemUse → Outcome
  | .item => .value .stop
  | .packet => .fault (.transport .socketClosed)
  | .items collected _ => .value (.items collected)

/-- Uses an item; when it is not the last one that is wanted, the use goes on. -/
def take (item : Item) : ItemUse → Outcome ⊕ ItemUse
  | .item => .inl (.value (.item item))
  | .packet => .inl (Outcome.ofAnswer (fun (found, peer) => .packet found peer) item.unwrap)
  | .items collected most =>
    let collected := collected ++ [item]
    if most.any (· ≤ collected.length) then .inl (.value (.items collected))
    else .inr (.items collected most)

end ItemUse

def PullUse.stopped : PullUse → Outcome
  | .datagram => .value (.datagram none)
  | .stream use => use.stopped

end Osc
