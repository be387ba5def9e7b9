import Osc.Codec
import Osc.Value.Convert

/-!
Handles for sending. Each handle that is open holds one reference to the endpoint, which
is closed when the last reference is given back. A send converts and encodes its packet
first, then asks whether the handle is open, and succeeds only when the endpoint took
every byte.
-/

namespace Osc

structure Handle where
  name : Text
  closed : Bool

/-- The place of a handle in the list of all handles; the first one is the socket. -/
abbrev HandleId := Nat

namespace References

/-- One more reference, unless all have been given back. -/
def acquire (count : Nat) : Except RuntimeFault Nat :=
  if count = 0 then .error .alreadyReleased else .ok (count + 1)

def release (count : Nat) : Except RuntimeFault Nat :=
  if count = 0 then .error .releasedTooOften else .ok (count - 1)

end References

namespace Sender

/-- The data to send for a packet or for what can be made one. -/
def data (codec : Codec) (packet : Value) : Except Fault Bytes := do
  codec.encode (← packet.toPacket)

/-- A failure to send to the peer or to an address. -/
def failure (address : Option Value) (error : OsError) : TransportFault :=
  match address with
  | none => .send error
  | some a => .sendTo a error

/-- What a send says about the endpoint's answer to its one write. -/
def conclude (address : Option Value) (size : Nat) (answer : Except Fault Int) :
    Except Fault Unit :=
  match answer with
  | .error fault => .error (fault.wrapOs (failure address))
  | .ok count => if count = size then .ok () else .error (.transport (.partlySent count size))

end Sender

end Osc
