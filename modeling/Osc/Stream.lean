import Osc.Codec
import Osc.Datagram

/-!
The items of a stream of packets. Each pull gives one item, whatever arrived: a packet,
a datagram that is none, or a failure to receive. A bad datagram does not end a stream.
-/

namespace Osc

inductive Item where
  | received (packet : Packet) (peer : Value)
  | decodeFailed (fault : DecodeFault) (peer : Value) (data : Bytes)
  | cut (capacity : Value) (peer : Value) (data : Bytes)
  | receiveFailed (fault : TransportFault)

/-- A datagram that was decoded although its end is missing. -/
structure CutWarning where
  peer : Value
  limit : Int

namespace Item

def failure? : Item → Option Fault
  | .received .. => none
  | .decodeFailed fault .. => some (.decode fault)
  | .cut capacity .. => some (.cut capacity)
  | .receiveFailed fault => some (.transport fault)

/-- The packet with its sender, or what went wrong in their place. -/
def unwrap : Item → Except Fault (Packet × Value)
  | .received packet peer => .ok (packet, peer)
  | .decodeFailed fault .. => .error (.decode fault)
  | .cut capacity .. => .error (.cut capacity)
  | .receiveFailed fault => .error (.transport fault)

/-- Decodes a datagram. Faults of the codec other than those of decoding are no items. -/
def decode (codec : Codec) (datagram : Datagram) : Except Fault Item :=
  match codec.decode datagram.data with
  | .ok packet => .ok (.received packet datagram.peer)
  | .error (.decode fault) => .ok (.decodeFailed fault datagram.peer datagram.data)
  | .error fault => .error fault

/-- Whether a datagram is decoded without its end. -/
def isDecodedCut (rejectCut : Bool) (datagram : Datagram) : Bool :=
  datagram.truncated && !rejectCut

/-- The item of a datagram. One that was cut is decoded only when such are not rejected. -/
def ofDatagram (codec : Codec) (capacity : Value) (rejectCut : Bool) (datagram : Datagram) :
    Except Fault Item :=
  if datagram.truncated && rejectCut then .ok (.cut capacity datagram.peer datagram.data)
  else decode codec datagram

end Item

namespace CutWarning

def message (w : CutWarning) : Text :=
  Text.ofString "Decoding datagram from " ++ w.peer.asText ++ Text.ofString " truncated to " ++
    Text.ofInt w.limit ++ Text.ofString " bytes"

/-- The warning that goes with a datagram, if any. -/
def ofDatagram? (limit : Int) (rejectCut : Bool) (datagram : Datagram) : Option CutWarning :=
  if Item.isDecodedCut rejectCut datagram then some ⟨datagram.peer, limit⟩ else none

end CutWarning

end Osc
