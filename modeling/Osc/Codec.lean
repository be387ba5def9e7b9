import Osc.Wire.Decode
import Osc.Wire.Encode

/-!
A codec turns packets into the data of one datagram and back. Sockets work over any
codec; the usual one is the wire form of packets. Of the faults a codec may give, only
those of decoding are reports about a datagram; all others are the codec's own.
-/

namespace Osc

open Text (ofString)

structure Codec where
  encode : Value → Except Fault Bytes
  decode : Bytes → Except Fault Packet

namespace Codec

def osc : Codec where
  encode := Wire.encode
  decode data := (Wire.decode data).mapError .decode

/-- Writes the same data for every packet, and reads any data as the one argument of a
message. -/
def fixed : Codec where
  encode _ := .ok [102, 105, 120, 101, 100]
  decode data := .ok (.message (ofString "/raw") [.blob data])

/-- Refuses every packet, and all data that looks like a message; other data it fails on. -/
def refusing : Codec where
  encode _ := .error (.encode (.described (ofString "codec refuses")))
  decode data :=
    if data.head? = some Wire.slashByte then
      .error (.decode (.described (ofString "codec refuses")))
    else .error (.value (.described (ofString "codec broke")))

end Codec

end Osc
