import Osc.Fault
import Osc.Packet
import Osc.Wire.Field

/-!
The wire form of a packet. Any value may be given; what is no packet, and every field
of the wrong type or size, is refused with its cause. Faults of fields of a message
name its address; faults of the types in a bundle's time tag name the time tag.
-/

namespace Osc.Wire

open Floating (Binary64 Extent)

/-- The word with all 32 bits set. -/
def word32Max : Int := 2 ^ 32 - 1

/-- Whether a number lies between zero and a limit; values that are no numbers have no order. -/
def inRange (limit : Int) (v : Value) : Except FieldFault Bool :=
  match v.integer?, v with
  | some n, _ => .ok (0 ≤ n && n ≤ limit)
  | none, .float x =>
    match x.extent? with
    | none => .ok false
    | some e => .ok ((Extent.ofInt 0).le e && e.le (Extent.ofInt limit))
  | none, v => .error (.type (.notOrdered "int" v.typeName))

/-- Whether all numbers lie in range, asked from the left up to the first that does not. -/
def allInRange (limit : Int) : List Value → Except FieldFault Bool
  | [] => .ok true
  | v :: rest => do
    if ← inRange limit v then allInRange limit rest else return false

def integer (v : Value) : Except FieldFault Int :=
  match v.integer? with
  | some n => .ok n
  | none => .error (.pack .notInteger)

def encodeInt (v : Value) : Except FieldFault Bytes := do
  let n ← integer v
  if -2 ^ 31 ≤ n && n < 2 ^ 31 then .ok (int32 n)
  else if -2 ^ 63 ≤ n && n < 2 ^ 63 then .error (.pack .outsideInt32)
  else .error (.pack .outsideInt64)

def encodeLong (v : Value) : Except FieldFault Bytes := do
  let n ← integer v
  if -2 ^ 63 ≤ n && n < 2 ^ 63 then .ok (int64 n) else .error (.pack .intTooLarge)

def real (v : Value) : Except FieldFault Binary64 :=
  match v.real? with
  | some x => .ok x
  | none => .error (.pack .notReal)

def encodeDouble (v : Value) : Except FieldFault Bytes := do
  return bigEndian 8 (← real v).word

def encodeFloat (v : Value) : Except FieldFault Bytes := do
  match (← real v).narrow? with
  | some x => .ok (bigEndian 4 x.word)
  | none => .error (if v.integer?.isSome then .pack .intTooLarge else .overflow .single)

def encodeText (t : Text) : Except Fault Bytes :=
  if t.contains 0 then .error (.encode (.nulInString (.text t)))
  else
    match Utf8.encode t with
    | .ok data => .ok (terminated data)
    | .error run => .error (.surrogates run)

/-- Whether some item is the text of a single NUL. -/
def holdsNul (items : List Value) : Bool :=
  items.any fun
    | .text [c] => c == 0
    | _ => false

/-- Only text has a string form; the other types differ in the test that they fail,
the search for a NUL or the writing as UTF-8. -/
def encodeString (v : Value) : Except Fault Bytes :=
  match v with
  | .text t => encodeText t
  | .bytes .fixed _ | .bytes .growing _ => .error (.type (.notBytesLike "str"))
  | .list items | .tuple items =>
    if holdsNul items then .error (.encode (.nulInString v))
    else .error (.field (.attribute v.typeName "encode"))
  | .bytes .view _ | .foreign .mapping | .foreign .set | .foreign .frozenSet | .foreign .range =>
    .error (.field (.attribute v.typeName "encode"))
  | _ => .error (.type (.notContainer v.typeName))

def encodeChar (v : Value) : Except Fault Bytes :=
  match v.length?, v with
  | none, _ => .error (.type (.noLength v.typeName))
  | some 1, .text [c] => .ok (bigEndian 4 c.val)
  | some 1, .bytes .fixed [b] | some 1, .bytes .growing [b] => .ok (bigEndian 4 b.toNat)
  | some 1, _ => .error (.type (.notCharacter v.typeName))
  | some _, _ => .error (.encode (.charLength v))

def encodeTimetag (v : Value) : Except Fault Bytes :=
  match v with
  | .time seconds fractional => do
    if ← (allInRange word32Max [seconds, fractional]).mapError .field then
      let s ← (integer seconds).mapError .field
      let f ← (integer fractional).mapError .field
      return bigEndian 4 s.toNat ++ bigEndian 4 f.toNat
    else .error (.encode (.timetagRange v))
  | _ => .error (.field (.attribute v.typeName "seconds"))

/-- Numbers from 0 to 255, as the bytes they are. -/
def encodeComponents : List Value → Except FieldFault Bytes
  | [] => .ok []
  | v :: rest =>
    match v.integer? with
    | some n => return UInt8.ofNat n.toNat :: (← encodeComponents rest)
    | none => .error (.type (.notIndex v.typeName))

def encodeQuad (kind : QuadKind) (components : List Value) : Except Fault Bytes := do
  if ← (allInRange 255 components).mapError .field then
    (encodeComponents components).mapError .field
  else .error (.encode (.componentRange kind components))

def encodeBlob (data : Bytes) : Except FieldFault Bytes :=
  if data.length < 2 ^ 31 then .ok (sized data) else .error (.pack .outsideInt32)

/-- The type tags and the payload of some arguments. -/
structure Payload where
  tags : Bytes
  data : Bytes

def Payload.empty : Payload := ⟨[], []⟩

def Payload.one (tag : Tag) (data : Bytes) : Payload := ⟨[(Mark.argument tag).byte], data⟩

def Payload.append (p q : Payload) : Payload := ⟨p.tags ++ q.tags, p.data ++ q.data⟩

def Payload.bracketed (p : Payload) : Payload :=
  ⟨Mark.opening.byte :: p.tags ++ [Mark.closing.byte], p.data⟩

def encodeScalar (kind : ScalarKind) (v : Value) : Except Fault Payload :=
  match kind with
  | .int => Payload.one .int <$> (encodeInt v).mapError .field
  | .float => Payload.one .float <$> (encodeFloat v).mapError .field
  | .string => Payload.one .string <$> encodeString v
  | .time => Payload.one .time <$> encodeTimetag v
  | .long => Payload.one .long <$> (encodeLong v).mapError .field
  | .double => Payload.one .double <$> (encodeDouble v).mapError .field
  | .char => Payload.one .char <$> encodeChar v
  | .bool => .ok (.one (if v.truth then .yes else .no) [])

mutual

def encodeArgument : Value → Except Fault Payload
  | .scalar kind v => encodeScalar kind v
  | .quad .color a b c d => Payload.one .color <$> encodeQuad .color [a, b, c, d]
  | .quad .midi a b c d => Payload.one .midi <$> encodeQuad .midi [a, b, c, d]
  | .blob data => Payload.one .blob <$> (encodeBlob data).mapError .field
  | .nil => .ok (.one .nil [])
  | .infinitum => .ok (.one .infinitum [])
  | .array items => Payload.bracketed <$> encodeArguments items
  | v => .error (.encode (.notArgument v))

def encodeArguments : List Value → Except Fault Payload
  | [] => .ok .empty
  | v :: rest => do
    let first ← encodeArgument v
    let more ← encodeArguments rest
    return first.append more

end

def slash : CodePoint := CodePoint.ofChar '/'

def comma : UInt8 := 44

/-- Faults of the fields of arguments become faults of the message. -/
def inMessage (address : Text) : Fault → Fault
  | .field cause => .encode (.argument address cause)
  | fault => fault

/-- Type faults of a time tag become faults of the bundle; others stay as they are. -/
def inTimetag (timetag : Value) : Fault → Fault
  | .field (.type cause) => .encode (.timetag timetag (.type cause))
  | .field (.attribute owner name) => .encode (.timetag timetag (.attribute owner name))
  | fault => fault

def encodeMessage (address : Value) (arguments : List Value) : Except Fault Bytes :=
  match address with
  | .text t =>
    if t.head? = some slash then do
      let payload ← (encodeArguments arguments).mapError (inMessage t)
      let head ← encodeText t
      return head ++ terminated (comma :: payload.tags) ++ payload.data
    else .error (.encode (.address address))
  | _ => .error (.encode (.address address))

/-- A size before the bytes of an element of a bundle. -/
def framed (element : Bytes) : Except Fault Bytes :=
  if element.length < 2 ^ 31 then .ok (int32 element.length ++ element)
  else .error (.pack .outsideInt32)

mutual

def encode : Value → Except Fault Bytes
  | .message address arguments => encodeMessage address arguments
  | .bundle timetag content => do
    let time ← (encodeTimetag timetag).mapError (inTimetag timetag)
    let elements ← encodeElements content
    return bundleTag ++ time ++ elements
  | v => .error (.encode (.notPacket v.bareTypeName))

def encodeElements : List Value → Except Fault Bytes
  | [] => .ok []
  | v :: rest => do
    let element ← encode v
    let first ← framed element
    let more ← encodeElements rest
    return first ++ more

end

end Osc.Wire
