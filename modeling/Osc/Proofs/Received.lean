import Osc.Proofs.Accepted
import Osc.Proofs.Conversion
import Osc.Proofs.SinglePrecision

/-!
What is received of a message. The fields of arguments may hold any values when they are
written: truth values count as numbers, a whole number can be a float, a byte can be a letter.
Reading gives the fields their declared types. So each argument is received as a typed one, which
is known without writing it, and a message that can be written at all is read as the message of
these.
-/

namespace Osc

open Floating (Binary Binary32 Binary64)

namespace Value

/-- The whole number that a field stands for, zero if it stands for none. -/
def whole (v : Value) : Int := v.integer?.getD 0

/-- The number in double precision that a field stands for, zero if it stands for none. -/
def double (v : Value) : Binary64 := v.real?.getD (.ofUnits .double 0)

/-- The letters that a field stands for. -/
def letters : Value → Text
  | .text t => t
  | .bytes _ data => data.map CodePoint.ofByte
  | _ => []

/-- The time tag that a field stands for. -/
def timeTag : Value → TimeTag
  | .time seconds fractional => ⟨seconds.whole, fractional.whole⟩
  | _ => .immediately

/-- What is received of an argument with one field. -/
def scalarReceived : ScalarKind → Value → Argument
  | .int, v => .int v.whole
  | .float, v => .float v.double.rounded
  | .string, v => .string v.letters
  | .time, v => .time v.timeTag
  | .long, v => .long v.whole
  | .double, v => .double v.double
  | .char, v => .char v.letters
  | .bool, v => .bool v.truth

/-- What is received of an argument. Values that are no arguments cannot be sent. -/
def received : Value → Argument
  | .scalar kind v => scalarReceived kind v
  | .quad .color a b c d => .color a.whole b.whole c.whole d.whole
  | .quad .midi a b c d => .midi a.whole b.whole c.whole d.whole
  | .blob data => .blob data
  | .nil => .nil
  | .infinitum => .infinitum
  | .array items => .array (items.map received)
  | _ => .nil

end Value

namespace Wire

section Numbers

variable {v : Value}

theorem integer_eq_ok {n : Int} : integer v = .ok n ↔ v.integer? = some n := by
  unfold integer
  cases v.integer? <;> simp

theorem whole_of_integer {n : Int} (h : integer v = .ok n) : v.whole = n := by
  rw [Value.whole, integer_eq_ok.mp h]
  rfl

/-- What is done with a field that stands for a whole number is done with the number. -/
theorem integer_bind_whole {α : Type} {next : Int → Except FieldFault α} {a : α}
    (h : (integer v >>= next) = .ok a) : (integer (.int v.whole) >>= next) = .ok a := by
  obtain ⟨n, number, done⟩ := ok_of_bind h
  rw [integer_int, bind_ok, whole_of_integer number]
  exact done

theorem double_of_real {x : Binary64} (h : real v = .ok x) : v.double = x := by
  unfold real at h
  rw [Value.double]
  cases known : v.real? with
  | none =>
    rw [known] at h
    cases h
  | some y =>
    rw [known] at h
    cases h
    rfl

private theorem encodeDouble_double {data : Bytes} (h : encodeDouble v = .ok data) :
    encodeDouble (.float v.double) = .ok data := by
  obtain ⟨x, number, same⟩ := ok_of_bind h
  rw [double_of_real number]
  exact same

private theorem encodeFloat_double {data : Bytes} (h : encodeFloat v = .ok data) :
    encodeFloat (.float v.double.rounded) = .ok data := by
  obtain ⟨x, number, narrowed⟩ := ok_of_bind h
  rw [double_of_real number]
  split at narrowed
  · next y found =>
    rw [encodeFloat_float (Binary.narrow_rounded found)]
    exact narrowed
  · cases narrowed

private theorem inRange_whole {limit n : Int} (h : v.integer? = some n) :
    inRange limit (.int n) = inRange limit v := by
  cases v <;> cases h <;> rfl

/-- Fields that all stand for whole numbers lie in a range like the numbers. -/
theorem allInRange_whole {limit : Int} {vs : List Value}
    (whole : ∀ v ∈ vs, v.integer? = some v.whole) :
    allInRange limit (vs.map fun v => .int v.whole) = allInRange limit vs := by
  induction vs with
  | nil => rfl
  | cons v rest ih =>
    rw [List.forall_mem_cons] at whole
    rw [List.map_cons, allInRange, allInRange, inRange_whole whole.1, ih whole.2]

theorem integer?_of_integer {v : Value} {n : Int} (h : integer v = .ok n) :
    v.integer? = some v.whole := by
  rw [whole_of_integer h]
  exact integer_eq_ok.mp h

theorem encodeTimetag_timeTag {data : Bytes} (h : encodeTimetag v = .ok data) :
    encodeTimetag v.timeTag.toValue = .ok data := by
  unfold encodeTimetag at h
  split at h
  · next seconds fractional =>
    obtain ⟨inside, asked, h⟩ := ok_of_bind h
    cases inside with
    | false => cases h
    | true =>
      obtain ⟨s, whole, h⟩ := ok_of_bind h
      obtain ⟨f, whole', h⟩ := ok_of_bind h
      have first := mapError_eq_ok.mp whole
      have second := mapError_eq_ok.mp whole'
      have numbers : ∀ v ∈ [seconds, fractional], v.integer? = some v.whole := by
        simp [integer?_of_integer first, integer?_of_integer second]
      have fits : allInRange word32Max [.int seconds.whole, .int fractional.whole] = .ok true :=
        (allInRange_whole numbers).trans (mapError_eq_ok.mp asked)
      rw [whole_of_integer first, whole_of_integer second] at fits
      rw [Value.timeTag, TimeTag.toValue, whole_of_integer first, whole_of_integer second]
      simp only [encodeTimetag, fits, integer_int, Except.mapError, bind_ok, if_true]
      exact h
  · cases h

private theorem encodeComponents_whole {vs : List Value} {data : Bytes}
    (h : encodeComponents vs = .ok data) :
    encodeComponents (vs.map fun v => .int v.whole) = .ok data ∧
      ∀ v ∈ vs, v.integer? = some v.whole := by
  induction vs generalizing data with
  | nil => exact ⟨h, by simp⟩
  | cons v rest ih =>
    unfold encodeComponents at h
    split at h
    · next n whole =>
      obtain ⟨more, written, h⟩ := ok_of_bind h
      obtain ⟨again, others⟩ := ih written
      have number : v.integer? = some v.whole := by
        rw [Value.whole, whole]
        rfl
      rw [whole] at number
      refine ⟨?_, List.forall_mem_cons.mpr ⟨whole.trans number, others⟩⟩
      rw [List.map_cons, encodeComponents, ← Option.some.inj number]
      simp only [Value.integer?, again]
      exact h
    · cases h

private theorem encodeQuad_whole {kind : QuadKind} {a b c d : Value} {data : Bytes}
    (h : encodeQuad kind [a, b, c, d] = .ok data) :
    encodeQuad kind [.int a.whole, .int b.whole, .int c.whole, .int d.whole] = .ok data := by
  obtain ⟨inside, asked, h⟩ := ok_of_bind h
  cases inside with
  | false => cases h
  | true =>
    obtain ⟨again, numbers⟩ := encodeComponents_whole (mapError_eq_ok.mp h)
    have fits := (allInRange_whole numbers).trans (mapError_eq_ok.mp asked)
    simp only [List.map_cons, List.map_nil] at fits again
    simp only [encodeQuad, fits, again]
    rfl

private theorem encodeString_letters {data : Bytes} (h : encodeString v = .ok data) :
    encodeString (.text v.letters) = .ok data := by
  unfold encodeString at h
  split at h
  case h_1 t => exact h
  case h_4 | h_5 => split at h <;> cases h
  all_goals cases h

private theorem encodeChar_letters {data : Bytes} (h : encodeChar v = .ok data) :
    encodeChar (.text v.letters) = .ok data := by
  unfold encodeChar at h
  split at h
  case h_2 => exact h
  case h_3 b _ | h_4 b _ =>
    have value : (CodePoint.ofByte b).val = b.toNat :=
      Utf8.ofNat_val (b.toNat_lt.trans (by decide))
    rw [← h, ← value]
    rfl
  all_goals cases h

end Numbers

/-- An argument with one field is written like what is received of it. -/
theorem encodeScalar_received {kind : ScalarKind} {v : Value} {payload : Payload}
    (h : encodeScalar kind v = .ok payload) :
    encodeArgument (Value.scalarReceived kind v).toValue = .ok payload := by
  -- The tag in front of a field stays as it is.
  have tagged {tag : Tag} {x y : Except Fault Bytes} (h : Payload.one tag <$> x = .ok payload)
      (same : ∀ data, x = .ok data → y = .ok data) : Payload.one tag <$> y = .ok payload := by
    obtain ⟨data, found, rfl⟩ := ok_of_map h
    rw [same data found]
    rfl
  have inField {x y : Except FieldFault Bytes} (same : ∀ data, x = .ok data → y = .ok data)
      (data : Bytes) (found : x.mapError Fault.field = .ok data) :
      y.mapError Fault.field = .ok data :=
    mapError_eq_ok.mpr (same data (mapError_eq_ok.mp found))
  cases kind with
  | int => exact tagged h (inField fun _ => integer_bind_whole)
  | float => exact tagged h (inField fun _ => encodeFloat_double)
  | string => exact tagged h fun _ => encodeString_letters
  | time => exact tagged h fun _ => encodeTimetag_timeTag
  | long => exact tagged h (inField fun _ => integer_bind_whole)
  | double => exact tagged h (inField fun _ => encodeDouble_double)
  | char => exact tagged h fun _ => encodeChar_letters
  | bool => exact h

mutual

/-- An argument is written like what is received of it. -/
theorem encodeArgument_received {payload : Payload} : (v : Value) →
    encodeArgument v = .ok payload → encodeArgument v.received.toValue = .ok payload
  | .scalar kind v, h => by
    rw [Value.received]
    exact encodeScalar_received h
  | .quad .color a b c d, h | .quad .midi a b c d, h => by
    rw [Value.received]
    obtain ⟨data, found, rfl⟩ := ok_of_map h
    rw [Argument.toValue, encodeArgument, encodeQuad_whole found]
    rfl
  | .blob data, h | .nil, h | .infinitum, h => by
    rw [Value.received]
    exact h
  | .array items, h => by
    rw [encodeArgument] at h
    obtain ⟨inner, found, rfl⟩ := ok_of_map h
    rw [Value.received, Argument.toValue, encodeArgument, encodeArguments_received items found]
    rfl
  | .none, h | .bool _, h | .int _, h | .float _, h | .text _, h | .bytes .., h | .list _, h
  | .tuple _, h | .foreign _, h | .time .., h | .message .., h | .bundle .., h => by
    cases h

private theorem encodeArguments_received {payload : Payload} : (vs : List Value) →
    encodeArguments vs = .ok payload →
      encodeArguments (Argument.toValues (vs.map Value.received)) = .ok payload
  | [], h => h
  | v :: rest, h => by
    rw [encodeArguments] at h
    obtain ⟨first, found, h⟩ := ok_of_bind h
    obtain ⟨more, others, h⟩ := ok_of_bind h
    rw [List.map_cons, Argument.toValues, encodeArguments, encodeArgument_received v found, bind_ok,
      encodeArguments_received rest others]
    exact h

end

end Wire

section Messages

/-- The floats that are received are rounded. -/
theorem Value.received_rounded : (v : Value) →
    ∀ y ∈ v.received.floats, ∃ x : Binary64, y = x.rounded
  | .scalar kind v, y, member => by
    rw [received] at member
    cases kind with
    | float => exact ⟨v.double, by simpa [scalarReceived, Argument.floats] using member⟩
    | _ => simp [scalarReceived, Argument.floats] at member
  | .array items, y, member => by
    rw [received, Argument.floats, List.mem_flatMap] at member
    obtain ⟨a, among, inside⟩ := member
    obtain ⟨v, among, rfl⟩ := List.mem_map.mp among
    exact received_rounded v y inside
  | .quad kind .., y, member => by
    cases kind <;> simp [received, Argument.floats] at member
  | .blob _, y, member | .nil, y, member | .infinitum, y, member | .none, y, member
  | .bool _, y, member | .int _, y, member | .float _, y, member | .text _, y, member
  | .bytes .., y, member | .list _, y, member | .tuple _, y, member | .foreign _, y, member
  | .time .., y, member | .message .., y, member | .bundle .., y, member => by
    simp [received, Argument.floats] at member

/-- The message that is received. -/
def Packet.received (address : Text) (arguments : List Value) : Packet :=
  .message address (arguments.map Value.received)

theorem Packet.received_built (address : Text) (arguments : List Value) :
    (Packet.received address arguments).Built := by
  intro y member
  rw [received, Packet.floats, List.mem_flatMap] at member
  obtain ⟨a, among, inside⟩ := member
  obtain ⟨v, -, rfl⟩ := List.mem_map.mp among
  obtain ⟨x, rfl⟩ := v.received_rounded y inside
  exact ⟨.float x, buildFloat_float x⟩

/-- Whatever message is written is read as the one that its arguments stand for. -/
theorem decode_received {address : Value} {arguments : List Value} {data : Bytes}
    (written : Wire.encode (.message address arguments) = .ok data) :
    ∃ t, address = .text t ∧ Wire.encode (Packet.received t arguments).toValue = .ok data ∧
      Wire.decode data = .ok (Packet.received t arguments) := by
  have text : ∃ t, address = .text t := by
    cases address with
    | text t => exact ⟨t, rfl⟩
    | _ => cases written
  obtain ⟨t, rfl⟩ := text
  have again : Wire.encode (Packet.received t arguments).toValue = .ok data := by
    rw [Wire.encode, Wire.encodeMessage] at written
    rw [Packet.received, Packet.toValue, Wire.encode, Wire.encodeMessage]
    split at written
    · next slashed =>
      obtain ⟨payload, found, written⟩ := Wire.ok_of_bind written
      rw [if_pos slashed, Wire.encodeArguments_received arguments (Wire.mapError_eq_ok.mp found)]
      exact written
    · cases written
  exact ⟨t, rfl, again, decode_message (Packet.received_built t arguments) again⟩

end Messages

end Osc
