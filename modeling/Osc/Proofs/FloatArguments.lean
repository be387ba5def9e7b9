import Osc.Proofs.Received
import Osc.Proofs.Refusal

/-!
Floats in messages. A row of arguments is written around each of its slots, at any depth, and
what is written there does not depend on the rest. So a float that single precision cannot hold
stops every message that is fine without it; any other float is built as the nearest number of
four bytes, which are the bytes that it is sent as, and the number is received where it was.
-/

namespace Osc

open Floating (Binary Binary32 Binary64)
open Text (ofString)
open Wire (Payload encode encodeArgument encodeArguments)

/-- A slot in a row of arguments: between some of them, or among the items of an array. -/
inductive Slot where
  | here (before after : List Value)
  | inside (before : List Value) (inner : Slot) (after : List Value)

namespace Slot

/-- The row with a value in the slot. -/
def fill : Slot → Value → List Value
  | .here before after, v => before ++ v :: after
  | .inside before inner after, v => before ++ .array (inner.fill v) :: after

/-- The indices of the arrays around the slot, and the one in the last of them. -/
def path : Slot → List Nat
  | .here before _ => [before.length]
  | .inside before inner _ => before.length :: inner.path

/-- What is written before the slot. -/
def front : Slot → Except Fault Payload
  | .here before _ => encodeArguments before
  | .inside before inner _ => do
    let outer ← encodeArguments before
    let inside ← inner.front
    return outer.append ⟨Wire.Mark.opening.byte :: inside.tags, inside.data⟩

/-- What is written behind the slot. -/
def back : Slot → Except Fault Payload
  | .here _ after => encodeArguments after
  | .inside _ inner after => do
    let inside ← inner.back
    let outer ← encodeArguments after
    return ⟨inside.tags ++ Wire.Mark.closing.byte :: outer.tags, inside.data ++ outer.data⟩

end Slot

/-- A row with a value at some slots, and the row with other values there. -/
inductive Exchanged (v : Value) : List Value → List Value → Prop where
  | one (slot : Slot) (a : Value) : Exchanged v (slot.fill v) (slot.fill a)
  | more {row : List Value} (slot : Slot) (a : Value)
      (others : Exchanged v (slot.fill a) row) : Exchanged v (slot.fill v) row

/-- The argument at the end of a path through arrays. -/
def Argument.at? (row : List Argument) : List Nat → Option Argument
  | [] => none
  | [i] => row[i]?
  | i :: path =>
    match row[i]? with
    | some (.array items) => Argument.at? items path
    | _ => none

section Writing

theorem Wire.Payload.append_assoc (p q r : Payload) :
    (p.append q).append r = p.append (q.append r) := by
  simp [Payload.append]

theorem encodeArguments_append (before after : List Value) :
    encodeArguments (before ++ after) = do
      let p ← encodeArguments before
      let q ← encodeArguments after
      return p.append q := by
  induction before with
  | nil => exact (bind_pure _).symm
  | cons v rest ih =>
    rw [List.cons_append, encodeArguments, encodeArguments, ih]
    simp only [bind_assoc, pure_bind, Payload.append_assoc]

/-- A row is written around each of its slots. -/
theorem Slot.encodeArguments_fill (slot : Slot) (v : Value) :
    encodeArguments (slot.fill v) = do
      let p ← slot.front
      let q ← encodeArgument v
      let r ← slot.back
      return (p.append q).append r := by
  induction slot with
  | here before after =>
    rw [fill, encodeArguments_append, encodeArguments]
    simp only [front, back, bind_assoc, pure_bind, Payload.append_assoc]
  | inside before inner after ih =>
    rw [fill, encodeArguments_append, encodeArguments, encodeArgument, ih]
    simp only [front, back, bind_assoc, pure_bind, map_eq_pure_bind]
    simp [Payload.append, Payload.bracketed]

variable {address : Value} {slot : Slot} {v : Value}

/-- An address that is not refused is a text with a slash. -/
theorem slashed_of_encode {row : List Value} {outcome : Except Fault Bytes}
    (result : encode (.message address row) = outcome)
    (taken : ∀ w, outcome ≠ .error (.encode (.address w))) :
    ∃ t, address = .text t ∧ t.head? = some Wire.slash := by
  rw [encode] at result
  unfold Wire.encodeMessage at result
  split at result
  · next t =>
    split at result
    · next slashed => exact ⟨t, rfl, slashed⟩
    · exact absurd result.symm (taken _)
  · exact absurd result.symm (taken _)

/-- What stops the arguments before a slot stops the message, whatever is in the slot. -/
theorem encode_of_front {t : Text} {fault : Fault} (slashed : t.head? = some Wire.slash)
    (stopped : slot.front = .error fault) :
    encode (.message (.text t) (slot.fill v)) = .error (Wire.inMessage t fault) := by
  rw [encode, Wire.encodeMessage, if_pos slashed, slot.encodeArguments_fill, stopped]
  rfl

/-- What stops the argument in a slot stops the message, if nothing before does. -/
theorem encode_of_slot {t : Text} {p : Payload} {fault : Fault}
    (slashed : t.head? = some Wire.slash) (fine : slot.front = .ok p)
    (stopped : encodeArgument v = .error fault) :
    encode (.message (.text t) (slot.fill v)) = .error (Wire.inMessage t fault) := by
  rw [encode, Wire.encodeMessage, if_pos slashed, slot.encodeArguments_fill, fine, stopped]
  rfl

/-- The bytes of a message around the bytes of an argument with one field. -/
theorem encode_of_fields {t : Text} {tag : Wire.Tag} {data bytes : Bytes}
    (written : encode (.message (.text t) (slot.fill v)) = .ok data)
    (field : encodeArgument v = .ok (.one tag bytes)) :
    ∃ front back, data = front ++ bytes ++ back ∧ ∀ a bytes',
      encodeArgument a = .ok (.one tag bytes') →
        encode (.message (.text t) (slot.fill a)) = .ok (front ++ bytes' ++ back) := by
  rw [encode, Wire.encodeMessage] at written
  split at written
  · next slashed =>
    obtain ⟨payload, found, written⟩ := Wire.ok_of_bind written
    rw [Wire.mapError_eq_ok, slot.encodeArguments_fill] at found
    obtain ⟨p, before, found⟩ := Wire.ok_of_bind found
    rw [field, Wire.bind_ok] at found
    obtain ⟨r, behind, found⟩ := Wire.ok_of_bind found
    obtain ⟨head, addressed, written⟩ := Wire.ok_of_bind written
    cases found
    cases written
    refine ⟨head ++ Wire.terminated (Wire.comma :: ((p.append (.one tag bytes)).append r).tags) ++
      p.data, r.data, ?_, fun a bytes' other => ?_⟩
    · simp [Payload.append, Payload.one]
    · have row : encodeArguments (slot.fill a) = .ok ((p.append (.one tag bytes')).append r) := by
        rw [slot.encodeArguments_fill, before, other, behind]
        rfl
      rw [encode, Wire.encodeMessage, if_pos slashed, Wire.mapError_eq_ok.mpr row, Wire.bind_ok,
        addressed, Wire.bind_ok]
      exact congrArg Except.ok (by simp [Payload.append, Payload.one])
  · cases written

end Writing

section Floats

/-- A float with a number that single precision holds. -/
def Value.single (y : Binary32) : Value := .scalar .float (.float y.widen)

theorem encodeArgument_single {y : Binary32} (number : y.isNaN = false) :
    encodeArgument (.single y) = .ok (.one .float (Wire.bigEndian 4 y.word)) := by
  rw [Value.single, encodeArgument, Wire.encodeScalar,
    Wire.encodeFloat_float (Binary.narrow_widen_of_number number)]
  rfl

private theorem received_single {y : Binary32} (number : y.isNaN = false) :
    (Value.single y).received = .float y.widen := by
  rw [Value.single, Value.received, Value.scalarReceived]
  exact congrArg Argument.float (Binary.rounded_of_narrow (Binary.narrow_widen_of_number number))

private theorem encodeArgument_overflow {x : Binary64} (large : x.Overflows) :
    encodeArgument (.scalar .float (.float x)) = .error (.field (.overflow .single)) := by
  have none := Binary.narrow?_eq_none_iff.mpr large
  rw [encodeArgument, Wire.encodeScalar]
  simp only [Wire.encodeFloat, Wire.real, Value.real?, Wire.bind_ok, none]
  rfl

/-- A message is stopped by a float that is too large. -/
def IsStopped (address : Value) (row : List Value) : Prop :=
  ∃ t, address = .text t ∧
    encode (.message address row) = .error (.encode (.argument t (.overflow .single)))

theorem isStopped_fill {x : Binary64} (large : x.Overflows) {address : Value} {slot : Slot}
    {a : Value} (near : (∃ data, encode (.message address (slot.fill a)) = .ok data) ∨
      IsStopped address (slot.fill a)) :
    IsStopped address (slot.fill (.scalar .float (.float x))) := by
  obtain ⟨t, rfl, slashed⟩ : ∃ t, address = .text t ∧ t.head? = some Wire.slash := by
    rcases near with ⟨data, written⟩ | ⟨t, -, stopped⟩
    · exact slashed_of_encode written (by simp)
    · exact slashed_of_encode stopped (by simp)
  refine ⟨t, rfl, ?_⟩
  cases before : slot.front with
  | ok p => exact encode_of_slot slashed before (encodeArgument_overflow large)
  | error fault =>
    rw [encode_of_front slashed before]
    rcases near with ⟨data, written⟩ | ⟨t', same, stopped⟩
    · rw [encode_of_front slashed before] at written
      cases written
    · cases same
      rw [encode_of_front slashed before] at stopped
      exact stopped

private theorem isStopped_of_exchanged {x : Binary64} (large : x.Overflows) {address : Value}
    {row row' : List Value} {data : Bytes}
    (exchanged : Exchanged (.scalar .float (.float x)) row row')
    (written : encode (.message address row') = .ok data) : IsStopped address row := by
  induction exchanged with
  | one slot a => exact isStopped_fill large (.inl ⟨data, written⟩)
  | more slot a others ih => exact isStopped_fill large (.inr (ih written))

theorem Slot.at?_fill (slot : Slot) (v : Value) :
    Argument.at? ((slot.fill v).map Value.received) slot.path = some v.received := by
  induction slot with
  | here before after => simp [fill, path, Argument.at?]
  | inside before inner after ih =>
    obtain ⟨i, more, shape⟩ : ∃ i more, inner.path = i :: more := by
      cases inner <;> exact ⟨_, _, rfl⟩
    rw [path, shape]
    rw [shape] at ih
    simp [fill, Argument.at?, Value.received, ih]

/-- A float that is too large: it is kept as it is, and every message that is fine with other
values in its slots is refused for it. -/
structure Value.IsRefused (x : Binary64) : Prop where
  kept : (Form.scalar .float).build [.float x] = .ok (.scalar .float (.float x))
  refused : ∀ {address : Value} {row row' : List Value} {data : Bytes},
    Exchanged (.scalar .float (.float x)) row row' →
      encode (.message address row') = .ok data → IsStopped address row

/-- A float that is built, sent and received as a number in single precision. -/
structure Value.IsSingle (x : Binary64) (y : Binary32) : Prop where
  nearest : x.IsRounded y
  widened : y.widen.negative = y.negative ∧ (y.isInfinite = true → y.widen.isInfinite = true) ∧
    (y.isFinite = true → y.widen.isFinite = true ∧ y.widen.value = y.value)
  built : (Form.scalar .float).build [.float x] = .ok (.single y)
  again : (Form.scalar .float).build [.float y.widen] = .ok (.single y)
  sent : ∀ {address : Value} {slot : Slot} {data : Bytes},
    encode (.message address (slot.fill (.single y))) = .ok data →
      ∃ front back, data = front ++ Wire.bigEndian 4 y.word ++ back ∧
        ∀ z : Binary32, z.isNaN = false →
          encode (.message address (slot.fill (.single z))) =
            .ok (front ++ Wire.bigEndian 4 z.word ++ back)
  received : ∀ {address : Value} {slot : Slot} {data : Bytes},
    encode (.message address (slot.fill (.single y))) = .ok data →
      ∃ t arguments, address = .text t ∧ Wire.decode data = .ok (.message t arguments) ∧
        (Argument.at? arguments slot.path).map Argument.toValue = some (.single y)

variable {x : Binary64} {y : Binary32}

private theorem isRefused_of_overflows (large : x.Overflows) : Value.IsRefused x := by
  refine ⟨?_, isStopped_of_exchanged large⟩
  rw [buildFloat_float, Binary.rounded, Binary.narrow?_eq_none_iff.mpr large]
  rfl

private theorem isSingle_of_narrow (number : x.isNaN = false) (narrowed : x.narrow? = some y) :
    Value.IsSingle x y := by
  have nearest := Binary.isRounded_of_narrow number narrowed
  have number' := Binary.isNaN_of_isRounded nearest number
  obtain ⟨negative, infinite, finite⟩ := Binary.widen_kept y number'
  exact
    { nearest := nearest
      widened := ⟨negative, infinite, fun h => (finite h).imp_right Binary.value_eq_iff.mpr⟩
      built := by
        rw [buildFloat_float, Binary.rounded_of_narrow narrowed]
        rfl
      again := by
        rw [buildFloat_float,
          Binary.rounded_of_narrow (Binary.narrow_widen_of_number number')]
        rfl
      sent := by
        intro address slot data written
        obtain ⟨t, rfl, -⟩ := slashed_of_encode written (by simp)
        obtain ⟨front, back, same, others⟩ :=
          encode_of_fields written (encodeArgument_single number')
        exact ⟨front, back, same, fun z h => others _ _ (encodeArgument_single h)⟩
      received := by
        intro address slot data written
        obtain ⟨t, same, -, read⟩ := decode_received written
        refine ⟨t, _, same, read, ?_⟩
        rw [slot.at?_fill, received_single number']
        rfl }

theorem build_eq_iff {v : Binary64} :
    (Value.Form.scalar .float).build [.float x] = .ok (.scalar .float (.float v)) ↔
      x.rounded = v := by
  rw [buildFloat_float, Argument.toValue]
  simp

end Floats

/-- Building floats and the wire agree. A finite float of 2 to the power 128 less 2 to the power
103 or more is kept and refused in messages. Any other becomes the nearest number in single
precision, which is what is sent and received. Building keeps the order of those. -/
theorem float_settled {x : Binary64} (number : x.isNaN = false) :
    (x.Overflows ↔ x.isFinite = true ∧ 2 ^ 128 - 2 ^ 103 ≤ |x.value|) ∧
      (x.Overflows → Value.IsRefused x) ∧ (¬ x.Overflows → ∃ y, Value.IsSingle x y) ∧
      ∀ {x' v v' : Binary64}, ¬ x.Overflows → ¬ x'.Overflows → x.AtMost x' →
        (Value.Form.scalar .float).build [.float x] = .ok (.scalar .float (.float v)) →
        (Value.Form.scalar .float).build [.float x'] = .ok (.scalar .float (.float v')) →
        v.AtMost v' := by
  refine ⟨Binary.overflows_iff, isRefused_of_overflows, fun fits => ?_, ?_⟩
  · rw [← Binary.narrow?_eq_none_iff] at fits
    obtain ⟨y, narrowed⟩ := Option.ne_none_iff_exists'.mp fits
    exact ⟨y, isSingle_of_narrow number narrowed⟩
  · intro x' v v' fits fits' ordered built built'
    rw [← build_eq_iff.mp built, ← build_eq_iff.mp built']
    exact Binary.rounded_mono fits fits' ordered

/-- A tenth, as near as double precision comes to it. -/
def oneTenth : Binary64 := .ofWord .double 0x3FB999999999999A

/-- The least power of two that is too large for single precision. -/
def tooLarge : Binary64 := .ofWord .double 0x47F0000000000000

/-- A tenth is rounded and sent in a message that nothing else stops; the other number stops it. -/
theorem float_settled_tenth :
    oneTenth.isNaN = false ∧ tooLarge.isNaN = false ∧
      (∃ y front back, Value.IsSingle oneTenth y ∧
        y.widen = .ofWord .double 0x3FB99999A0000000 ∧
        encode (.message (.text (ofString "/a")) [.nil, .single y]) =
          .ok (front ++ Wire.bigEndian 4 y.word ++ back)) ∧
      IsStopped (.text (ofString "/a")) [.nil, .scalar .float (.float tooLarge)] := by
  have number : oneTenth.isNaN = false := by decide +kernel
  have number' : tooLarge.isNaN = false := by decide +kernel
  obtain ⟨y, fine⟩ := (float_settled number).2.2.1 (by decide +kernel)
  have refused := (float_settled number').2.1 (by decide +kernel)
  let slot : Slot := .here [.nil] []
  have without : encode (.message (.text (ofString "/a")) (slot.fill .nil)) =
      .ok [47, 97, 0, 0, 44, 78, 78, 0] := rfl
  obtain ⟨data, written⟩ : ∃ data,
      encode (.message (.text (ofString "/a")) (slot.fill (.single y))) = .ok data := by
    have real := Binary.isNaN_of_isRounded fine.nearest number
    rw [encode, Wire.encodeMessage, slot.encodeArguments_fill, encodeArgument_single real]
    exact ⟨_, rfl⟩
  obtain ⟨front, back, rfl, -⟩ := fine.sent written
  have known : oneTenth.rounded = .ofWord .double 0x3FB99999A0000000 := by decide +kernel
  have widened : y.widen = .ofWord .double 0x3FB99999A0000000 :=
    (build_eq_iff.mp fine.built).symm.trans known
  exact ⟨number, number', ⟨y, front, back, fine, widened, written⟩,
    refused.refused (.one slot .nil) without⟩

end Osc
