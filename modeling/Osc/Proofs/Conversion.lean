import Osc.Proofs.Accepted
import Osc.Proofs.Representable
import Osc.Value.Convert

/-!
Plain values as arguments. What a caller sends is an address with plain values, and its
conversion gives a message whatever the values are. Whether the message can be written is
known from the values alone: bytes and truth values always can, a whole number that does not
fit in 32 bits is sent in 64, a float is rounded and must not be too large, texts and times
have the bounds of their fields. A message that is written is read back as it was converted.
-/

namespace Osc

open Floating (Binary64)

/-- A plain value with an argument of its own. Byte strings of all kinds are sent alike. -/
inductive Plain where
  | none
  | bool (b : Bool)
  | int (n : Int)
  | float (x : Binary64)
  | text (t : Text)
  | bytes (form : ByteForm) (data : Bytes) (short : data.length < 2 ^ 31)
  | time (tag : TimeTag)
  | list (items : List Plain)

/-- What is given beside an address: a tuple of values or a single value, which may be a list. -/
inductive Given where
  | tuple (items : List Plain)
  | single (v : Plain)

/-- The number that a float is sent as. One that is too large is kept. -/
def Floating.Binary.rounded (x : Binary64) : Binary64 :=
  match x.narrow? with
  | some y => y.widen
  | none => x

namespace Plain

@[elab_as_elim, induction_eliminator]
theorem nested_induction {motive : Plain → Prop} (none : motive .none)
    (bool : ∀ b, motive (.bool b)) (int : ∀ n, motive (.int n)) (float : ∀ x, motive (.float x))
    (text : ∀ t, motive (.text t)) (bytes : ∀ form data short, motive (.bytes form data short))
    (time : ∀ tag, motive (.time tag))
    (list : ∀ items, (∀ v ∈ items, motive v) → motive (.list items)) : ∀ v, motive v
  | .none => none
  | .bool b => bool b
  | .int n => int n
  | .float x => float x
  | .text t => text t
  | .bytes form data short => bytes form data short
  | .time tag => time tag
  | .list items =>
    list items fun v _ => nested_induction none bool int float text bytes time list v

def toValue : Plain → Value
  | .none => .none
  | .bool b => .bool b
  | .int n => .int n
  | .float x => .float x
  | .text t => .text t
  | .bytes form data _ => .bytes form data
  | .time tag => tag.toValue
  | .list items => .list (items.map toValue)

/-- The argument that a value is sent as; a list among the values becomes an array. -/
def argument : Plain → Argument
  | .none => .nil
  | .bool b => .bool b
  | .int n => if -2 ^ 31 ≤ n ∧ n < 2 ^ 31 then .int n else .long n
  | .float x => .float x.rounded
  | .text t => .string t
  | .bytes _ data _ => .blob data
  | .time tag => .time tag
  | .list items => .array (items.map argument)

/-- A value can be sent. -/
def Sendable : Plain → Prop
  | .none | .bool _ | .bytes .. => True
  | .int n => -2 ^ 63 ≤ n ∧ n < 2 ^ 63
  | .float x => ¬ x.Overflows
  | .text t => t.FitsField
  | .time tag => tag.FitsWords
  | .list items => ∀ v ∈ items, v.Sendable

end Plain

namespace Given

/-- The values that become arguments one by one. A list that stands alone is a group of them. -/
def group : Given → List Plain
  | .tuple items | .single (.list items) => items
  | .single v => [v]

def toValue : Given → Value
  | .tuple items => .tuple (items.map Plain.toValue)
  | .single v => v.toValue

/-- The message that is sent to an address. -/
def message (given : Given) (address : Text) : Packet :=
  .message address (given.group.map Plain.argument)

def Sendable (given : Given) : Prop := ∀ v ∈ given.group, v.Sendable

end Given

section Converting

theorem toArgumentAll_of {items : List Plain}
    (each : ∀ v ∈ items, v.toValue.toArgument = .ok v.argument.toValue) :
    Value.toArgumentAll (items.map Plain.toValue) =
      .ok (Argument.toValues (items.map Plain.argument)) := by
  induction items with
  | nil => rfl
  | cons v rest ih =>
    rw [List.map_cons, Value.toArgumentAll, each v List.mem_cons_self,
      ih fun w member => each w (List.mem_cons_of_mem v member)]
    rfl

/-- Every plain value converts into its argument. -/
theorem Plain.toArgument_toValue (v : Plain) : v.toValue.toArgument = .ok v.argument.toValue := by
  induction v with
  | int n =>
    rw [toValue, Value.toArgument, Value.ofInteger, argument]
    by_cases short : -2 ^ 31 ≤ n ∧ n < 2 ^ 31
    · rw [if_pos short, if_pos (by simpa using short), Argument.toValue]
    · rw [if_neg short, if_neg (by simpa using short), Argument.toValue]
  | list items ih =>
    rw [toValue, Value.toArgument, toArgumentAll_of ih, argument, Argument.toValue]
    rfl
  | float x => rw [toValue, Value.toArgument, argument, Argument.toValue]; rfl
  | time tag => rw [toValue, TimeTag.toValue, Value.toArgument, argument, Argument.toValue]; rfl
  | _ => rw [toValue, Value.toArgument, argument, Argument.toValue]

/-- So does a group of them. -/
theorem Given.toArguments_toValue (given : Given) :
    given.toValue.toArguments = .ok (Argument.toValues (given.group.map Plain.argument)) := by
  have row (items : List Plain) := toArgumentAll_of fun v (_ : v ∈ items) => v.toArgument_toValue
  cases given with
  | tuple items => exact row items
  | single v =>
    by_cases listed : ∃ items, v = .list items
    · obtain ⟨items, rfl⟩ := listed
      rw [toValue, Plain.toValue, group]
      exact row items
    · have alone : (single v).group = [v] := by
        cases v with
        | list items => exact absurd ⟨items, rfl⟩ listed
        | _ => rfl
      have one : v.toValue.toArguments = do return [← v.toValue.toArgument] := by
        cases v with
        | list items => exact absurd ⟨items, rfl⟩ listed
        | _ => rw [Plain.toValue]; rfl
      rw [alone, toValue, one, v.toArgument_toValue]
      rfl

/-- An address with plain values converts into their message. -/
theorem Given.toPacket_pair (given : Given) (address : Text) :
    (Value.tuple [.text address, given.toValue]).toPacket =
      .ok (given.message address).toValue := by
  rw [Value.toPacket, Value.toMessage, given.toArguments_toValue]
  · rfl
  · rintro _ _ ⟨⟩
  · rintro _ _ ⟨⟩

end Converting

section Writing

/-- A rounded number is not too large, unless it was before. -/
theorem Floating.Binary.overflows_rounded (x : Binary64) :
    x.rounded.Overflows ↔ x.Overflows := by
  rw [← narrow?_eq_none_iff, ← narrow?_eq_none_iff, rounded]
  cases narrowed : x.narrow? with
  | none => exact iff_of_true narrowed rfl
  | some y => simp [narrow_widen]

/-- The argument of a value can be written exactly when the value can be sent. -/
theorem Plain.representable_argument (v : Plain) : v.argument.Representable ↔ v.Sendable := by
  induction v with
  | int n =>
    rw [argument, Sendable]
    split
    · next short =>
      rw [Argument.Representable]
      omega
    · rw [Argument.Representable]
  | float x => rw [argument, Sendable, Argument.Representable, x.overflows_rounded]
  | bytes form data short =>
    rw [argument, Sendable, Argument.Representable]
    exact iff_true_intro short
  | list items ih =>
    rw [argument, Sendable, Argument.Representable, List.forall_mem_map]
    exact forall₂_congr ih
  | _ => rw [argument, Sendable, Argument.Representable]

theorem Given.representable_message (given : Given) (address : Text) :
    (given.message address).Representable ↔
      address.head? = some Wire.slash ∧ address.FitsField ∧ given.Sendable := by
  have arguments : (∀ a ∈ given.group.map Plain.argument, a.Representable) ↔ given.Sendable := by
    rw [List.forall_mem_map]
    exact forall₂_congr fun v _ => v.representable_argument
  rw [message, Packet.Representable, arguments]

end Writing

section Reading

/-- Building a float rounds it. -/
theorem buildFloat_float (x : Binary64) :
    (Value.Form.scalar .float).build [.float x] = .ok (Argument.float x.rounded).toValue := by
  simp only [Value.Form.build, Value.Form.buildIn, Value.buildFloat, Value.real?, Argument.toValue,
    Floating.Binary.rounded]
  cases x.narrow? with
  | some y => rfl
  | none => rfl

/-- The floats among the arguments of plain values are rounded. -/
theorem Plain.exists_rounded (v : Plain) :
    ∀ y ∈ v.argument.floats, ∃ x : Binary64, y = x.rounded := by
  induction v with
  | float x => simp [argument, Argument.floats]
  | int n => rw [argument]; split <;> simp [Argument.floats]
  | list items ih => simpa [argument, Argument.floats] using fun y v member => ih v member y
  | _ => simp [argument, Argument.floats]

theorem Given.message_built (given : Given) (address : Text) : (given.message address).Built := by
  intro y member
  rw [message, Packet.floats, List.mem_flatMap] at member
  obtain ⟨a, among, inside⟩ := member
  obtain ⟨v, -, rfl⟩ := List.mem_map.mp among
  obtain ⟨x, rfl⟩ := v.exists_rounded y inside
  exact ⟨.float x, buildFloat_float x⟩

/-- A message whose floats were built is read as it was written. -/
theorem decode_message {address : Text} {arguments : List Argument} {data : Bytes}
    (built : (Packet.message address arguments).Built)
    (written : Wire.encode (Packet.message address arguments).toValue = .ok data) :
    Wire.decode data = .ok (.message address arguments) := by
  obtain ⟨f, fits, same⟩ := Wire.layout_of_encode built written
  have spelled : Wire.encode (Packet.message address arguments).toValue = .ok f.canonical.bytes :=
    same ▸ Wire.encode_packet fits
  cases spelled.symm.trans written
  have flat : (Packet.message address arguments).depth ≤ maxBundleDepth := by
    rw [Packet.depth]
    exact Nat.zero_le _
  have read := Wire.decodeWithin_bytes fits maxBundleDepth
  rw [f.canonical_packet, same, if_pos flat] at read
  exact read

/-- What is written of plain values is read as their message. -/
theorem Given.decode_encode {given : Given} {address : Text} {data : Bytes}
    (written : Codec.osc.encode (given.message address).toValue = .ok data) :
    Wire.decode data = .ok (given.message address) :=
  decode_message (given.message_built address) written

end Reading

end Osc
