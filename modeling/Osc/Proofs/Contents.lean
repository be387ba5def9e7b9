import Osc.Proofs.Accepted

/-!
What a datagram holds is no more than its bytes. Every packet takes the zero behind its address or
the tag of a bundle, every argument a letter of the type tags, and what a text or a blob holds
stands in the datagram once. So packets and arguments, counted at all levels, and the bytes of all
addresses, texts and blobs together are never more than the bytes that they were read from.
-/

namespace Osc

/-- An argument and all that it holds. -/
def Argument.nested : Argument → List Argument
  | .array items => .array items :: items.flatMap nested
  | a => [a]

def Argument.text? : Argument → Option Text
  | .string t => some t
  | _ => none

def Argument.data? : Argument → Option Bytes
  | .blob data => some data
  | _ => none

namespace Packet

/-- A packet and all packets in it, at all levels. -/
def nested : Packet → List Packet
  | .message address arguments => [.message address arguments]
  | .bundle timetag content => .bundle timetag content :: content.flatMap nested

def address? : Packet → Option Text
  | .message address _ => some address
  | .bundle .. => none

/-- The arguments of a message, those in arrays included. -/
def ownArguments : Packet → List Argument
  | .message _ arguments => arguments.flatMap Argument.nested
  | .bundle .. => []

/-- The arguments of all messages in a packet. -/
def arguments (p : Packet) : List Argument := p.nested.flatMap ownArguments

/-- All addresses, and the texts among the arguments. -/
def texts (p : Packet) : List Text :=
  p.nested.filterMap address? ++ p.arguments.filterMap Argument.text?

/-- The contents of all blobs. -/
def blobs (p : Packet) : List Bytes := p.arguments.filterMap Argument.data?

end Packet

/-! Weights. Each argument and each packet is weighed by itself, so that the weights of what
stands side by side add up. -/

/-- One for an argument, and the bytes of what it holds itself. -/
def Argument.weight : Argument → Nat
  | .string t => 1 + Utf8.size t
  | .blob data => 1 + data.length
  | _ => 1

/-- What arguments weigh together, those in arrays included. -/
def Argument.total (row : List Argument) : Nat := ((row.flatMap nested).map weight).sum

/-- One for a packet, and what its address and its arguments weigh. -/
def Packet.weight : Packet → Nat
  | .message address arguments => 1 + Utf8.size address + Argument.total arguments
  | .bundle .. => 1

def Packet.total (content : List Packet) : Nat := ((content.flatMap nested).map weight).sum

theorem Argument.total_cons (a : Argument) (row : List Argument) :
    total (a :: row) = total [a] + total row := by
  simp [total]

theorem Packet.total_cons (p : Packet) (content : List Packet) :
    total (p :: content) = total [p] + total content := by
  simp [total]

/-- An array weighs one more than its items. -/
theorem Argument.total_array (items : List Argument) : total [.array items] = 1 + total items := by
  simp [total, nested, weight]

/-- The weights of arguments count them, and the bytes of their texts and blobs. -/
theorem Argument.sum_weight (all : List Argument) :
    (all.map weight).sum = all.length + ((all.filterMap text?).map Utf8.size).sum +
      ((all.filterMap data?).map List.length).sum := by
  induction all with
  | nil => rfl
  | cons a all ih =>
    rw [List.map_cons, List.sum_cons, ih]
    cases a <;> simp [List.filterMap_cons, weight, text?, data?] <;> omega

/-- The weights of packets count them and their arguments, and the bytes of texts and blobs. -/
theorem Packet.sum_weight (all : List Packet) :
    (all.map weight).sum = all.length + (all.flatMap ownArguments).length +
      ((all.filterMap address? ++ (all.flatMap ownArguments).filterMap Argument.text?).map
        Utf8.size).sum +
      (((all.flatMap ownArguments).filterMap Argument.data?).map List.length).sum := by
  induction all with
  | nil => rfl
  | cons p all ih =>
    rw [List.map_cons, List.sum_cons, ih]
    cases p with
    | message address arguments =>
      simp only [weight, Argument.total, Argument.sum_weight, List.flatMap_cons, ownArguments,
        List.filterMap_cons, address?, List.filterMap_append, List.map_append, List.map_cons,
        List.sum_append, List.sum_cons, List.length_append, List.length_cons]
      omega
    | bundle timetag content =>
      simp only [weight, List.flatMap_cons, ownArguments, List.filterMap_cons, address?,
        List.nil_append, List.length_cons]
      omega

/-- Every character takes a byte at least. -/
theorem Utf8.length_le_size (t : Text) : t.length ≤ size t := by
  have one (c : CodePoint) : 1 ≤ (encodePoint c).length := by
    unfold encodePoint
    split_ifs <;> simp
  induction t with
  | nil => exact Nat.zero_le _
  | cons c t ih =>
    have first := one c
    rw [size] at ih ⊢
    rw [List.length_cons, List.flatMap_cons, List.length_append]
    omega

namespace Wire

theorem StringField.size_lt (f : StringField) : Utf8.size f.text < f.bytes.length := by
  rw [bytes, List.length_append, List.length_cons, Utf8.size, Utf8.form]
  omega

theorem BlobField.length_le (f : BlobField) : f.data.length ≤ f.bytes.length := by
  rw [bytes, List.length_append, List.length_append]
  omega

/-- No leaf is an array, so it is weighed by itself. -/
theorem Leaf.total_argument {tag : Tag} (l : Leaf tag) :
    Argument.total [l.argument] = l.argument.weight := by
  cases l <;> simp [Argument.total, Argument.nested, argument]

/-- What stands for a tag weighs no more than the tag and its payload. -/
theorem Leaf.total_le {tag : Tag} (l : Leaf tag) :
    Argument.total [l.argument] ≤ 1 + l.payload.length := by
  rw [l.total_argument]
  cases l with
  | string field | symbol field =>
    have text := field.size_lt
    rw [argument, Argument.weight, payload]
    omega
  | blob field =>
    have data := field.length_le
    rw [argument, Argument.weight, payload]
    omega
  | _ => exact Nat.le_add_right 1 _

/-- A row of arguments weighs no more than its tags, brackets included, and its payload. -/
theorem Items.total_le (row : Items) :
    Argument.total row.arguments ≤ row.marks.length + row.payload.length := by
  induction row with
  | nil => exact Nat.zero_le _
  | leaf tag first rest ih =>
    have one := first.total_le
    rw [arguments, Argument.total_cons, marks, payload, List.length_cons, List.length_append]
    omega
  | array inner rest ihInner ihRest =>
    rw [arguments, Argument.total_cons, Argument.total_array, marks, payload]
    simp only [List.length_cons, List.length_append]
    omega

/-- The tags and the payload of a message hold its arguments, and its address stands before. -/
theorem MessageLayout.weight_le (m : MessageLayout) : m.packet.weight ≤ m.bytes.length := by
  obtain ⟨address, slashed, tagged⟩ := m
  have addressed := address.size_lt
  cases tagged with
  | none =>
    simp only [packet, Packet.weight, arguments, bytes, Option.map_none, Option.getD_none,
      Argument.total, List.flatMap_nil, List.map_nil, List.sum_nil, List.append_nil]
    omega
  | some t =>
    have row := t.items.total_le
    have letters : t.items.marks.length < t.tags.bytes.length := by
      have spelled := congrArg List.length t.spelled
      rw [List.length_cons, List.length_map] at spelled
      have sized := Utf8.length_le_size t.tags.text
      have short := t.tags.size_lt
      omega
    simp only [packet, Packet.weight, arguments, bytes, Option.map_some, Option.getD_some,
      Tagged.bytes, List.length_append]
    omega

/-- Frames of elements hold what the elements hold. -/
theorem Layout.total_elements_le {elements : List Layout}
    (each : ∀ e ∈ elements, Packet.total [e.packet] ≤ e.bytes.length) :
    Packet.total (elements.map packet) ≤ (elements.flatMap fun e => framed e.bytes).length := by
  induction elements with
  | nil => exact Nat.zero_le _
  | cons e elements ih =>
    rw [List.forall_mem_cons] at each
    have others := ih each.2
    have first := each.1
    rw [List.map_cons, Packet.total_cons, List.flatMap_cons, List.length_append, framed,
      List.length_append]
    omega

theorem Layout.total_le (f : Layout) : Packet.total [f.packet] ≤ f.bytes.length := by
  induction f with
  | message m =>
    have one : Packet.total [m.packet] = m.packet.weight := by
      simp [Packet.total, MessageLayout.packet, Packet.nested]
    rw [packet, bytes, one]
    exact m.weight_le
  | bundle seconds fractional elements ih =>
    have inside := total_elements_le ih
    have whole : Packet.total [.bundle ⟨seconds.toNat, fractional.toNat⟩ (elements.map packet)] =
        1 + Packet.total (elements.map packet) := by
      simp [Packet.total, Packet.nested, Packet.weight]
    rw [packet, bytes, whole, wrapped, List.length_append, List.length_append]
    have head : bundleTag.length = 8 := rfl
    omega

end Wire

end Osc

namespace Osc.Codec

open Text (ofString)

/-- Packets and arguments at all levels, and the bytes of all addresses, texts and blobs, are
together no more than the bytes of the datagram that they were read from. -/
theorem osc_decode_contents {data : Bytes} {p : Packet} (read : osc.decode data = .ok p) :
    p.nested.length + p.arguments.length + (p.texts.map Utf8.size).sum +
      (p.blobs.map List.length).sum ≤ data.length := by
  obtain ⟨f, -, rfl, rfl, -⟩ := Wire.decodeWithin_iff.mp (Wire.mapError_eq_ok.mp read)
  have weighed := f.total_le
  simp only [Packet.total, List.flatMap_cons, List.flatMap_nil, List.append_nil,
    Packet.sum_weight] at weighed
  exact weighed

/-- A bundle of a message with brackets, a text, a blob and nothing, and one without tags. -/
theorem osc_decode_contents_brackets :
    let p := Packet.bundle .immediately [
      .message (ofString "/a") [.array [.array [], .string (ofString "hi")], .blob [7, 8, 9], .nil],
      .message (ofString "/b") []]
    let data : Bytes := [35, 98, 117, 110, 100, 108, 101, 0, 0, 0, 0, 0, 0, 0, 0, 1,
      0, 0, 0, 28, 47, 97, 0, 0, 44, 91, 91, 93, 115, 93, 98, 78, 0, 0, 0, 0,
      104, 105, 0, 0, 0, 0, 0, 3, 7, 8, 9, 0, 0, 0, 0, 4, 47, 98, 0, 0]
    osc.decode data = .ok p ∧ p.nested.length = 3 ∧ p.arguments.length = 5 ∧
      (p.texts.map Utf8.size).sum = 6 ∧ (p.blobs.map List.length).sum = 3 ∧
      p.nested.length + p.arguments.length + (p.texts.map Utf8.size).sum +
        (p.blobs.map List.length).sum ≤ data.length := by
  intro p data
  have read : osc.decode data = .ok p := by cbv
  exact ⟨read, by cbv, by cbv, by cbv, by cbv, osc_decode_contents read⟩

end Osc.Codec
