import Osc.Proofs.Layout
import Osc.Proofs.PacketTree

/-!
The canonical tree among those that denote one packet: all pad bytes are zero, strings
have the first of their two letters, every message has type tags, and a float that is not
a number is quiet. Replacing a tree by the canonical one keeps what it denotes, adds at
most one word to a message, and changes nothing exactly when the tree has all this already.
-/

namespace Osc.Wire

/-- Pad bytes for a field of a given size. -/
def zeros (size : Nat) : Bytes := List.replicate (padded size - size) 0

theorem zeros_length (size : Nat) : 4 ∣ size + (zeros size).length ∧ (zeros size).length < 4 := by
  rw [zeros, List.length_replicate, padded_eq]
  omega

/-- A field that is padded as it should be has as many pad bytes as the canonical one. -/
theorem zeros_eq_iff {size : Nat} {padding : Bytes} (aligned : 4 ∣ size + padding.length)
    (short : padding.length < 4) : zeros size = padding ↔ ∀ b ∈ padding, b = 0 := by
  obtain ⟨aligned', short'⟩ := zeros_length size
  have length := padding_length_eq aligned' aligned short' short
  rw [zeros, List.length_replicate] at length
  rw [zeros, length, eq_comm, List.eq_replicate_iff]
  exact ⟨fun h => h.2, fun h => ⟨rfl, h⟩⟩

namespace StringField

/-- The field that a text is written as. -/
def ofText (t : Text) (scalar : t.hasSurrogate = false) (nonzero : 0 ∉ t) : StringField where
  text := t
  padding := zeros ((Utf8.form t).length + 1)
  scalar := scalar
  nonzero := nonzero
  aligned := (zeros_length _).1
  short := (zeros_length _).2

theorem ofText_bytes {t : Text} {scalar : t.hasSurrogate = false} {nonzero : 0 ∉ t} :
    (ofText t scalar nonzero).bytes = terminated (Utf8.form t) := by
  rw [bytes, terminated, pad, List.append_assoc, List.length_append, List.length_singleton]
  rfl

def canonical (f : StringField) : StringField := ofText f.text f.scalar f.nonzero

theorem canonical_eq_iff {f : StringField} : f.canonical = f ↔ ∀ b ∈ f.padding, b = 0 := by
  rw [← zeros_eq_iff f.aligned f.short]
  constructor
  · intro h
    exact congrArg padding h
  · intro h
    exact StringField.ext rfl h

theorem bytes_length {f g : StringField}
    (h : (Utf8.form f.text).length = (Utf8.form g.text).length) :
    f.bytes.length = g.bytes.length := by
  have fill := padding_length_eq f.aligned (h ▸ g.aligned) f.short g.short
  rw [bytes, bytes, List.length_append, List.length_append, List.length_cons, List.length_cons, h,
    fill]

private theorem four_le (f : StringField) : 4 ≤ f.bytes.length := by
  have := f.aligned
  rw [bytes, List.length_append, List.length_cons]
  omega

end StringField

namespace BlobField

def ofData (data : Bytes) (sized : data.length < 2 ^ 31) : BlobField where
  data := data
  padding := zeros data.length
  sized := sized
  aligned := (zeros_length _).1
  short := (zeros_length _).2

theorem ofData_bytes {data : Bytes} {sized : data.length < 2 ^ 31} :
    (ofData data sized).bytes = Wire.sized data := by
  rw [bytes, Wire.sized, int32_of_lt sized, pad, ← List.append_assoc]
  rfl

def canonical (f : BlobField) : BlobField := ofData f.data f.sized

theorem canonical_eq_iff {f : BlobField} : f.canonical = f ↔ ∀ b ∈ f.padding, b = 0 := by
  rw [← zeros_eq_iff f.aligned f.short]
  constructor
  · intro h
    exact congrArg padding h
  · intro h
    exact BlobField.ext rfl h

theorem canonical_length (f : BlobField) : f.canonical.bytes.length = f.bytes.length := by
  have fill := padding_length_eq f.canonical.aligned f.aligned f.canonical.short f.short
  simp only [bytes, List.length_append, bigEndian_length, fill]
  rfl

end BlobField

/-- Strings have two letters, and the second one is never written. -/
def Tag.canonical : Tag → Tag
  | .symbol => .string
  | tag => tag

namespace Leaf

def canonical : Leaf tag → Leaf tag.canonical
  | .int w => .int w
  | .float x => .float x.quiet
  | .string field => .string field.canonical
  | .symbol field => .string field.canonical
  | .blob field => .blob field.canonical
  | .time seconds fractional => .time seconds fractional
  | .long w => .long w
  | .double x => .double x
  | .char c => .char c
  | .color red green blue alpha => .color red green blue alpha
  | .midi port status data1 data2 => .midi port status data1 data2
  | .yes => .yes
  | .no => .no
  | .nil => .nil
  | .infinitum => .infinitum

def padding : Leaf tag → Bytes
  | .string field | .symbol field => field.padding
  | .blob field => field.padding
  | _ => []

variable {tag : Tag}

private theorem canonical_argument (l : Leaf tag) : l.canonical.argument = l.argument := by
  cases l with
  | float x => exact congrArg Argument.float (Floating.Binary.widen_quiet x)
  | _ => rfl

theorem canonical_length (l : Leaf tag) : l.canonical.payload.length = l.payload.length := by
  cases l with
  | float x => exact (bigEndian_length 4 _).trans (bigEndian_length 4 _).symm
  | string field | symbol field => exact StringField.bytes_length rfl
  | blob field => exact field.canonical_length
  | _ => rfl

end Leaf

namespace Items

def canonical : Items → Items
  | .nil => .nil
  | .leaf tag first rest => .leaf tag.canonical first.canonical rest.canonical
  | .array inner rest => .array inner.canonical rest.canonical

/-- The pad bytes behind strings and blobs. -/
def padding : Items → Bytes
  | .nil => []
  | .leaf _ first rest => first.padding ++ rest.padding
  | .array inner rest => inner.padding ++ rest.padding

private theorem canonical_arguments (is : Items) : is.canonical.arguments = is.arguments := by
  induction is with
  | nil => rfl
  | leaf tag first rest ih => rw [canonical, arguments, arguments, first.canonical_argument, ih]
  | array inner rest ihInner ihRest => rw [canonical, arguments, arguments, ihInner, ihRest]

theorem canonical_length (is : Items) : is.canonical.marks.length = is.marks.length ∧
    is.canonical.payload.length = is.payload.length := by
  induction is with
  | nil => exact ⟨rfl, rfl⟩
  | leaf tag first rest ih =>
    simp only [canonical, marks, payload, List.length_cons, List.length_append,
      first.canonical_length, ih, and_self]
  | array inner rest ihInner ihRest =>
    simp only [canonical, marks, payload, List.length_cons, List.length_append, ihInner, ihRest,
      and_self]

/-- An item is canonical on its own, whatever stands behind it. -/
theorem leaf_canonical_iff {tag : Tag} {first : Leaf tag} {rest : Items}
    (number : ∀ x ∈ first.argument.floats, x.isNaN = false) :
    (Items.leaf tag first rest).canonical = .leaf tag first rest ↔
      ((∀ b ∈ first.padding, b = 0) ∧ tag ≠ .symbol) ∧ rest.canonical = rest := by
  cases first with
  | float x =>
    have single := number x.widen (by simp [Leaf.argument, Argument.floats])
    have same := Floating.Binary.quiet_of_number (Floating.Binary.isNaN_of_widen single)
    simp [canonical, Leaf.canonical, Tag.canonical, Leaf.padding, same]
  | string field =>
    simp [canonical, Leaf.canonical, Tag.canonical, Leaf.padding, StringField.canonical_eq_iff]
  | symbol field =>
    have other : (Items.leaf .symbol (.symbol field) rest).canonical ≠
        .leaf .symbol (.symbol field) rest := by
      intro h
      injection h with tags
      cases tags
    simp [other]
  | blob field =>
    simp [canonical, Leaf.canonical, Tag.canonical, Leaf.padding, BlobField.canonical_eq_iff]
  | _ => simp [canonical, Leaf.canonical, Tag.canonical, Leaf.padding]

/-- A row whose floats are numbers is canonical when its pad bytes are zero and its letters
are those that are written. -/
theorem canonical_eq_iff {is : Items}
    (numbers : ∀ x ∈ is.arguments.flatMap Argument.floats, x.isNaN = false) :
    is.canonical = is ↔ (∀ b ∈ is.padding, b = 0) ∧ .argument .symbol ∉ is.marks := by
  induction is with
  | nil => simp [canonical, padding, marks]
  | leaf tag first rest ih =>
    simp only [arguments, List.flatMap_cons, List.forall_mem_append] at numbers
    rw [leaf_canonical_iff numbers.1, ih numbers.2]
    simp only [padding, marks, List.forall_mem_append, List.mem_cons, not_or, Mark.argument.injEq,
      ne_comm (a := tag), ne_eq]
    tauto
  | array inner rest ihInner ihRest =>
    simp only [arguments, List.flatMap_cons, List.forall_mem_append, Argument.floats] at numbers
    rw [canonical, array.injEq, ihInner numbers.1, ihRest numbers.2, padding,
      List.forall_mem_append]
    simp only [marks, List.mem_cons, List.mem_append, not_or, reduceCtorEq, not_false_eq_true,
      true_and]
    tauto

end Items

/-! The type tags of a row. -/

/-- Every letter is an ASCII character that is written as its byte. -/
theorem Mark.form_codePoint (mark : Mark) :
    mark.codePoint ≠ 0 ∧ mark.codePoint.isSurrogate = false ∧
      Utf8.encodePoint mark.codePoint = [mark.byte] := by
  cases mark with
  | argument tag => cases tag <;> decide
  | opening => decide
  | closing => decide

private theorem form_letters (marks : List Mark) :
    Utf8.form (marks.map Mark.codePoint) = marks.map Mark.byte := by
  induction marks with
  | nil => rfl
  | cons mark marks ih =>
    rw [List.map_cons, Utf8.form_cons, mark.form_codePoint.2.2, ih]
    rfl

theorem form_tags (marks : List Mark) :
    Utf8.form (tagComma :: marks.map Mark.codePoint) = comma :: marks.map Mark.byte := by
  have first : Utf8.encodePoint tagComma = [comma] := by decide
  rw [Utf8.form_cons, first, form_letters]
  rfl

private theorem hasSurrogate_tags (marks : List Mark) :
    Text.hasSurrogate (tagComma :: marks.map Mark.codePoint) = false := by
  rw [Utf8.hasSurrogate_cons]
  refine ⟨by decide, ?_⟩
  simp only [Text.hasSurrogate, List.any_map, List.any_eq_false]
  intro mark _
  simp [mark.form_codePoint.2.1]

private theorem zero_not_mem_tags (marks : List Mark) :
    0 ∉ tagComma :: marks.map Mark.codePoint := by
  rw [List.mem_cons, not_or]
  refine ⟨by decide, ?_⟩
  simp only [List.mem_map, not_exists, not_and]
  exact fun mark _ => mark.form_codePoint.1

namespace Tagged

/-- A row with the tags that announce it. -/
def ofItems (is : Items) : Tagged where
  items := is
  tags := .ofText _ (hasSurrogate_tags is.marks) (zero_not_mem_tags is.marks)
  spelled := rfl

theorem ofItems_bytes (is : Items) :
    (ofItems is).bytes = terminated (comma :: is.marks.map Mark.byte) ++ is.payload := by
  rw [bytes, ofItems, StringField.ofText_bytes, form_tags]

theorem bytes_length {t u : Tagged} (marks : t.items.marks.length = u.items.marks.length)
    (payload : t.items.payload.length = u.items.payload.length) :
    t.bytes.length = u.bytes.length := by
  have tags : t.tags.bytes.length = u.tags.bytes.length := by
    apply StringField.bytes_length
    rw [t.spelled, u.spelled, form_tags, form_tags, List.length_cons, List.length_cons,
      List.length_map, List.length_map, marks]
  rw [bytes, bytes, List.length_append, List.length_append, tags, payload]

theorem ofItems_tags (t : Tagged) : (ofItems t.items).tags = t.tags.canonical := by
  obtain ⟨items, tags, spelled⟩ := t
  obtain ⟨text, padding, scalar, nonzero, aligned, short⟩ := tags
  cases spelled
  rfl

private theorem ofItems_eq_iff {is : Items} {t : Tagged} :
    ofItems is = t ↔ is = t.items ∧ ∀ b ∈ t.tags.padding, b = 0 := by
  constructor
  · rintro rfl
    exact ⟨rfl, StringField.canonical_eq_iff.mp (ofItems_tags (ofItems is)).symm⟩
  · rintro ⟨rfl, zero⟩
    exact Tagged.ext rfl ((ofItems_tags t).trans (StringField.canonical_eq_iff.mpr zero))

end Tagged

namespace MessageLayout

def items (m : MessageLayout) : Items := (m.tagged.map Tagged.items).getD .nil

theorem arguments_eq (m : MessageLayout) : m.arguments = m.items.arguments := by
  obtain ⟨address, slashed, tagged⟩ := m
  cases tagged with
  | none => rfl
  | some t => rfl

def canonical (m : MessageLayout) : MessageLayout where
  address := m.address.canonical
  slashed := m.slashed
  tagged := some (.ofItems m.items.canonical)

/-- The pad bytes of a message, those of its address and of its type tags included. -/
def padding (m : MessageLayout) : Bytes :=
  m.address.padding ++ ((m.tagged.map fun t => t.tags.padding).getD [] ++ m.items.padding)

theorem canonical_packet (m : MessageLayout) : m.canonical.packet = m.packet := by
  rw [packet, packet, arguments_eq, arguments_eq m, ← Items.canonical_arguments m.items]
  rfl

/-- A message without type tags gains the word that says there are none. -/
theorem canonical_length (m : MessageLayout) :
    m.canonical.bytes.length ≤ m.bytes.length + 4 ∧ 4 ≤ m.bytes.length := by
  obtain ⟨address, slashed, tagged⟩ := m
  have same : address.canonical.bytes.length = address.bytes.length :=
    StringField.bytes_length rfl
  have enough := address.four_le
  cases tagged with
  | none =>
    have word : (Tagged.ofItems Items.nil.canonical).bytes.length = 4 := by decide
    simp only [bytes, canonical, items, Option.map_some, Option.map_none, Option.getD_some,
      Option.getD_none, List.length_append, List.length_nil, same, word]
    omega
  | some t =>
    obtain ⟨marks, payload⟩ := t.items.canonical_length
    have rest : (Tagged.ofItems t.items.canonical).bytes.length = t.bytes.length :=
      Tagged.bytes_length marks payload
    simp only [bytes, canonical, items, Option.map_some, Option.getD_some, List.length_append,
      same, rest]
    omega

theorem canonical_eq_iff {m : MessageLayout}
    (numbers : ∀ x ∈ m.arguments.flatMap Argument.floats, x.isNaN = false) :
    m.canonical = m ↔
      (∀ b ∈ m.padding, b = 0) ∧ .argument .symbol ∉ m.items.marks ∧ m.tagged.isSome = true := by
  rw [arguments_eq] at numbers
  obtain ⟨address, slashed, tagged⟩ := m
  cases tagged with
  | none =>
    constructor
    · intro h
      cases congrArg tagged h
    · rintro ⟨-, -, impossible⟩
      cases impossible
  | some t =>
    have items := Items.canonical_eq_iff numbers
    simp only [MessageLayout.ext_iff, canonical, Option.some.injEq, Tagged.ofItems_eq_iff,
      StringField.canonical_eq_iff, MessageLayout.items, padding, Option.map_some,
      Option.getD_some, List.forall_mem_append, Option.isSome_some, and_true] at items ⊢
    rw [items]
    tauto

end MessageLayout

namespace Layout

def canonical : Layout → Layout
  | .message m => .message m.canonical
  | .bundle seconds fractional elements => .bundle seconds fractional (elements.map canonical)

theorem canonical_packet (f : Layout) : f.canonical.packet = f.packet := by
  induction f with
  | message m => rw [canonical, packet, packet, m.canonical_packet]
  | bundle seconds fractional elements ih =>
    have each : (elements.map canonical).map packet = elements.map packet := by
      rw [List.map_map]
      exact List.map_congr_left ih
    rw [canonical, packet, packet, each]

/-- The pad bytes at all levels. -/
def padding (f : Layout) : Bytes := f.messages.flatMap MessageLayout.padding

/-- The type tags at all levels. -/
def marks (f : Layout) : List Mark := f.messages.flatMap fun m => m.items.marks

private theorem packet_floats (f : Layout) :
    f.packet.floats = f.messages.flatMap fun m => m.arguments.flatMap Argument.floats := by
  induction f with
  | message m => simp [packet, messages, MessageLayout.packet, Packet.floats]
  | bundle seconds fractional elements ih =>
    rw [packet, messages, Packet.floats, List.flatMap_map, List.flatMap_assoc]
    exact List.flatMap_congr ih

private theorem canonical_eq_iff_messages {f : Layout} :
    f.canonical = f ↔ ∀ m ∈ f.messages, m.canonical = m := by
  induction f with
  | message m => simp [canonical, messages]
  | bundle seconds fractional elements ih =>
    have each : elements.map canonical = elements ↔ ∀ e ∈ elements, e.canonical = e := by
      have pointwise := List.map_inj_left (f := canonical) (g := id) (l := elements)
      rwa [List.map_id] at pointwise
    rw [canonical, bundle.injEq, each, messages]
    simp only [List.mem_flatMap, true_and]
    constructor
    · rintro h m ⟨e, he, hm⟩
      exact (ih e he).mp (h e he) m hm
    · intro h e he
      exact (ih e he).mpr fun m hm => h m ⟨e, he, hm⟩

/-- A tree whose floats are numbers is canonical when its pad bytes are zero, its letters are
those that are written and its messages have type tags. -/
theorem canonical_eq_iff {f : Layout} (numbers : ∀ x ∈ f.packet.floats, x.isNaN = false) :
    f.canonical = f ↔
      (∀ b ∈ f.padding, b = 0) ∧ .argument .symbol ∉ f.marks ∧
        ∀ m ∈ f.messages, m.tagged.isSome = true := by
  have each (m : MessageLayout) (hm : m ∈ f.messages) :=
    MessageLayout.canonical_eq_iff (m := m) fun x hx =>
      numbers x (by rw [packet_floats]; exact List.mem_flatMap.mpr ⟨m, hm, hx⟩)
  rw [canonical_eq_iff_messages, padding, marks]
  simp only [List.mem_flatMap, not_exists, not_and]
  constructor
  · intro h
    refine ⟨?_, ?_, ?_⟩
    · rintro b ⟨m, hm, hb⟩
      exact ((each m hm).mp (h m hm)).1 b hb
    · intro m hm
      exact ((each m hm).mp (h m hm)).2.1
    · intro m hm
      exact ((each m hm).mp (h m hm)).2.2
  · rintro ⟨zero, letters, tagged⟩ m hm
    exact (each m hm).mpr ⟨fun b hb => zero b ⟨m, hm, hb⟩, letters m hm, tagged m hm⟩

theorem framed_length (element : Bytes) : (framed element).length = 4 + element.length := by
  rw [framed, List.length_append, bigEndian_length]

theorem wrapped_length (seconds fractional : BitVec 32) (content : Bytes) :
    (wrapped seconds fractional content).length = 16 + content.length := by
  simp only [wrapped, List.length_append, bigEndian_length]
  rw [← Nat.add_assoc]
  rfl

/-- The canonical tree is at most twice as long. -/
theorem canonical_length (f : Layout) : f.canonical.bytes.length ≤ 2 * f.bytes.length := by
  induction f with
  | message m =>
    have := m.canonical_length
    rw [canonical, bytes, bytes]
    omega
  | bundle seconds fractional elements ih =>
    have content : ((elements.map canonical).flatMap fun e => framed e.bytes).length ≤
        2 * (elements.flatMap fun e => framed e.bytes).length := by
      induction elements with
      | nil => exact Nat.zero_le _
      | cons e elements ihElements =>
        have first := ih e List.mem_cons_self
        have others := ihElements fun d hd => ih d (List.mem_cons_of_mem e hd)
        simp only [List.map_cons, List.flatMap_cons, List.length_append, framed_length]
        omega
    rw [canonical, bytes, bytes, wrapped_length, wrapped_length]
    omega

/-- An element is shorter than the bundle around it. -/
theorem length_lt_of_mem {seconds fractional : BitVec 32} {elements : List Layout} {e : Layout}
    (h : e ∈ elements) : e.bytes.length < (bundle seconds fractional elements).bytes.length := by
  obtain ⟨before, after, rfl⟩ := List.append_of_mem h
  simp only [bytes, wrapped_length, List.flatMap_append, List.flatMap_cons, List.length_append,
    framed_length]
  omega

theorem canonical_fits {f : Layout} (short : f.bytes.length < 2 ^ 30) : f.canonical.Fits := by
  induction f with
  | message m =>
    rw [canonical]
    exact .message m.canonical
  | bundle seconds fractional elements ih =>
    rw [canonical, fits_bundle, List.forall_mem_map]
    intro e he
    have inside := (length_lt_of_mem he).trans short
    have double := e.canonical_length
    exact ⟨ih e he inside, by omega⟩

end Layout

end Osc.Wire
