import Osc.Codec
import Osc.Proofs.Rounding
import Osc.Proofs.Writing

/-!
Which packets can be written. Each argument has a range of its own, and the bytes that it
takes are counted without writing it, so that the bound on the elements of a bundle says
nothing about the writer. A packet is written exactly when all its fields are in range,
however deep its arrays and bundles nest, and then it takes as many bytes as were counted.
-/

namespace Osc

/-- What a string field can hold: no zero, which ends the field, and no surrogate. -/
def Text.FitsField (t : Text) : Prop := 0 ∉ t ∧ t.hasSurrogate = false

/-- Both numbers are words of 32 bits. -/
def TimeTag.FitsWords (tag : TimeTag) : Prop :=
  (0 ≤ tag.seconds ∧ tag.seconds ≤ 2 ^ 32 - 1) ∧ 0 ≤ tag.fractional ∧ tag.fractional ≤ 2 ^ 32 - 1

/-- An argument has a wire form. -/
def Argument.Representable : Argument → Prop
  | .int n => -2 ^ 31 ≤ n ∧ n < 2 ^ 31
  | .float x => ¬ x.Overflows
  | .string t => t.FitsField
  | .blob data => data.length < 2 ^ 31
  | .time tag => tag.FitsWords
  | .long n => -2 ^ 63 ≤ n ∧ n < 2 ^ 63
  | .char t => t.length = 1
  | .color red green blue alpha => ∀ n ∈ [red, green, blue, alpha], 0 ≤ n ∧ n ≤ 255
  | .midi port status data1 data2 => ∀ n ∈ [port, status, data1, data2], 0 ≤ n ∧ n ≤ 255
  | .double _ | .bool _ | .nil | .infinitum => True
  | .array items => ∀ a ∈ items, a.Representable

/-- The number of letters that an argument has among the type tags. -/
def Argument.tagCount : Argument → Nat
  | .array items => 2 + (items.map tagCount).sum
  | _ => 1

/-- The number of bytes of a string field. -/
def Text.fieldSize (t : Text) : Nat := Wire.padded (Utf8.size t + 1)

/-- The number of bytes that an argument has behind the type tags. -/
def Argument.payloadSize : Argument → Nat
  | .int _ | .float _ | .char _ | .color .. | .midi .. => 4
  | .time _ | .long _ | .double _ => 8
  | .string t => t.fieldSize
  | .blob data => 4 + Wire.padded data.length
  | .bool _ | .nil | .infinitum => 0
  | .array items => (items.map payloadSize).sum

/-- The number of bytes of the wire form of a packet. -/
def Packet.size : Packet → Nat
  | .message address arguments =>
    address.fieldSize + Wire.padded ((arguments.map Argument.tagCount).sum + 2) +
      (arguments.map Argument.payloadSize).sum
  | .bundle _ content => 16 + (content.map fun p => 4 + p.size).sum

/-- A packet has a wire form: all its fields do, and the elements of each bundle in it are short
enough for their sizes to be written. -/
def Packet.Representable : Packet → Prop
  | .message address arguments =>
    address.head? = some Wire.slash ∧ address.FitsField ∧ ∀ a ∈ arguments, a.Representable
  | .bundle timetag content =>
    timetag.FitsWords ∧ ∀ p ∈ content, p.Representable ∧ p.size < 2 ^ 31

namespace Wire

/-- A step succeeds exactly when a condition holds, and then gives something of a kind. -/
structure Gives (x : Except ε α) (fits : Prop) (kind : α → Prop) : Prop where
  exists_ok : fits → ∃ a, x = .ok a
  of_ok : ∀ a, x = .ok a → fits ∧ kind a

namespace Gives

variable {x : Except ε α} {fits : Prop} {kind : α → Prop}

theorem ok {a : α} (h : kind a) : Gives (.ok a : Except ε α) True kind :=
  ⟨fun _ => ⟨a, rfl⟩, fun b same => ⟨trivial, by cases same; exact h⟩⟩

theorem congr (h : Gives x fits kind) {other : Prop} (same : fits ↔ other) : Gives x other kind :=
  ⟨fun fine => h.exists_ok (same.mpr fine), fun a found => (h.of_ok a found).imp_left same.mp⟩

theorem map (h : Gives x fits kind) {f : α → β} {kind' : β → Prop}
    (next : ∀ a, kind a → kind' (f a)) : Gives (f <$> x) fits kind' := by
  constructor
  · intro fine
    obtain ⟨a, rfl⟩ := h.exists_ok fine
    exact ⟨f a, rfl⟩
  · intro b found
    obtain ⟨a, first, rfl⟩ := ok_of_map found
    exact (h.of_ok a first).imp_right (next a)

theorem mapError (h : Gives x fits kind) (f : ε → δ) : Gives (x.mapError f) fits kind := by
  constructor
  · intro fine
    obtain ⟨a, rfl⟩ := h.exists_ok fine
    exact ⟨a, rfl⟩
  · intro a found
    exact h.of_ok a (mapError_eq_ok.mp found)

theorem bind (h : Gives x fits kind) {f : α → Except ε β} {later : Prop} {kind' : β → Prop}
    (next : ∀ a, kind a → Gives (f a) later kind') : Gives (x >>= f) (fits ∧ later) kind' := by
  constructor
  · rintro ⟨fine, more⟩
    obtain ⟨a, rfl⟩ := h.exists_ok fine
    exact (next a (h.of_ok a rfl).2).exists_ok more
  · intro b found
    obtain ⟨a, first, found⟩ := ok_of_bind found
    obtain ⟨fine, like⟩ := h.of_ok a first
    obtain ⟨more, last⟩ := (next a like).of_ok b found
    exact ⟨⟨fine, more⟩, last⟩

/-- The last step of several. -/
theorem last (h : Gives x fits kind) {f : α → β} {kind' : β → Prop}
    (next : ∀ a, kind a → kind' (f a)) : Gives (x >>= fun a => pure (f a)) fits kind' := by
  have same : (x >>= fun a => pure (f a)) = f <$> x := by cases x <;> rfl
  rw [same]
  exact h.map next

theorem ite {p : Prop} [Decidable p] {a : α} {e : ε} (h : p → kind a) :
    Gives (if p then .ok a else .error e : Except ε α) p kind := by
  split
  · next fine => exact (ok (h fine)).congr (by simp [fine])
  · next out => exact ⟨fun fine => absurd fine out, fun _ found => by cases found⟩

end Gives

theorem pad_length (data : Bytes) : (pad data).length = padded data.length := by
  have := padded_eq data.length
  simp [pad]
  omega

theorem terminated_length (data : Bytes) : (terminated data).length = padded (data.length + 1) := by
  simp [terminated, pad_length]

private theorem encodeText_gives (t : Text) :
    Gives (encodeText t) t.FitsField (·.length = t.fieldSize) := by
  constructor
  · rintro ⟨nonzero, scalar⟩
    have clean : ¬ t.contains 0 = true := by simpa using nonzero
    rw [encodeText, if_neg clean, Utf8.encode_eq_ok.mpr ⟨scalar, rfl⟩]
    exact ⟨_, rfl⟩
  · intro data written
    unfold encodeText at written
    split at written
    · cases written
    · next clean =>
      split at written
      · next body found =>
        cases written
        obtain ⟨scalar, rfl⟩ := Utf8.encode_eq_ok.mp found
        exact ⟨⟨by simpa using clean, scalar⟩, terminated_length _⟩
      · cases written

private theorem encodeInt_gives (n : Int) :
    Gives (encodeInt (.int n)) (-2 ^ 31 ≤ n ∧ n < 2 ^ 31) (·.length = 4) := by
  rw [encodeInt, integer_int, bind_ok]
  by_cases fits : -2 ^ 31 ≤ n ∧ n < 2 ^ 31
  · rw [if_pos (by simpa using fits)]
    refine Gives.congr (.ok ?_) ?_
    · exact bigEndian_length 4 _
    · simpa using fits
  · rw [if_neg (by simpa using fits)]
    refine ⟨fun fine => absurd fine fits, fun data written => ?_⟩
    split at written <;> cases written

private theorem encodeLong_gives (n : Int) :
    Gives (encodeLong (.int n)) (-2 ^ 63 ≤ n ∧ n < 2 ^ 63) (·.length = 8) := by
  rw [encodeLong, integer_int, bind_ok]
  refine Gives.congr (.ite fun _ => ?_) ?_
  · exact bigEndian_length 8 _
  · simp

private theorem encodeFloat_gives (x : Floating.Binary64) :
    Gives (encodeFloat (.float x)) (¬ x.Overflows) (·.length = 4) := by
  rw [← Floating.Binary.narrow?_eq_none_iff]
  simp only [encodeFloat, real, Value.real?, bind_ok]
  split
  · next y narrowed =>
    refine Gives.congr (.ok ?_) ?_
    · exact bigEndian_length 4 _
    · simp [narrowed]
  · next large => exact ⟨fun fine => absurd large fine, fun _ written => by cases written⟩

private theorem encodeChar_gives (t : Text) :
    Gives (encodeChar (.text t)) (t.length = 1) (·.length = 4) := by
  constructor
  · intro single
    obtain ⟨c, rfl⟩ := List.length_eq_one_iff.mp single
    exact ⟨_, rfl⟩
  · intro data written
    obtain ⟨c, rfl⟩ := char_of_encodeChar written
    cases written
    exact ⟨rfl, bigEndian_length 4 _⟩

private theorem allInRange_gives (limit : Int) (ns : List Int) {f : Except Fault Bytes} {e : Fault}
    {kind : Bytes → Prop} (h : Gives f True kind) :
    Gives (((allInRange limit (ns.map .int)).mapError .field) >>= fun inside =>
      if inside then f else .error e) (∀ n ∈ ns, 0 ≤ n ∧ n ≤ limit) kind := by
  rw [allInRange_ints]
  cases inside : ns.all fun n => 0 ≤ n && n ≤ limit with
  | true =>
    refine Gives.congr (show Gives _ True kind from h) ?_
    simpa using inside
  | false =>
    refine ⟨fun fine => ?_, fun _ written => by cases written⟩
    have all : (ns.all fun n => 0 ≤ n && n ≤ limit) = true := by simpa using fine
    rw [inside] at all
    cases all

theorem encodeTimetag_gives (tag : TimeTag) :
    Gives (encodeTimetag tag.toValue) tag.FitsWords (·.length = 8) := by
  obtain ⟨seconds, fractional⟩ := tag
  have written : Gives (.ok (bigEndian 4 seconds.toNat ++ bigEndian 4 fractional.toNat) :
      Except Fault Bytes) True (·.length = 8) := .ok (by simp [bigEndian_length])
  have checked := allInRange_gives word32Max [seconds, fractional]
    (e := .encode (.timetagRange (TimeTag.toValue ⟨seconds, fractional⟩))) written
  exact checked.congr (by simp [TimeTag.FitsWords, word32Max])

private theorem encodeQuad_gives (kind : QuadKind) (ns : List Int) :
    Gives (encodeQuad kind (ns.map .int)) (∀ n ∈ ns, 0 ≤ n ∧ n ≤ 255) (·.length = ns.length) := by
  rw [encodeQuad]
  apply allInRange_gives
  rw [encodeComponents_ints]
  exact .ok (by simp)

private theorem encodeBlob_gives (data : Bytes) :
    Gives (encodeBlob data) (data.length < 2 ^ 31) (·.length = 4 + padded data.length) :=
  .ite fun _ => by simp [sized, int32, bigEndian_length, pad_length]

/-- Tags and data of given lengths. -/
def Payload.HasSize (tags data : Nat) (p : Payload) : Prop :=
  p.tags.length = tags ∧ p.data.length = data

theorem Payload.hasSize_one (tag : Tag) {data : Bytes} {size : Nat} (h : data.length = size) :
    (Payload.one tag data).HasSize 1 size := ⟨rfl, h⟩

theorem Payload.hasSize_append {p q : Payload} {tags data tags' data' : Nat}
    (first : p.HasSize tags data) (second : q.HasSize tags' data') :
    (p.append q).HasSize (tags + tags') (data + data') := by
  simp [HasSize, append, first.1, first.2, second.1, second.2]

theorem Payload.hasSize_bracketed {p : Payload} {tags data : Nat} (h : p.HasSize tags data) :
    p.bracketed.HasSize (2 + tags) data := by
  simp [HasSize, bracketed, h.1, h.2]
  omega

/-- A field that is written after its tag. -/
theorem Gives.one {x : Except Fault Bytes} {fits : Prop} {size : Nat}
    (h : Gives x fits (·.length = size)) (tag : Tag) :
    Gives (Payload.one tag <$> x) fits (Payload.HasSize 1 size) :=
  h.map fun _ => Payload.hasSize_one tag

/-- An argument that is no array is written exactly when it is in range. -/
theorem encodeArgument_gives {a : Argument} (single : ∀ items, a ≠ .array items) :
    Gives (encodeArgument a.toValue) a.Representable (Payload.HasSize a.tagCount a.payloadSize) := by
  rw [Argument.Representable.eq_def, Argument.tagCount.eq_def, Argument.payloadSize.eq_def]
  cases a with
  | int n => exact ((encodeInt_gives n).mapError .field).one .int
  | float x => exact ((encodeFloat_gives x).mapError .field).one .float
  | string t => exact (encodeText_gives t).one .string
  | blob data => exact ((encodeBlob_gives data).mapError .field).one .blob
  | time tag => exact (encodeTimetag_gives tag).one .time
  | long n => exact ((encodeLong_gives n).mapError .field).one .long
  | double x => exact .ok (Payload.hasSize_one .double (bigEndian_length 8 x.word))
  | char t => exact (encodeChar_gives t).one .char
  | color red green blue alpha =>
    exact (encodeQuad_gives .color [red, green, blue, alpha]).one .color
  | midi port status data1 data2 =>
    exact (encodeQuad_gives .midi [port, status, data1, data2]).one .midi
  | bool b => exact .ok (Payload.hasSize_one _ rfl)
  | nil => exact .ok (Payload.hasSize_one .nil rfl)
  | infinitum => exact .ok (Payload.hasSize_one .infinitum rfl)
  | array items => exact absurd rfl (single items)

/-- A row of arguments is written exactly when each of them, inside arrays too, is in range. -/
theorem encodeArguments_gives (row : List Argument) :
    Gives (encodeArguments (Argument.toValues row)) (∀ a ∈ row, a.Representable)
      (Payload.HasSize (row.map Argument.tagCount).sum (row.map Argument.payloadSize).sum) := by
  induction row using Argument.row_induction with
  | nil => exact (Gives.ok ⟨rfl, rfl⟩).congr (by simp)
  | cons a rest ihItems ihRest =>
    have first : Gives (encodeArgument a.toValue) a.Representable
        (Payload.HasSize a.tagCount a.payloadSize) := by
      by_cases nested : ∃ items, a = .array items
      · obtain ⟨items, rfl⟩ := nested
        rw [Argument.Representable, Argument.tagCount, Argument.payloadSize]
        exact (ihItems items rfl).map fun _ => Payload.hasSize_bracketed
      · exact encodeArgument_gives fun items same => nested ⟨items, same⟩
    rw [Argument.toValues, encodeArguments]
    refine Gives.congr (first.bind fun p size => ihRest.last fun q size' => ?_) ?_
    · exact Payload.hasSize_append size size'
    · simp

private theorem encodeMessage_gives (address : Text) (arguments : List Argument) :
    Gives (encode (Packet.message address arguments).toValue)
      (Packet.message address arguments).Representable
      (·.length = (Packet.message address arguments).size) := by
  rw [Packet.toValue, encode, encodeMessage, Packet.Representable, Packet.size]
  by_cases slashed : address.head? = some slash
  · rw [if_pos slashed]
    refine Gives.congr (((encodeArguments_gives arguments).mapError _).bind fun p size =>
      (encodeText_gives address).last fun head length => ?_) ?_
    · simp [terminated_length, size.1, size.2, length, add_assoc]
    · simp [slashed, and_comm]
  · rw [if_neg slashed]
    exact ⟨fun fine => absurd fine.1 slashed, fun _ written => by cases written⟩

theorem framed_gives (element : Bytes) :
    Gives (framed element) (element.length < 2 ^ 31) (·.length = 4 + element.length) :=
  .ite fun _ => by simp [int32, bigEndian_length]

/-- The elements of a bundle are written exactly when each can be written and is short enough. -/
theorem encodeElements_gives {content : List Packet}
    (each : ∀ p ∈ content, Gives (encode p.toValue) p.Representable (·.length = p.size)) :
    Gives (encodeElements (Packet.toValues content))
      (∀ p ∈ content, p.Representable ∧ p.size < 2 ^ 31)
      (·.length = (content.map fun p => 4 + p.size).sum) := by
  induction content with
  | nil =>
    refine Gives.congr (.ok ?_) ?_
    · rfl
    · simp
  | cons p rest ih =>
    have others := ih fun q member => each q (List.mem_cons_of_mem p member)
    rw [Packet.toValues, encodeElements]
    refine Gives.congr ((each p List.mem_cons_self).bind fun element length =>
      ((framed_gives element).congr (by rw [length])).bind fun first size =>
        others.last fun more total => ?_) ?_
    · simp [size, total, length]
    · simp [and_assoc]

theorem encode_gives (p : Packet) :
    Gives (encode p.toValue) p.Representable (·.length = p.size) := by
  induction p with
  | message address arguments => exact encodeMessage_gives address arguments
  | bundle timetag content ih =>
    rw [Packet.toValue, encode, Packet.Representable, Packet.size]
    refine Gives.congr (((encodeTimetag_gives timetag).mapError _).bind fun time length =>
      (encodeElements_gives ih).last fun elements total => ?_) ?_
    · simp [bundleTag, length, total]
      omega
    · simp

end Wire

namespace Codec

/-- Exactly the packets with a wire form are written, at any depth, in as many bytes as counted. -/
theorem osc_encode_ok_iff (p : Packet) :
    ((∃ data, osc.encode p.toValue = .ok data) ↔ p.Representable) ∧
      ∀ data, osc.encode p.toValue = .ok data → data.length = p.size := by
  have gives := Wire.encode_gives p
  refine ⟨⟨?_, gives.exists_ok⟩, fun data written => (gives.of_ok data written).2⟩
  rintro ⟨data, written⟩
  exact (gives.of_ok data written).1

end Codec

end Osc
