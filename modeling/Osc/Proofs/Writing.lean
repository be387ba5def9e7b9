import Osc.Proofs.Canonical
import Osc.Proofs.Reading

/-!
Writing and the grammar. Whatever a tree denotes is written as the canonical tree, as
long as the sizes of the elements fit, and a packet that is written at all is what some
tree denotes. Floats are the one argument whose fields must have been built: one that was
put together from any other number in double precision would lose digits.
-/

namespace Osc.Wire

open Floating (Binary32 Binary64)

theorem integer_int (n : Int) : integer (.int n) = .ok n := rfl

private theorem encodeInt_word (w : BitVec 32) :
    encodeInt (.int w.toInt) = .ok (bigEndian 4 w.toNat) := by
  have low := BitVec.le_toInt w
  have high := BitVec.toInt_lt (x := w)
  have fits : (-2 ^ 31 ≤ w.toInt && w.toInt < 2 ^ 31) = true := by
    simp only [Bool.and_eq_true, decide_eq_true_eq]
    omega
  rw [encodeInt, integer_int, bind_ok, if_pos fits, int32_toInt]

theorem exists_signed (bits : Nat) {n : Int} (low : -2 ^ bits ≤ n) (high : n < 2 ^ bits) :
    ∃ w : BitVec (bits + 1), n = w.toInt :=
  ⟨BitVec.ofInt (bits + 1) n, (BitVec.toInt_ofInt_eq_self bits.succ_pos low high).symm⟩

private theorem word_of_encodeInt {n : Int} {data : Bytes} (h : encodeInt (.int n) = .ok data) :
    ∃ w : BitVec 32, n = w.toInt := by
  rw [encodeInt, integer_int, bind_ok] at h
  split at h
  · next fits =>
    simp only [Bool.and_eq_true, decide_eq_true_eq] at fits
    exact exists_signed 31 fits.1 fits.2
  · split at h
    · cases h
    · cases h

private theorem encodeLong_word (w : BitVec 64) :
    encodeLong (.int w.toInt) = .ok (bigEndian 8 w.toNat) := by
  have low := BitVec.le_toInt w
  have high := BitVec.toInt_lt (x := w)
  have fits : (-2 ^ 63 ≤ w.toInt && w.toInt < 2 ^ 63) = true := by
    simp only [Bool.and_eq_true, decide_eq_true_eq]
    omega
  rw [encodeLong, integer_int, bind_ok, if_pos fits, int64_toInt]

private theorem word_of_encodeLong {n : Int} {data : Bytes} (h : encodeLong (.int n) = .ok data) :
    ∃ w : BitVec 64, n = w.toInt := by
  rw [encodeLong, integer_int, bind_ok] at h
  split at h
  · next fits =>
    simp only [Bool.and_eq_true, decide_eq_true_eq] at fits
    exact exists_signed 63 fits.1 fits.2
  · cases h

theorem encodeFloat_float {x : Binary64} {y : Binary32} (h : x.narrow? = some y) :
    encodeFloat (.float x) = .ok (bigEndian 4 y.word) := by
  simp only [encodeFloat, real, Value.real?, bind_ok, h]

private theorem narrow_of_encodeFloat {x : Binary64} {data : Bytes}
    (h : encodeFloat (.float x) = .ok data) : ∃ y, x.narrow? = some y := by
  simp only [encodeFloat, real, Value.real?, bind_ok] at h
  split at h
  · next y narrowed => exact ⟨y, narrowed⟩
  · cases h

theorem encodeText_field (f : StringField) : encodeText f.text = .ok f.canonical.bytes := by
  have clean : ¬ f.text.contains 0 = true := by
    rw [List.contains_iff_mem]
    exact f.nonzero
  have written := Utf8.encode_eq_ok.mpr ⟨f.scalar, rfl⟩
  rw [encodeText, if_neg clean, written, StringField.canonical, StringField.ofText_bytes]

theorem field_of_encodeText {t : Text} {data : Bytes} (h : encodeText t = .ok data) :
    ∃ f : StringField, f.text = t := by
  rw [encodeText] at h
  split at h
  · cases h
  · next clean =>
    split at h
    · next written =>
      obtain ⟨scalar, -⟩ := Utf8.encode_eq_ok.mp written
      rw [List.contains_iff_mem] at clean
      exact ⟨.ofText t scalar clean, rfl⟩
    · cases h

private theorem inRange_int (limit n : Int) :
    inRange limit (.int n) = .ok (0 ≤ n && n ≤ limit) := rfl

theorem allInRange_ints (limit : Int) (ns : List Int) :
    allInRange limit (ns.map .int) = .ok (ns.all fun n => 0 ≤ n && n ≤ limit) := by
  induction ns with
  | nil => rfl
  | cons n ns ih =>
    rw [List.map_cons, allInRange, inRange_int, bind_ok, List.all_cons]
    cases (0 ≤ n && n ≤ limit : Bool) with
    | true => exact ih
    | false => rfl

theorem encodeComponents_ints (ns : List Int) :
    encodeComponents (ns.map .int) = .ok (ns.map fun n => UInt8.ofNat n.toNat) := by
  induction ns with
  | nil => rfl
  | cons n ns ih =>
    rw [List.map_cons, encodeComponents.eq_def]
    simp only [Value.integer?, ih]
    rfl

theorem encodeTimetag_words (seconds fractional : BitVec 32) :
    encodeTimetag (TimeTag.toValue ⟨seconds.toNat, fractional.toNat⟩) =
      .ok (bigEndian 4 seconds.toNat ++ bigEndian 4 fractional.toNat) := by
  have inside (w : BitVec 32) : (0 ≤ (w.toNat : Int) && (w.toNat : Int) ≤ word32Max) = true := by
    have := w.isLt
    simp only [Bool.and_eq_true, decide_eq_true_eq]
    rw [word32Max]
    omega
  have fits : allInRange word32Max [.int seconds.toNat, .int fractional.toNat] = .ok true := by
    refine (allInRange_ints word32Max [seconds.toNat, fractional.toNat]).trans ?_
    simp only [List.all_cons, List.all_nil, inside, Bool.and_self]
  simp only [TimeTag.toValue, encodeTimetag, fits, integer_int, Except.mapError, bind_ok, if_true,
    Int.toNat_natCast]
  rfl

theorem words_of_encodeTimetag {tag : TimeTag} {data : Bytes}
    (h : encodeTimetag tag.toValue = .ok data) :
    ∃ seconds fractional : BitVec 32, tag = ⟨seconds.toNat, fractional.toNat⟩ := by
  have word {n : Int} (inside : 0 ≤ n ∧ n ≤ word32Max) : ∃ w : BitVec 32, n = w.toNat := by
    rw [word32Max] at inside
    exact ⟨BitVec.ofNatLT n.toNat (by omega), by rw [BitVec.toNat_ofNatLT]; omega⟩
  obtain ⟨s, f⟩ := tag
  have checked := allInRange_ints word32Max [s, f]
  simp only [TimeTag.toValue, encodeTimetag] at h
  rw [List.map_cons, List.map_cons, List.map_nil] at checked
  rw [checked] at h
  simp only [Except.mapError, bind_ok] at h
  split at h
  · next fits =>
    simp only [List.all_cons, List.all_nil, Bool.and_eq_true, decide_eq_true_eq] at fits
    obtain ⟨seconds, rfl⟩ := word fits.1
    obtain ⟨fractional, rfl⟩ := word fits.2.1
    exact ⟨seconds, fractional, rfl⟩
  · cases h

theorem char_of_encodeChar {t : Text} {data : Bytes} (h : encodeChar (.text t) = .ok data) :
    ∃ c, t = [c] := by
  match t with
  | [] => cases h
  | [c] => exact ⟨c, rfl⟩
  | _ :: _ :: _ =>
    simp [encodeChar, Value.length?, Value.items?] at h

theorem encodeQuad_bytes (kind : QuadKind) (a b c d : UInt8) :
    encodeQuad kind [.int a.toNat, .int b.toNat, .int c.toNat, .int d.toNat] =
      .ok [a, b, c, d] := by
  have inside (b : UInt8) : (0 ≤ (b.toNat : Int) && (b.toNat : Int) ≤ 255) = true := by
    have := b.toNat_lt
    simp only [Bool.and_eq_true, decide_eq_true_eq]
    omega
  have checked := allInRange_ints 255 [a.toNat, b.toNat, c.toNat, d.toNat]
  have written := encodeComponents_ints [a.toNat, b.toNat, c.toNat, d.toNat]
  simp only [List.map_cons, List.map_nil, List.all_cons, List.all_nil, inside, Bool.and_self,
    Int.toNat_natCast, UInt8.ofNat_toNat] at checked written
  simp only [encodeQuad, checked, written, Except.mapError, bind_ok, if_true]

theorem bytes_of_encodeQuad {kind : QuadKind} {i j k l : Int} {data : Bytes}
    (h : encodeQuad kind [.int i, .int j, .int k, .int l] = .ok data) :
    ∃ a b c d : UInt8, i = a.toNat ∧ j = b.toNat ∧ k = c.toNat ∧ l = d.toNat := by
  have byte {n : Int} (inside : 0 ≤ n ∧ n ≤ 255) : ∃ b : UInt8, n = b.toNat :=
    ⟨UInt8.ofNat n.toNat, by rw [Utf8.toNat_ofNat (by omega)]; omega⟩
  have checked := allInRange_ints 255 [i, j, k, l]
  simp only [List.map_cons, List.map_nil] at checked
  simp only [encodeQuad, checked, Except.mapError, bind_ok] at h
  split at h
  · next fits =>
    simp only [List.all_cons, List.all_nil, Bool.and_eq_true, decide_eq_true_eq] at fits
    obtain ⟨a, rfl⟩ := byte fits.1
    obtain ⟨b, rfl⟩ := byte fits.2.1
    obtain ⟨c, rfl⟩ := byte fits.2.2.1
    obtain ⟨d, rfl⟩ := byte fits.2.2.2.1
    exact ⟨a, b, c, d, rfl, rfl, rfl, rfl⟩
  · cases h

private theorem encodeBlob_field (f : BlobField) : encodeBlob f.data = .ok f.canonical.bytes := by
  rw [encodeBlob, if_pos f.sized, BlobField.canonical, BlobField.ofData_bytes]

private theorem field_of_encodeBlob {data out : Bytes} (h : encodeBlob data = .ok out) :
    ∃ f : BlobField, f.data = data := by
  rw [encodeBlob] at h
  split at h
  · next fits => exact ⟨.ofData data fits, rfl⟩
  · cases h

/-- What stands for a tag denotes an argument that is written as the canonical one. -/
theorem encodeArgument_leaf {tag : Tag} (l : Leaf tag) :
    encodeArgument l.argument.toValue = .ok (.one tag.canonical l.canonical.payload) := by
  cases l with
  | int w =>
    rw [Leaf.argument, Argument.toValue, encodeArgument, encodeScalar, encodeInt_word]
    rfl
  | float x =>
    rw [Leaf.argument, Argument.toValue, encodeArgument, encodeScalar,
      encodeFloat_float (Floating.Binary.narrow_widen x)]
    rfl
  | string field | symbol field =>
    rw [Leaf.argument, Argument.toValue, encodeArgument, encodeScalar, encodeString,
      encodeText_field]
    rfl
  | blob field =>
    rw [Leaf.argument, Argument.toValue, encodeArgument, encodeBlob_field]
    rfl
  | time seconds fractional =>
    rw [Leaf.argument, Argument.toValue, encodeArgument, encodeScalar, encodeTimetag_words]
    rfl
  | long w =>
    rw [Leaf.argument, Argument.toValue, encodeArgument, encodeScalar, encodeLong_word]
    rfl
  | color red green blue alpha =>
    rw [Leaf.argument, Argument.toValue, encodeArgument, encodeQuad_bytes]
    rfl
  | midi port status data1 data2 =>
    rw [Leaf.argument, Argument.toValue, encodeArgument, encodeQuad_bytes]
    rfl
  | double x | char c | yes | no | nil | infinitum => rfl

theorem Payload.bracketed_append (p q : Payload) : p.bracketed.append q =
    ⟨Mark.opening.byte :: (p.tags ++ Mark.closing.byte :: q.tags), p.data ++ q.data⟩ := by
  simp [bracketed, append]

private theorem encodeArguments_items (is : Items) :
    encodeArguments (Argument.toValues is.arguments) =
      .ok ⟨is.canonical.marks.map Mark.byte, is.canonical.payload⟩ := by
  induction is with
  | nil => rfl
  | leaf tag first rest ih =>
    rw [Items.arguments, Argument.toValues, encodeArguments, encodeArgument_leaf, ih]
    rfl
  | array inner rest ihInner ihRest =>
    rw [Items.arguments, Argument.toValues, encodeArguments, Argument.toValue, encodeArgument,
      ihInner, ihRest]
    simp only [Items.canonical, Items.marks, Items.payload, List.map_cons, List.map_append]
    exact congrArg Except.ok (Payload.bracketed_append _ _)

/-- An argument that is written is an array or what stands for some tag. -/
theorem leaf_of_encodeArgument {a : Argument} {payload : Payload}
    (built : ∀ x ∈ a.floats, ∃ given,
      (Value.Form.scalar .float).build [given] = .ok (Argument.float x).toValue)
    (h : encodeArgument a.toValue = .ok payload) :
    (∃ items, a = .array items) ∨ ∃ tag, ∃ l : Leaf tag, l.argument = a := by
  cases a with
  | array items => exact .inl ⟨items, rfl⟩
  | int n =>
    obtain ⟨data, written, -⟩ := ok_of_map h
    obtain ⟨w, rfl⟩ := word_of_encodeInt (mapError_eq_ok.mp written)
    exact .inr ⟨.int, .int w, rfl⟩
  | float x =>
    obtain ⟨data, written, -⟩ := ok_of_map h
    obtain ⟨y, narrowed⟩ := narrow_of_encodeFloat (mapError_eq_ok.mp written)
    obtain ⟨given, made⟩ := built x (by simp [Argument.floats])
    obtain ⟨z, rfl⟩ := Argument.exists_widen made narrowed
    exact .inr ⟨.float, .float z, rfl⟩
  | string t =>
    obtain ⟨data, written, -⟩ := ok_of_map h
    obtain ⟨field, rfl⟩ := field_of_encodeText written
    exact .inr ⟨.string, .string field, rfl⟩
  | blob data =>
    obtain ⟨out, written, -⟩ := ok_of_map h
    obtain ⟨field, rfl⟩ := field_of_encodeBlob (mapError_eq_ok.mp written)
    exact .inr ⟨.blob, .blob field, rfl⟩
  | time tag =>
    obtain ⟨data, written, -⟩ := ok_of_map h
    obtain ⟨seconds, fractional, rfl⟩ := words_of_encodeTimetag written
    exact .inr ⟨.time, .time seconds fractional, rfl⟩
  | long n =>
    obtain ⟨data, written, -⟩ := ok_of_map h
    obtain ⟨w, rfl⟩ := word_of_encodeLong (mapError_eq_ok.mp written)
    exact .inr ⟨.long, .long w, rfl⟩
  | double x => exact .inr ⟨.double, .double x, rfl⟩
  | char t =>
    obtain ⟨data, written, -⟩ := ok_of_map h
    obtain ⟨c, rfl⟩ := char_of_encodeChar written
    exact .inr ⟨.char, .char c, rfl⟩
  | color red green blue alpha =>
    obtain ⟨data, written, -⟩ := ok_of_map h
    obtain ⟨a, b, c, d, rfl, rfl, rfl, rfl⟩ := bytes_of_encodeQuad written
    exact .inr ⟨.color, .color a b c d, rfl⟩
  | midi port status data1 data2 =>
    obtain ⟨data, written, -⟩ := ok_of_map h
    obtain ⟨a, b, c, d, rfl, rfl, rfl, rfl⟩ := bytes_of_encodeQuad written
    exact .inr ⟨.midi, .midi a b c d, rfl⟩
  | bool b =>
    cases b with
    | true => exact .inr ⟨.yes, .yes, rfl⟩
    | false => exact .inr ⟨.no, .no, rfl⟩
  | nil => exact .inr ⟨.nil, .nil, rfl⟩
  | infinitum => exact .inr ⟨.infinitum, .infinitum, rfl⟩

private theorem items_of_encodeArguments {row : List Argument} {payload : Payload}
    (built : ∀ x ∈ row.flatMap Argument.floats, ∃ given,
      (Value.Form.scalar .float).build [given] = .ok (Argument.float x).toValue)
    (h : encodeArguments (Argument.toValues row) = .ok payload) :
    ∃ is : Items, is.arguments = row := by
  induction row using Argument.row_induction generalizing payload with
  | nil => exact ⟨.nil, rfl⟩
  | cons a rest ihItems ihRest =>
    simp only [List.flatMap_cons, List.forall_mem_append] at built
    rw [Argument.toValues, encodeArguments] at h
    obtain ⟨first, written, h⟩ := ok_of_bind h
    obtain ⟨more, others, -⟩ := ok_of_bind h
    obtain ⟨after, rfl⟩ := ihRest built.2 others
    rcases leaf_of_encodeArgument built.1 written with ⟨items, rfl⟩ | ⟨tag, l, rfl⟩
    · obtain ⟨inside, within, -⟩ := ok_of_map written
      rw [Argument.floats] at built
      obtain ⟨inner, rfl⟩ := ihItems items rfl built.1 within
      exact ⟨.array inner after, rfl⟩
    · exact ⟨.leaf tag l after, rfl⟩

private theorem encodeMessage_packet (m : MessageLayout) :
    encode m.packet.toValue = .ok m.canonical.bytes := by
  have tagged : m.canonical.bytes = m.address.canonical.bytes ++
      terminated (comma :: m.items.canonical.marks.map Mark.byte) ++ m.items.canonical.payload := by
    rw [MessageLayout.bytes, MessageLayout.canonical, Option.map_some, Option.getD_some,
      Tagged.ofItems_bytes, List.append_assoc]
  rw [MessageLayout.packet, m.arguments_eq, Packet.toValue, encode, encodeMessage,
    if_pos m.slashed, encodeArguments_items, encodeText_field, tagged]
  rfl

private theorem message_of_encode {address : Text} {arguments : List Argument} {data : Bytes}
    (built : (Packet.message address arguments).Built)
    (h : encode (Packet.message address arguments).toValue = .ok data) :
    ∃ m : MessageLayout, m.packet = .message address arguments := by
  rw [Packet.toValue, encode, encodeMessage] at h
  rw [Packet.Built, Packet.floats] at built
  split at h
  · next slashed =>
    obtain ⟨payload, written, h⟩ := ok_of_bind h
    obtain ⟨head, addressed, -⟩ := ok_of_bind h
    obtain ⟨is, rfl⟩ := items_of_encodeArguments built (mapError_eq_ok.mp written)
    obtain ⟨field, rfl⟩ := field_of_encodeText addressed
    exact ⟨⟨field, slashed, some (.ofItems is)⟩, rfl⟩
  · cases h

theorem framed_eq_ok {element out : Bytes} :
    framed element = .ok out ↔ element.length < 2 ^ 31 ∧ out = Layout.framed element := by
  rw [framed]
  split
  · next small =>
    rw [int32_of_lt small, Except.ok.injEq]
    exact ⟨fun h => ⟨small, h.symm⟩, fun h => h.2.symm⟩
  · next large =>
    constructor
    · intro h
      cases h
    · rintro ⟨small, -⟩
      exact absurd small large

private theorem encodeElements_packets {elements : List Layout}
    (sized : ∀ e ∈ elements, e.canonical.bytes.length < 2 ^ 31)
    (each : ∀ e ∈ elements, encode e.packet.toValue = .ok e.canonical.bytes) :
    encodeElements (Packet.toValues (elements.map Layout.packet)) =
      .ok ((elements.map Layout.canonical).flatMap fun e => Layout.framed e.bytes) := by
  induction elements with
  | nil => rfl
  | cons e elements ih =>
    have first := framed_eq_ok.mpr ⟨sized e List.mem_cons_self, rfl⟩
    have others := ih (fun d hd => sized d (List.mem_cons_of_mem e hd))
      (fun d hd => each d (List.mem_cons_of_mem e hd))
    rw [List.map_cons, Packet.toValues, encodeElements, each e List.mem_cons_self, bind_ok, first,
      others]
    rfl

/-- Whatever a tree denotes is written as the canonical tree, if its sizes fit. -/
theorem encode_packet {f : Layout} (fits : f.canonical.Fits) :
    encode f.packet.toValue = .ok f.canonical.bytes := by
  induction f with
  | message m => rw [Layout.packet, Layout.canonical, Layout.bytes, encodeMessage_packet]
  | bundle seconds fractional elements ih =>
    rw [Layout.canonical] at fits ⊢
    have within := Layout.fits_bundle.mp fits
    rw [List.forall_mem_map] at within
    have content := encodeElements_packets (fun e he => (within e he).2)
      (fun e he => ih e he (within e he).1)
    rw [Layout.packet, Packet.toValue, encode, encodeTimetag_words, content, Layout.bytes,
      Layout.wrapped, ← List.append_assoc]
    rfl

private theorem elements_of_encodeElements {content : List Packet} {data : Bytes}
    (each : ∀ p ∈ content, ∀ {data}, encode p.toValue = .ok data →
      ∃ f : Layout, f.canonical.Fits ∧ f.packet = p)
    (h : encodeElements (Packet.toValues content) = .ok data) :
    ∃ elements : List Layout,
      (∀ e ∈ elements, e.canonical.Fits ∧ e.canonical.bytes.length < 2 ^ 31) ∧
        elements.map Layout.packet = content := by
  induction content generalizing data with
  | nil => exact ⟨[], by simp, rfl⟩
  | cons p content ih =>
    rw [Packet.toValues, encodeElements] at h
    obtain ⟨element, written, h⟩ := ok_of_bind h
    obtain ⟨first, sized, h⟩ := ok_of_bind h
    obtain ⟨more, others, -⟩ := ok_of_bind h
    obtain ⟨f, fits, rfl⟩ := each p List.mem_cons_self written
    rw [encode_packet fits] at written
    cases written
    obtain ⟨elements, within, rfl⟩ := ih (fun q hq => each q (List.mem_cons_of_mem _ hq)) others
    refine ⟨f :: elements, ?_, rfl⟩
    exact List.forall_mem_cons.mpr ⟨⟨fits, (framed_eq_ok.mp sized).1⟩, within⟩

/-- What is written at all is denoted by a tree whose sizes fit. -/
theorem layout_of_encode {p : Packet} {data : Bytes} (built : p.Built)
    (h : encode p.toValue = .ok data) : ∃ f : Layout, f.canonical.Fits ∧ f.packet = p := by
  induction p generalizing data with
  | message address arguments =>
    obtain ⟨m, denoted⟩ := message_of_encode built h
    refine ⟨.message m, ?_, ?_⟩
    · rw [Layout.canonical]
      exact .message m.canonical
    · rw [Layout.packet, denoted]
  | bundle timetag content ih =>
    have inner (p : Packet) (hp : p ∈ content) : p.Built := by
      intro x hx
      exact built x (by rw [Packet.floats]; exact List.mem_flatMap.mpr ⟨p, hp, hx⟩)
    rw [Packet.toValue, encode] at h
    obtain ⟨time, timed, h⟩ := ok_of_bind h
    obtain ⟨elements, written, -⟩ := ok_of_bind h
    obtain ⟨seconds, fractional, rfl⟩ := words_of_encodeTimetag (mapError_eq_ok.mp timed)
    obtain ⟨elements, within, rfl⟩ :=
      elements_of_encodeElements (fun p hp _ written => ih p hp (inner p hp) written) written
    refine ⟨.bundle seconds fractional elements, ?_, ?_⟩
    · rw [Layout.canonical, Layout.fits_bundle, List.forall_mem_map]
      exact within
    · rw [Layout.packet]

end Osc.Wire
