import Osc.Codec
import Osc.Proofs.Reading

/-!
What the reader of packets accepts. A message is read from the bytes of its tree and from
no others, the elements of a bundle are taken one frame after another, and a packet is
read from its bytes at every depth that the bundles in it need. Since no two trees lay out
the same bytes, reading gives what the one tree of some bytes denotes; all other bytes are
refused with a report about the datagram.
-/

namespace Osc.Wire

/-- A field at the start of a packet that starts with a slash is an address. -/
theorem StringField.slashed {f : StringField} {rest : Bytes}
    (h : (f.bytes ++ rest).head? = some slashByte) : f.text.head? = some slash := by
  obtain ⟨text, padding, scalar, nonzero, aligned, short⟩ := f
  cases text with
  | nil => cases h
  | cons c text =>
    simp only [StringField.bytes, Utf8.form_cons, List.append_assoc] at h
    have value := Utf8.val_of_head_encodePoint (by decide) h
    exact congrArg some (Fin.val_inj.mp value)

theorem Cursor.start_passes {data bytes : Bytes} {c : Cursor} :
    (Cursor.start data).Passes bytes c ↔ data = bytes ++ c.rest ∧ c.offset = bytes.length := by
  simp [Passes, start]

theorem Cursor.atEnd_iff {c : Cursor} : c.atEnd = true ↔ c.rest = [] := List.isEmpty_iff

private theorem decodeMessage_bytes (m : MessageLayout) : decodeMessage m.bytes = .ok m.packet := by
  obtain ⟨address, slashed, tagged⟩ := m
  cases tagged with
  | none =>
    let last : Cursor := ⟨address.bytes.length, []⟩
    have read : (Cursor.start (address.bytes ++ [])).string = .ok (address.text, last) :=
      Cursor.string_iff.mpr ⟨address, Cursor.start_passes.mpr ⟨rfl, rfl⟩, rfl⟩
    have ended : last.atEnd = true := rfl
    simp only [decodeMessage, MessageLayout.bytes, Option.map_none, Option.getD_none, read, bind_ok,
      ended, if_true]
    rfl
  | some t =>
    obtain ⟨items, tags, spelled⟩ := t
    let behind : Cursor := ⟨address.bytes.length, tags.bytes ++ items.payload⟩
    let last : Cursor := ⟨behind.offset + tags.bytes.length + items.payload.length, []⟩
    have addressed : (Cursor.start (address.bytes ++ behind.rest)).string =
        .ok (address.text, behind) :=
      Cursor.string_iff.mpr ⟨address, Cursor.start_passes.mpr ⟨rfl, rfl⟩, rfl⟩
    have more : behind.atEnd = false := by
      simp [Cursor.atEnd, behind, StringField.bytes]
    have tagsRead : behind.string = .ok (tags.text, ⟨behind.offset + tags.bytes.length,
        items.payload⟩) :=
      Cursor.string_iff.mpr ⟨tags, ⟨rfl, rfl⟩, rfl⟩
    have read : readArguments [] [] (items.marks.map Mark.codePoint)
        ⟨behind.offset + tags.bytes.length, items.payload⟩ = .ok (items.arguments, last) :=
      readArguments_iff.mpr ⟨items, rfl, ⟨(List.append_nil _).symm, rfl⟩, rfl⟩
    have ended : last.atEnd = true := rfl
    rw [decodeMessage]
    simp only [MessageLayout.bytes, Option.map_some, Option.getD_some, Tagged.bytes]
    rw [addressed, bind_ok]
    simp only [more, Bool.false_eq_true, if_false, tagsRead, bind_ok, spelled, ne_eq,
      not_true_eq_false, read, ended, if_true]
    rfl

theorem layout_of_decodeMessage {data : Bytes} {p : Packet}
    (start : data.head? = some slashByte) (h : decodeMessage data = .ok p) :
    ∃ m : MessageLayout, m.bytes = data ∧ m.packet = p := by
  obtain ⟨⟨text, c⟩, read, follow⟩ := ok_of_bind h
  obtain ⟨address, passes, rfl⟩ := Cursor.string_iff.mp read
  obtain ⟨rfl, -⟩ := Cursor.start_passes.mp passes
  have slashed := StringField.slashed start
  simp only at follow
  split at follow
  · next ended =>
    cases follow
    refine ⟨⟨address, slashed, none⟩, ?_, rfl⟩
    rw [Cursor.atEnd_iff.mp ended]
    rfl
  · obtain ⟨⟨text, d⟩, read, follow⟩ := ok_of_bind follow
    obtain ⟨tags, tagsPassed, rfl⟩ := Cursor.string_iff.mp read
    simp only at follow
    split at follow
    · cases follow
    · next first letters spelled =>
      split at follow
      · cases follow
      · next comma =>
        obtain ⟨⟨arguments, e⟩, read, follow⟩ := ok_of_bind follow
        obtain ⟨items, rfl, passed, rfl⟩ := readArguments_iff.mp read
        simp only at follow
        split at follow
        · next ended =>
          cases follow
          rw [not_not.mp comma] at spelled
          refine ⟨⟨address, slashed, some ⟨items, tags, spelled⟩⟩, ?_, rfl⟩
          have whole := (tagsPassed.append passed).1
          rw [Cursor.atEnd_iff.mp ended, List.append_nil] at whole
          rw [whole]
          rfl
        · cases follow

private theorem readElements_nil (element : Bytes → Except DecodeFault Packet) {c : Cursor}
    (h : c.rest = []) : readElements element c = .ok [] := by
  rw [readElements, if_pos (Cursor.atEnd_iff.mpr h)]

/-- One element is taken from its frame, and reading goes on behind it. -/
theorem readElements_framed (element : Bytes → Except DecodeFault Packet) (offset : Nat)
    {data : Bytes} (rest : Bytes) (sized : data.length < 2 ^ 31) :
    readElements element ⟨offset, Layout.framed data ++ rest⟩ =
      match element data with
      | .error fault => .error fault
      | .ok packet =>
        (readElements element ⟨offset + 4 + data.length, rest⟩).map (packet :: ·) := by
  have header : Cursor.int32 ⟨offset, Layout.framed data ++ rest⟩ =
      .ok ((data.length : Int), ⟨offset + 4, data ++ rest⟩) := by
    refine Cursor.int32_size sized ⟨?_, by rw [bigEndian_length]⟩
    rw [Layout.framed, List.append_assoc]
  have more : ¬ Cursor.atEnd ⟨offset, Layout.framed data ++ rest⟩ = true := by
    simp [Cursor.atEnd_iff, Layout.framed, bigEndian]
  have body : split? (data.length : Int).toNat (data ++ rest) = some (data, rest) := by
    rw [Int.toNat_natCast, split?_append]
  rw [readElements, if_neg more]
  split
  · next failed =>
    rw [header] at failed
    cases failed
  · next size next read =>
    rw [header] at read
    cases read
    rw [if_neg (by omega)]
    split
    · next failed =>
      rw [body] at failed
      cases failed
    · next taken =>
      rw [body] at taken
      cases taken
      cases element data with
      | error fault => rfl
      | ok packet => simp only [Int.toNat_natCast]

/-- Reading that succeeds is at the end or takes one element from its frame. -/
theorem readElements_inv {element : Bytes → Except DecodeFault Packet} {c : Cursor}
    {packets : List Packet} (h : readElements element c = .ok packets) :
    (c.rest = [] ∧ packets = []) ∨
      ∃ data packet, ∃ next : Cursor, ∃ more, c.rest = Layout.framed data ++ next.rest ∧
        data.length < 2 ^ 31 ∧ element data = .ok packet ∧ readElements element next = .ok more ∧
          packets = packet :: more := by
  rw [readElements] at h
  split at h
  · next ended =>
    cases h
    exact .inl ⟨Cursor.atEnd_iff.mp ended, rfl⟩
  split at h
  · cases h
  · next size behind read =>
    split at h
    · cases h
    · next positive =>
      split at h
      · cases h
      · next data rest cut =>
        split at h
        · cases h
        · next packet inside =>
          obtain ⟨more, others, rfl⟩ := ok_of_map h
          obtain ⟨small, header⟩ := Cursor.size_of_ok read (not_lt.mp positive)
          obtain ⟨split, length⟩ := split?_eq_some cut
          rw [← length] at small header
          refine .inr ⟨data, packet, _, more, ?_, small, inside, others, rfl⟩
          rw [header.1, split, Layout.framed, List.append_assoc]

/-- Elements that are read one by one, or refused for their depth, are so in a bundle. -/
theorem readElements_elements {levels : Nat} {elements : List Layout} (offset : Nat)
    (sized : ∀ e ∈ elements, e.bytes.length < 2 ^ 31)
    (each : ∀ e ∈ elements, decodeWithin levels e.bytes =
      if e.packet.depth ≤ levels then .ok e.packet else .error .tooDeep) :
    readElements (decodeWithin levels) ⟨offset, elements.flatMap fun e => Layout.framed e.bytes⟩ =
      if ∀ p ∈ elements.map Layout.packet, p.depth ≤ levels then .ok (elements.map Layout.packet)
      else .error .tooDeep := by
  induction elements generalizing offset with
  | nil =>
    rw [readElements_nil _ rfl]
    simp
  | cons e elements ih =>
    have others (offset : Nat) := ih offset (fun d hd => sized d (List.mem_cons_of_mem e hd))
      (fun d hd => each d (List.mem_cons_of_mem e hd))
    rw [List.flatMap_cons, readElements_framed _ _ _ (sized e List.mem_cons_self),
      each e List.mem_cons_self]
    simp only [List.map_cons, List.forall_mem_cons]
    by_cases shallow : e.packet.depth ≤ levels
    · simp only [shallow, if_true, true_and, others]
      split
      · rfl
      · rfl
    · simp only [shallow, if_false, false_and]

section

variable (seconds fractional : BitVec 32) (content : Bytes)

theorem Layout.wrapped_start : (wrapped seconds fractional content).head? ≠ some slashByte ∧
    bundleTag.isPrefixOf (wrapped seconds fractional content) = true := by
  constructor
  · rw [head_wrapped]
    decide
  · exact List.isPrefixOf_iff_prefix.mpr ⟨_, rfl⟩

private theorem decodeWithin_zero_wrapped :
    decodeWithin 0 (Layout.wrapped seconds fractional content) = .error .tooDeep := by
  obtain ⟨unslashed, marked⟩ := Layout.wrapped_start seconds fractional content
  rw [decodeWithin.eq_def, if_neg unslashed, if_pos marked]

/-- Below the first level a bundle is its time tag and what its elements are read as. -/
theorem decodeWithin_succ_wrapped (levels : Nat) :
    decodeWithin (levels + 1) (Layout.wrapped seconds fractional content) =
      (readElements (decodeWithin levels) ⟨16, content⟩).map
        (.bundle ⟨seconds.toNat, fractional.toNat⟩ ·) := by
  obtain ⟨unslashed, marked⟩ := Layout.wrapped_start seconds fractional content
  let words := bigEndian 4 seconds.toNat ++ bigEndian 4 fractional.toNat
  have tag : (Cursor.start (Layout.wrapped seconds fractional content)).take bundleTag.length =
      .ok (bundleTag, ⟨8, words ++ content⟩) :=
    Cursor.take_iff.mpr ⟨rfl, Cursor.start_passes.mpr ⟨rfl, rfl⟩⟩
  have time : Cursor.timetag ⟨8, words ++ content⟩ =
      .ok (⟨seconds.toNat, fractional.toNat⟩, ⟨16, content⟩) := by
    refine Cursor.timetag_iff.mpr ⟨seconds, fractional, ⟨rfl, ?_⟩, rfl⟩
    rw [List.length_append, bigEndian_length, bigEndian_length]
  rw [decodeWithin.eq_def, if_neg unslashed, if_pos marked]
  simp only [tag, bind_ok, time]
  rfl

end

/-- The bytes of a tree are read as what it denotes, unless bundles nest too deep. -/
theorem decodeWithin_bytes {f : Layout} (fits : f.Fits) (levels : Nat) :
    decodeWithin levels f.bytes =
      if f.packet.depth ≤ levels then .ok f.packet else .error .tooDeep := by
  induction f generalizing levels with
  | message m =>
    have flat : m.packet.depth ≤ levels := by
      rw [MessageLayout.packet, Packet.depth]
      exact Nat.zero_le levels
    rw [Layout.packet, if_pos flat, Layout.bytes, decodeWithin.eq_def, if_pos m.head_bytes,
      decodeMessage_bytes]
  | bundle seconds fractional elements ih =>
    have within := Layout.fits_bundle.mp fits
    rw [Layout.bytes, Layout.packet]
    cases levels with
    | zero =>
      have deep : ¬ (Packet.bundle ⟨seconds.toNat, fractional.toNat⟩
          (elements.map Layout.packet)).depth ≤ 0 := by
        rw [Packet.depth]
        omega
      rw [if_neg deep, decodeWithin_zero_wrapped]
    | succ levels =>
      have read := readElements_elements 16 (fun e he => (within e he).2)
        (fun e he => ih e he (within e he).1 levels)
      simp only [decodeWithin_succ_wrapped, read, Packet.depth_bundle_le]
      split
      · rfl
      · rfl

/-- What is read up to the end is the elements of a bundle, if each one is a packet. -/
theorem elements_of_readElements {element : Bytes → Except DecodeFault Packet}
    (each : ∀ data p, element data = .ok p → ∃ f : Layout, f.Fits ∧ f.bytes = data ∧ f.packet = p)
    {c : Cursor} {packets : List Packet} (h : readElements element c = .ok packets) :
    ∃ elements : List Layout, (∀ e ∈ elements, e.Fits ∧ e.bytes.length < 2 ^ 31) ∧
      c.rest = (elements.flatMap fun e => Layout.framed e.bytes) ∧
        elements.map Layout.packet = packets := by
  induction packets generalizing c with
  | nil =>
    rcases readElements_inv h with ⟨ended, -⟩ | ⟨_, _, _, _, -, -, -, -, impossible⟩
    · exact ⟨[], by simp, ended, rfl⟩
    · cases impossible
  | cons p packets ih =>
    rcases readElements_inv h with
      ⟨-, impossible⟩ | ⟨data, _, _, _, split, sized, inside, others, same⟩
    · cases impossible
    · cases same
      obtain ⟨f, fits, rfl, rfl⟩ := each data p inside
      obtain ⟨elements, within, rest, rfl⟩ := ih others
      refine ⟨f :: elements, ?_, ?_, rfl⟩
      · exact List.forall_mem_cons.mpr ⟨⟨fits, sized⟩, within⟩
      · rw [split, rest, List.flatMap_cons]

/-- Reading that succeeds is of a message or of a bundle that may still nest. -/
theorem decodeWithin_inv {levels : Nat} {data : Bytes} {p : Packet}
    (h : decodeWithin levels data = .ok p) :
    (data.head? = some slashByte ∧ decodeMessage data = .ok p) ∨
      ∃ below seconds fractional, ∃ c : Cursor, ∃ packets, levels = below + 1 ∧
        data = Layout.wrapped seconds fractional c.rest ∧
          readElements (decodeWithin below) c = .ok packets ∧
            p = .bundle ⟨seconds.toNat, fractional.toNat⟩ packets := by
  rw [decodeWithin.eq_def] at h
  split at h
  · next slashed => exact .inl ⟨slashed, h⟩
  split at h
  · next marked =>
    obtain ⟨rest, split⟩ := List.isPrefixOf_iff_prefix.mp marked
    cases levels with
    | zero => cases h
    | succ levels =>
      obtain ⟨⟨tag, c⟩, taken, h⟩ := ok_of_bind h
      obtain ⟨⟨timetag, d⟩, read, h⟩ := ok_of_bind h
      obtain ⟨packets, inside, h⟩ := ok_of_bind h
      cases h
      obtain ⟨size, passes⟩ := Cursor.take_iff.mp taken
      obtain ⟨spelled, -⟩ := Cursor.start_passes.mp passes
      obtain ⟨seconds, fractional, words, rfl⟩ := Cursor.timetag_iff.mp read
      have same : bundleTag = tag :=
        (List.append_inj (split.trans spelled) size.symm).1
      refine .inr ⟨levels, seconds, fractional, d, packets, rfl, ?_, inside, rfl⟩
      rw [spelled, ← same, words.1]
      rfl
  · split at h
    · cases h
    · cases h

/-- Bytes that are read as a packet are those of a tree that denotes it. -/
theorem layout_of_decodeWithin {levels : Nat} {data : Bytes} {p : Packet}
    (h : decodeWithin levels data = .ok p) :
    ∃ f : Layout, f.Fits ∧ f.bytes = data ∧ f.packet = p := by
  have message {data : Bytes} {p : Packet} (slashed : data.head? = some slashByte)
      (read : decodeMessage data = .ok p) :
      ∃ f : Layout, f.Fits ∧ f.bytes = data ∧ f.packet = p := by
    obtain ⟨m, rfl, rfl⟩ := layout_of_decodeMessage slashed read
    exact ⟨.message m, .message m, by rw [Layout.bytes], by rw [Layout.packet]⟩
  induction levels generalizing data p with
  | zero =>
    rcases decodeWithin_inv h with ⟨slashed, read⟩ | ⟨_, _, _, _, _, impossible, -⟩
    · exact message slashed read
    · cases impossible
  | succ levels ih =>
    rcases decodeWithin_inv h with
      ⟨slashed, read⟩ | ⟨_, seconds, fractional, c, packets, same, spelled, inside, denoted⟩
    · exact message slashed read
    · cases same
      obtain ⟨elements, within, rest, rfl⟩ := elements_of_readElements (fun _ _ => ih) inside
      refine ⟨.bundle seconds fractional elements, Layout.fits_bundle.mpr within, ?_, ?_⟩
      · rw [Layout.bytes, spelled, rest]
      · rw [Layout.packet, denoted]

theorem decodeWithin_iff {levels : Nat} {data : Bytes} {p : Packet} :
    decodeWithin levels data = .ok p ↔
      ∃ f : Layout, f.Fits ∧ f.bytes = data ∧ f.packet = p ∧ p.depth ≤ levels := by
  constructor
  · intro h
    obtain ⟨f, fits, rfl, rfl⟩ := layout_of_decodeWithin h
    refine ⟨f, fits, rfl, rfl, ?_⟩
    by_contra deep
    rw [decodeWithin_bytes fits, if_neg deep] at h
    cases h
  · rintro ⟨f, fits, rfl, rfl, shallow⟩
    rw [decodeWithin_bytes fits, if_pos shallow]

end Osc.Wire

namespace Osc.Codec

open Wire (Layout)

/-- Decoding gives what the one tree over some bytes denotes, as long as its bundles do not
nest too deep, and reports a fault of decoding for all other bytes. -/
theorem osc_decode_exact (data : Bytes) :
    (∀ p, osc.decode data = .ok p ↔
      ∃ f : Layout, f.Fits ∧ f.bytes = data ∧ f.packet = p ∧ p.depth ≤ maxBundleDepth) ∧
    ((¬ ∃ f : Layout, f.Fits ∧ f.bytes = data ∧ f.packet.depth ≤ maxBundleDepth) →
      ∃ cause, osc.decode data = .error (.decode cause)) ∧
    (∀ f g : Layout, f.Fits → g.Fits → f.bytes = data → g.bytes = data → f = g) := by
  refine ⟨?_, ?_, ?_⟩
  · intro p
    exact Wire.mapError_eq_ok.trans Wire.decodeWithin_iff
  · intro none
    cases read : Wire.decode data with
    | ok p =>
      obtain ⟨f, fits, spelled, rfl, shallow⟩ := Wire.decodeWithin_iff.mp read
      exact absurd ⟨f, fits, spelled, shallow⟩ none
    | error cause => exact ⟨cause, congrArg (Except.mapError Fault.decode) read⟩
  · intro f g fitsF fitsG spelledF spelledG
    exact Layout.bytes_inj fitsF fitsG (spelledF.trans spelledG.symm)

end Osc.Codec
