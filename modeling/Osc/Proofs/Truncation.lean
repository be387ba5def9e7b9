import Osc.Proofs.Accepted
import Osc.Proofs.Writing

/-!
Datagrams that were cut off. What is left of a message is a packet again only when the cut is
behind its address, and what is left of a bundle only when the cut is behind one of its elements
or behind its time tag; every other cut leaves bytes that are no packet. So a datagram that was
cut gives fewer arguments or elements, but never others: a message that has lost any of its bytes
behind the address has lost all its arguments, and an element of a bundle is whole or missing.
-/

namespace Osc.Wire

/-- The bytes of a bundle before its elements. -/
def bundleHead (timetag : TimeTag) : Bytes :=
  bundleTag ++ bigEndian 4 timetag.seconds.toNat ++ bigEndian 4 timetag.fractional.toNat

/-- The frames of some packets one behind the other, each a packet as it is written with its size
in front. -/
inductive Frames : List Packet → Bytes → Prop where
  | nil : Frames [] []
  | cons {p : Packet} {rest : List Packet} {element more : Bytes}
      (written : encode p.toValue = .ok element) (others : Frames rest more) :
      Frames (p :: rest) (int32 element.length ++ element ++ more)

theorem Frames.unique {content : List Packet} {a b : Bytes} (ha : Frames content a)
    (hb : Frames content b) : a = b := by
  induction ha generalizing b with
  | nil =>
    cases hb
    rfl
  | cons written others ih =>
    cases hb with | cons written' others' => ?_
    cases written.symm.trans written'
    rw [ih others']

/-- What is left of a packet that was cut where a field or an element of it ends, and the packet
that is left. -/
inductive Leaves : Packet → Bytes → Packet → Prop where
  | address (t : Text) (arguments : List Argument) :
      Leaves (.message t arguments) (terminated (Utf8.form t)) (.message t [])
  | elements (timetag : TimeTag) {content : List Packet} {count : Nat} {frames : Bytes}
      (fewer : count < content.length) (framed : Frames (content.take count) frames) :
      Leaves (.bundle timetag content) (bundleHead timetag ++ frames)
        (.bundle timetag (content.take count))

/-! Beginnings of trees. A field says where it ends, so a tree that lays out the beginning of the
bytes of another one agrees with it up to there. -/

/-- The arguments that some tags announce are not yet over when bytes are missing. -/
theorem Tagged.eq_nil_of_append {t u : Tagged} {rest : Bytes} (h : t.bytes ++ rest = u.bytes) :
    rest = [] := by
  obtain ⟨items, tags, spelled⟩ := t
  obtain ⟨items', tags', spelled'⟩ := u
  simp only [Tagged.bytes, List.append_assoc] at h
  obtain ⟨rfl, payload⟩ := StringField.bytes_append_inj h
  have letters := (List.cons.inj (spelled.symm.trans spelled')).2
  have marks := List.map_injective_iff.mpr Mark.codePoint_injective letters
  have nothing : Ends [] := by simp [Ends]
  rw [← List.append_nil items'.payload] at payload
  exact (Items.unique nothing nothing (congrArg (· ++ []) marks) payload).2.2

/-- The beginning of a message is its address alone. -/
theorem MessageLayout.untagged_of_append {m n : MessageLayout} {rest : Bytes}
    (h : n.bytes ++ rest = m.bytes) (cut : rest ≠ []) :
    n.address = m.address ∧ n.tagged = none := by
  obtain ⟨address, slashed, tagged⟩ := m
  obtain ⟨address', slashed', tagged'⟩ := n
  simp only [MessageLayout.bytes, List.append_assoc] at h
  obtain ⟨same, tail⟩ := StringField.bytes_append_inj h
  refine ⟨same, ?_⟩
  cases tagged' with
  | none => rfl
  | some t =>
    cases tagged with
    | none =>
      have empty := (List.append_eq_nil_iff.mp tail).2
      exact absurd empty cut
    | some u => exact absurd (Tagged.eq_nil_of_append tail) cut

namespace Layout

/-- Elements that lay out the beginning of the bytes of others are the first of them. -/
theorem take_of_elements_append {es ds : List Layout} {rest : Bytes}
    (fitsE : ∀ e ∈ es, e.Fits ∧ e.bytes.length < 2 ^ 31)
    (fitsD : ∀ d ∈ ds, d.Fits ∧ d.bytes.length < 2 ^ 31)
    (h : (es.flatMap fun e => framed e.bytes) ++ rest = ds.flatMap fun d => framed d.bytes)
    (cut : rest ≠ []) : ∃ count < ds.length, es = ds.take count := by
  have nonempty (a b : Bytes) : framed a ++ b ≠ [] := by simp [framed, bigEndian]
  induction es generalizing ds with
  | nil =>
    cases ds with
    | nil => exact absurd h cut
    | cons d ds => exact ⟨0, Nat.zero_lt_succ _, rfl⟩
  | cons e es ih =>
    cases ds with
    | nil =>
      rw [List.flatMap_cons, List.append_assoc] at h
      exact absurd h (nonempty _ _)
    | cons d ds =>
      rw [List.forall_mem_cons] at fitsE fitsD
      rw [List.flatMap_cons, List.flatMap_cons, List.append_assoc] at h
      obtain ⟨first, others⟩ := framed_append_inj fitsE.1.2 fitsD.1.2 h
      obtain ⟨count, fewer, rfl⟩ := ih fitsE.2 fitsD.2 others
      refine ⟨count + 1, Nat.succ_lt_succ fewer, ?_⟩
      rw [List.take_succ_cons, bytes_inj fitsE.1.1 fitsD.1.1 first]

/-- A tree that lays out a beginning of the bytes of another one. -/
inductive Begins : Layout → Layout → Prop where
  | address {m n : MessageLayout} (address : n.address = m.address) (untagged : n.tagged = none) :
      Begins (.message n) (.message m)
  | elements (seconds fractional : BitVec 32) {elements : List Layout} {count : Nat}
      (fewer : count < elements.length) :
      Begins (.bundle seconds fractional (elements.take count))
        (.bundle seconds fractional elements)

private theorem begins_of_append {f g : Layout} (hf : f.Fits) (hg : g.Fits) {rest : Bytes}
    (h : g.bytes ++ rest = f.bytes) (cut : rest ≠ []) : g.Begins f := by
  have heads := congrArg List.head? h
  cases g with
  | message n =>
    have slashed : (n.bytes ++ rest).head? = some slashByte := by
      rw [List.head?_append, n.head_bytes]
      rfl
    cases f with
    | message m =>
      simp only [bytes] at h
      obtain ⟨address, untagged⟩ := MessageLayout.untagged_of_append h cut
      exact .address address untagged
    | bundle seconds fractional elements =>
      simp only [bytes, slashed, head_wrapped] at heads
      cases heads
  | bundle seconds fractional elements =>
    cases f with
    | message m =>
      simp only [bytes, m.head_bytes] at heads
      cases heads
    | bundle seconds' fractional' elements' =>
      rw [fits_bundle] at hf hg
      simp only [bytes, wrapped, List.append_assoc] at h
      obtain ⟨rfl, tail⟩ := word_append_inj rfl (List.append_cancel_left h)
      obtain ⟨rfl, others⟩ := word_append_inj rfl tail
      obtain ⟨count, fewer, rfl⟩ := take_of_elements_append hg hf others cut
      exact .elements seconds fractional fewer

end Layout

/-- What some trees denote is framed as their canonical forms. -/
theorem frames_packets {elements : List Layout}
    (within : ∀ e ∈ elements, e.canonical.Fits ∧ e.canonical.bytes.length < 2 ^ 31) :
    Frames (elements.map Layout.packet)
      ((elements.map Layout.canonical).flatMap fun e => Layout.framed e.bytes) := by
  induction elements with
  | nil => exact .nil
  | cons e elements ih =>
    rw [List.forall_mem_cons] at within
    have size := int32_of_lt within.1.2
    rw [List.map_cons, List.map_cons, List.flatMap_cons, Layout.framed, ← size]
    exact .cons (encode_packet within.1.1) (ih within.2)

/-- The canonical form of a bundle, up to one of its elements. -/
theorem wrapped_eq_bundleHead (seconds fractional : BitVec 32) (frames : Bytes) :
    Layout.wrapped seconds fractional frames =
      bundleHead ⟨seconds.toNat, fractional.toNat⟩ ++ frames := by
  rw [Layout.wrapped, bundleHead, List.append_assoc, List.append_assoc, List.append_assoc]
  rfl

/-- What a tree that begins a canonical one denotes is left of what that one denotes. -/
theorem leaves_of_begins {f g : Layout} (fits : f.canonical.Fits) (h : g.Begins f.canonical) :
    Leaves f.packet g.bytes g.packet := by
  cases f with
  | message m =>
    rw [Layout.canonical] at h
    cases h with | @address _ n address untagged => ?_
    have bytes : n.bytes = terminated (Utf8.form m.address.text) := by
      rw [MessageLayout.bytes, untagged, address]
      exact (List.append_nil _).trans StringField.ofText_bytes
    have denoted : n.packet = .message m.address.text [] := by
      rw [MessageLayout.packet, MessageLayout.arguments, untagged, address]
      rfl
    rw [Layout.bytes, Layout.packet, Layout.packet, bytes, denoted]
    exact .address _ _
  | bundle seconds fractional elements =>
    rw [Layout.canonical] at h fits
    cases h with | @elements _ _ _ count fewer => ?_
    rw [List.length_map] at fewer
    have within := Layout.fits_bundle.mp fits
    rw [List.forall_mem_map] at within
    have framed := frames_packets fun e he => within e (List.mem_of_mem_take (i := count) he)
    have denoted : ((elements.map Layout.canonical).take count).map Layout.packet =
        (elements.map Layout.packet).take count := by
      rw [List.map_take, List.map_map]
      exact congrArg _ (List.map_congr_left fun e _ => e.canonical_packet)
    rw [Layout.bytes, Layout.packet, Layout.packet, wrapped_eq_bundleHead, denoted]
    rw [List.map_take, List.map_take] at framed
    exact .elements _ (by rwa [List.length_map]) framed

/-- What is left of a packet that was written lies in the grammar. -/
theorem layout_of_leaves {f : Layout} (fits : f.canonical.Fits) {levels : Nat}
    (shallow : f.packet.depth ≤ levels) {x : Bytes} {q : Packet} (h : Leaves f.packet x q) :
    ∃ g : Layout, g.Fits ∧ g.bytes = x ∧ g.packet = q ∧ q.depth ≤ levels := by
  cases f with
  | message m =>
    rw [Layout.packet, MessageLayout.packet] at h
    cases h with | address t arguments => ?_
    refine ⟨.message ⟨m.address.canonical, m.slashed, none⟩, .message _, ?_, ?_, ?_⟩
    · rw [Layout.bytes, MessageLayout.bytes]
      exact (List.append_nil _).trans StringField.ofText_bytes
    · rw [Layout.packet]
      rfl
    · rw [Packet.depth]
      exact Nat.zero_le levels
  | bundle seconds fractional elements =>
    rw [Layout.packet] at h shallow
    cases h with | @elements _ _ count frames fewer framed => ?_
    have within := Layout.fits_bundle.mp (Layout.canonical.eq_def _ ▸ fits)
    rw [List.forall_mem_map] at within
    have kept (e : Layout) (he : e ∈ elements.take count) := within e (List.mem_of_mem_take he)
    rw [← List.map_take] at framed ⊢
    have spelled := framed.unique (frames_packets kept)
    refine ⟨.bundle seconds fractional ((elements.take count).map Layout.canonical), ?_, ?_, ?_, ?_⟩
    · rw [Layout.fits_bundle, List.forall_mem_map]
      exact kept
    · rw [Layout.bytes, wrapped_eq_bundleHead, spelled]
    · rw [Layout.packet, List.map_map]
      exact congrArg _ (List.map_congr_left fun e _ => e.canonical_packet)
    · cases levels with
      | zero =>
        rw [Packet.depth] at shallow
        omega
      | succ levels =>
        rw [Packet.depth_bundle_le] at shallow ⊢
        intro p hp
        rw [List.map_take] at hp
        exact shallow p (List.mem_of_mem_take hp)

end Osc.Wire

namespace Osc.Codec

open Text (ofString)

/-- A datagram that was cut is read as what is left of its packet when the cut is behind the
address of a message, or behind the time tag or an element of a bundle; all other cuts are reported
as faults of decoding. -/
theorem osc_decode_cut {p : Packet} {data x : Bytes} (built : p.Built)
    (shallow : p.depth ≤ maxBundleDepth) (written : osc.encode p.toValue = .ok data)
    (begins : x <+: data) (cut : x ≠ data) :
    (∀ q, osc.decode x = .ok q ↔ Wire.Leaves p x q) ∧
      ((¬ ∃ q, Wire.Leaves p x q) → ∃ cause, osc.decode x = .error (.decode cause)) := by
  obtain ⟨f, fits, rfl⟩ := Wire.layout_of_encode built written
  cases (Wire.encode_packet fits).symm.trans written
  obtain ⟨rest, spelled⟩ := begins
  have missing : rest ≠ [] := by
    rintro rfl
    exact cut ((List.append_nil x).symm.trans spelled)
  have leaves (q : Packet) : Wire.decode x = .ok q ↔ Wire.Leaves f.packet x q := by
    constructor
    · intro read
      obtain ⟨g, fitsG, rfl, rfl, -⟩ := Wire.decodeWithin_iff.mp read
      exact Wire.leaves_of_begins fits (Wire.Layout.begins_of_append fits fitsG spelled missing)
    · intro left
      exact Wire.decodeWithin_iff.mpr (Wire.layout_of_leaves fits shallow left)
  refine ⟨fun q => Wire.mapError_eq_ok.trans (leaves q), fun none => ?_⟩
  cases read : Wire.decode x with
  | ok q => exact absurd ⟨q, (leaves q).mp read⟩ none
  | error cause => exact ⟨cause, congrArg (Except.mapError Fault.decode) read⟩

/-- A bundle of two messages that is cut behind the first one, and in the middle of the second. -/
theorem osc_decode_cut_secondElement :
    let first := Packet.message (ofString "/a") []
    let p := Packet.bundle .immediately [first, .message (ofString "/b") [.int 5]]
    let x : Bytes := [35, 98, 117, 110, 100, 108, 101, 0, 0, 0, 0, 0, 0, 0, 0, 1,
      0, 0, 0, 8, 47, 97, 0, 0, 44, 0, 0, 0]
    let y : Bytes := x ++ [0, 0, 0, 12, 47, 98, 0, 0]
    let data : Bytes := y ++ [44, 105, 0, 0, 0, 0, 0, 5]
    p.Built ∧ p.depth ≤ maxBundleDepth ∧ osc.encode p.toValue = .ok data ∧
      (x <+: data ∧ x ≠ data ∧ osc.decode x = .ok (.bundle .immediately [first])) ∧
      y <+: data ∧ y ≠ data ∧ ∃ cause, osc.decode y = .error (.decode cause) := by
  intro first p x y data
  have built : p.Built := by
    intro x hx
    simp [p, first, Packet.floats, Argument.floats] at hx
  have shallow : p.depth ≤ maxBundleDepth := by
    simp [p, first, Packet.depth, maxBundleDepth]
  have written : osc.encode p.toValue = .ok data := rfl
  have beginsX : x <+: data := ⟨[0, 0, 0, 12, 47, 98, 0, 0, 44, 105, 0, 0, 0, 0, 0, 5], rfl⟩
  have beginsY : y <+: data := ⟨[44, 105, 0, 0, 0, 0, 0, 5], rfl⟩
  have cutX : x ≠ data := by decide
  have cutY : y ≠ data := by decide
  have element : Wire.encode first.toValue = .ok [47, 97, 0, 0, 44, 0, 0, 0] := rfl
  have framed : Wire.Frames ([first, .message (ofString "/b") [.int 5]].take 1) (x.drop 16) :=
    .cons element .nil
  have one : Wire.Leaves p x (.bundle .immediately [first]) :=
    .elements .immediately (Nat.lt_succ_self 1) framed
  refine ⟨built, shallow, written, ⟨beginsX, cutX, ?_⟩, beginsY, cutY, ?_⟩
  · exact ((osc_decode_cut built shallow written beginsX cutX).1 _).mpr one
  · obtain ⟨reads, faults⟩ := osc_decode_cut built shallow written beginsY cutY
    apply faults
    rintro ⟨q, left⟩
    have refused : osc.decode y = .error (.decode (.elementSize 12 4)) := by cbv
    cases refused.symm.trans ((reads q).mpr left)

end Osc.Codec
