import Osc.Packet
import Osc.Wire.Encode
import Osc.Wire.Decode
import Osc.Proofs.Utf8
import Osc.Proofs.Words
import Osc.Proofs.Precision

/-!
The grammar of packets on the wire, as trees of what stands where. A tree says everything
that its bytes say, pad bytes and the letter of each tag included, and more than the
packet it denotes. The trees are defined without a reader: each says which bytes it lays
out and which packet it stands for. Sizes are the one condition that a tree itself does
not keep, since they count bytes.

The main statement is that the grammar is unambiguous: no two trees lay out the same
bytes.
-/

namespace Osc.Wire

open Floating (Binary32 Binary64)

/-- A text, the zero that ends it and pad bytes up to a multiple of four. -/
@[ext]
structure StringField where
  text : Text
  padding : Bytes
  scalar : text.hasSurrogate = false
  nonzero : 0 ∉ text
  aligned : 4 ∣ (Utf8.form text).length + 1 + padding.length
  short : padding.length < 4

def StringField.bytes (f : StringField) : Bytes := Utf8.form f.text ++ 0 :: f.padding

/-- Some bytes with their size in front, and pad bytes up to a multiple of four. -/
@[ext]
structure BlobField where
  data : Bytes
  padding : Bytes
  sized : data.length < 2 ^ 31
  aligned : 4 ∣ data.length + padding.length
  short : padding.length < 4

def BlobField.bytes (f : BlobField) : Bytes := bigEndian 4 f.data.length ++ f.data ++ f.padding

/-- What may stand in the place of an argument with a given tag. -/
inductive Leaf : Tag → Type where
  | int (w : BitVec 32) : Leaf .int
  | float (x : Binary32) : Leaf .float
  | string (field : StringField) : Leaf .string
  | symbol (field : StringField) : Leaf .symbol
  | blob (field : BlobField) : Leaf .blob
  | time (seconds fractional : BitVec 32) : Leaf .time
  | long (w : BitVec 64) : Leaf .long
  | double (x : Binary64) : Leaf .double
  | char (c : CodePoint) : Leaf .char
  | color (red green blue alpha : UInt8) : Leaf .color
  | midi (port status data1 data2 : UInt8) : Leaf .midi
  | yes : Leaf .yes
  | no : Leaf .no
  | nil : Leaf .nil
  | infinitum : Leaf .infinitum

def Leaf.payload : Leaf tag → Bytes
  | .int w => bigEndian 4 w.toNat
  | .float x => bigEndian 4 x.word
  | .string field | .symbol field => field.bytes
  | .blob field => field.bytes
  | .time seconds fractional => bigEndian 4 seconds.toNat ++ bigEndian 4 fractional.toNat
  | .long w => bigEndian 8 w.toNat
  | .double x => bigEndian 8 x.word
  | .char c => bigEndian 4 c.val
  | .color red green blue alpha => [red, green, blue, alpha]
  | .midi port status data1 data2 => [port, status, data1, data2]
  | .yes | .no | .nil | .infinitum => []

def Leaf.argument : Leaf tag → Argument
  | .int w => .int w.toInt
  | .float x => .float x.widen
  | .string field | .symbol field => .string field.text
  | .blob field => .blob field.data
  | .time seconds fractional => .time ⟨seconds.toNat, fractional.toNat⟩
  | .long w => .long w.toInt
  | .double x => .double x
  | .char c => .char [c]
  | .color red green blue alpha => .color red.toNat green.toNat blue.toNat alpha.toNat
  | .midi port status data1 data2 => .midi port.toNat status.toNat data1.toNat data2.toNat
  | .yes => .bool true
  | .no => .bool false
  | .nil => .nil
  | .infinitum => .infinitum

/-- A row of arguments. Brackets stand among the tags and leave no trace in the payload. -/
inductive Items where
  | nil
  | leaf (tag : Tag) (first : Leaf tag) (rest : Items)
  | array (inner rest : Items)

namespace Items

def marks : Items → List Mark
  | .nil => []
  | .leaf tag _ rest => .argument tag :: rest.marks
  | .array inner rest => .opening :: (inner.marks ++ .closing :: rest.marks)

def payload : Items → Bytes
  | .nil => []
  | .leaf _ first rest => first.payload ++ rest.payload
  | .array inner rest => inner.payload ++ rest.payload

def arguments : Items → List Argument
  | .nil => []
  | .leaf _ first rest => first.argument :: rest.arguments
  | .array inner rest => .array inner.arguments :: rest.arguments

end Items

/-- The type tags and the arguments that they announce. -/
@[ext]
structure Tagged where
  items : Items
  tags : StringField
  spelled : tags.text = tagComma :: items.marks.map Mark.codePoint

def Tagged.bytes (t : Tagged) : Bytes := t.tags.bytes ++ t.items.payload

/-- A message; some have nothing at all behind the address. -/
@[ext]
structure MessageLayout where
  address : StringField
  slashed : address.text.head? = some slash
  tagged : Option Tagged

namespace MessageLayout

def bytes (m : MessageLayout) : Bytes :=
  m.address.bytes ++ (m.tagged.map Tagged.bytes).getD []

def arguments (m : MessageLayout) : List Argument :=
  (m.tagged.map fun t => t.items.arguments).getD []

def packet (m : MessageLayout) : Packet := .message m.address.text m.arguments

end MessageLayout

/-- A packet. The elements of a bundle are packets with their sizes in front. -/
inductive Layout where
  | message (m : MessageLayout)
  | bundle (seconds fractional : BitVec 32) (elements : List Layout)

namespace Layout

@[elab_as_elim, induction_eliminator]
theorem nested_induction {motive : Layout → Prop} (message : ∀ m, motive (.message m))
    (bundle : ∀ seconds fractional elements, (∀ e ∈ elements, motive e) →
      motive (.bundle seconds fractional elements)) : ∀ f, motive f
  | .message m => message m
  | .bundle seconds fractional elements =>
    bundle seconds fractional elements fun e _ => nested_induction message bundle e

def framed (element : Bytes) : Bytes := bigEndian 4 element.length ++ element

/-- The bytes of a bundle around those of its elements. -/
def wrapped (seconds fractional : BitVec 32) (elements : Bytes) : Bytes :=
  bundleTag ++ (bigEndian 4 seconds.toNat ++ bigEndian 4 fractional.toNat ++ elements)

def bytes : Layout → Bytes
  | .message m => m.bytes
  | .bundle seconds fractional elements =>
    wrapped seconds fractional (elements.flatMap fun e => framed e.bytes)

def packet : Layout → Packet
  | .message m => m.packet
  | .bundle seconds fractional elements =>
    .bundle ⟨seconds.toNat, fractional.toNat⟩ (elements.map packet)

/-- The messages at all levels, in order. -/
def messages : Layout → List MessageLayout
  | .message m => [m]
  | .bundle _ _ elements => elements.flatMap messages

/-- The size of every element fits a signed word of 32 bits. -/
inductive Fits : Layout → Prop where
  | message (m : MessageLayout) : Fits (.message m)
  | bundle {seconds fractional : BitVec 32} {elements : List Layout}
      (inner : ∀ e ∈ elements, Fits e) (sized : ∀ e ∈ elements, e.bytes.length < 2 ^ 31) :
      Fits (.bundle seconds fractional elements)

theorem fits_bundle {seconds fractional : BitVec 32} {elements : List Layout} :
    (bundle seconds fractional elements).Fits ↔
      ∀ e ∈ elements, e.Fits ∧ e.bytes.length < 2 ^ 31 := by
  constructor
  · intro h
    cases h with | bundle inner sized => ?_
    exact fun e he => ⟨inner e he, sized e he⟩
  · intro h
    exact .bundle (fun e he => (h e he).1) (fun e he => (h e he).2)

end Layout

/-! Unambiguity. Every field says where it ends, so two trees over the same bytes agree
field by field. -/

/-- The zero that ends a text is the first one. -/
theorem Utf8.takeWhile_form {t : Text} (nonzero : 0 ∉ t) (rest : Bytes) :
    (Utf8.form t ++ 0 :: rest).takeWhile (· != 0) = Utf8.form t := by
  rw [List.takeWhile_append_of_pos]
  · simp
  · intro b member
    have : b ≠ 0 := fun zero => nonzero (Utf8.zero_mem_form.mp (zero ▸ member))
    simpa using this

theorem Utf8.append_zero_inj {s t : Text} {u v : Bytes} (hs : 0 ∉ s) (ht : 0 ∉ t)
    (h : Utf8.form s ++ 0 :: u = Utf8.form t ++ 0 :: v) : Utf8.form s = Utf8.form t ∧ u = v := by
  have same : Utf8.form s = Utf8.form t := by
    rw [← takeWhile_form hs u, h, takeWhile_form ht v]
  refine ⟨same, ?_⟩
  rw [same] at h
  exact (List.cons.inj (List.append_cancel_left h)).2

/-- The pad bytes of a field are as many as its length asks for. -/
theorem padding_length_eq {size m n : Nat} (hm : 4 ∣ size + m) (hn : 4 ∣ size + n)
    (fewm : m < 4) (fewn : n < 4) : m = n := by
  omega

theorem StringField.bytes_append_inj {f g : StringField} {r s : Bytes}
    (h : f.bytes ++ r = g.bytes ++ s) : f = g ∧ r = s := by
  obtain ⟨text, padding, scalar, nonzero, aligned, short⟩ := f
  obtain ⟨text', padding', scalar', nonzero', aligned', short'⟩ := g
  simp only [StringField.bytes, List.append_assoc, List.cons_append] at h
  obtain ⟨same, tail⟩ := Utf8.append_zero_inj nonzero nonzero' h
  cases Utf8.form_inj scalar scalar' same
  obtain ⟨rfl, rest⟩ := List.append_inj tail (padding_length_eq aligned aligned' short short')
  exact ⟨rfl, rest⟩

theorem BlobField.bytes_append_inj {f g : BlobField} {r s : Bytes}
    (h : f.bytes ++ r = g.bytes ++ s) : f = g ∧ r = s := by
  obtain ⟨data, padding, sized, aligned, short⟩ := f
  obtain ⟨data', padding', sized', aligned', short'⟩ := g
  simp only [BlobField.bytes, List.append_assoc] at h
  obtain ⟨size, tail⟩ := List.append_inj h (by rw [bigEndian_length, bigEndian_length])
  have length : data.length = data'.length := by
    rw [← ofBigEndian_bigEndian (show data.length < 256 ^ 4 by omega), size,
      ofBigEndian_bigEndian (by omega)]
  obtain ⟨rfl, fill⟩ := List.append_inj tail length
  obtain ⟨rfl, rest⟩ := List.append_inj fill (padding_length_eq aligned aligned' short short')
  exact ⟨rfl, rest⟩

/-- Words of a fixed count of bytes agree when the bytes that start with them do. -/
theorem word_append_inj {bits count : Nat} {v w : BitVec bits} {r s : Bytes}
    (wide : 2 ^ bits = 256 ^ count)
    (h : bigEndian count v.toNat ++ r = bigEndian count w.toNat ++ s) : v = w ∧ r = s := by
  obtain ⟨same, rest⟩ := List.append_inj h (by rw [bigEndian_length, bigEndian_length])
  exact ⟨bigEndian_inj wide same, rest⟩

theorem binary_append_inj {f : Floating.Format} {count : Nat} {x y : Floating.Binary f}
    {r s : Bytes} (wide : 2 ^ (f.width + 1) = 256 ^ count)
    (h : bigEndian count x.word ++ r = bigEndian count y.word ++ s) : x = y ∧ r = s := by
  have small (z : Floating.Binary f) : z.word < 256 ^ count := wide ▸ z.word_lt
  obtain ⟨same, rest⟩ := List.append_inj h (by rw [bigEndian_length, bigEndian_length])
  have words : x.word = y.word := by
    rw [← ofBigEndian_bigEndian (small x), same, ofBigEndian_bigEndian (small y)]
  rw [← Floating.Binary.ofWord_word x, words, Floating.Binary.ofWord_word]
  exact ⟨rfl, rest⟩

theorem Leaf.payload_append_inj {tag : Tag} {l m : Leaf tag} {r s : Bytes}
    (h : l.payload ++ r = m.payload ++ s) : l = m ∧ r = s := by
  cases l with
  | int v =>
    cases m with | int w => ?_
    obtain ⟨rfl, rest⟩ := word_append_inj rfl h
    exact ⟨rfl, rest⟩
  | float x =>
    cases m with | float y => ?_
    obtain ⟨rfl, rest⟩ := binary_append_inj rfl h
    exact ⟨rfl, rest⟩
  | string f =>
    cases m with | string g => ?_
    obtain ⟨rfl, rest⟩ := StringField.bytes_append_inj h
    exact ⟨rfl, rest⟩
  | symbol f =>
    cases m with | symbol g => ?_
    obtain ⟨rfl, rest⟩ := StringField.bytes_append_inj h
    exact ⟨rfl, rest⟩
  | blob f =>
    cases m with | blob g => ?_
    obtain ⟨rfl, rest⟩ := BlobField.bytes_append_inj h
    exact ⟨rfl, rest⟩
  | time a b =>
    cases m with | time c d => ?_
    simp only [Leaf.payload, List.append_assoc] at h
    obtain ⟨rfl, tail⟩ := word_append_inj rfl h
    obtain ⟨rfl, rest⟩ := word_append_inj rfl tail
    exact ⟨rfl, rest⟩
  | long v =>
    cases m with | long w => ?_
    obtain ⟨rfl, rest⟩ := word_append_inj rfl h
    exact ⟨rfl, rest⟩
  | double x =>
    cases m with | double y => ?_
    obtain ⟨rfl, rest⟩ := binary_append_inj rfl h
    exact ⟨rfl, rest⟩
  | char c =>
    cases m with | char d => ?_
    have small (c : CodePoint) : c.val < 256 ^ 4 := lt_trans c.isLt (by decide)
    obtain ⟨same, rest⟩ := List.append_inj h (by simp only [Leaf.payload, bigEndian_length])
    have values : c.val = d.val := by
      rw [← ofBigEndian_bigEndian (small c), ← ofBigEndian_bigEndian (small d)]
      exact congrArg ofBigEndian same
    exact ⟨congrArg Leaf.char (Fin.val_inj.mp values), rest⟩
  | color red green blue alpha =>
    cases m with | color red' green' blue' alpha' => ?_
    simp only [Leaf.payload, List.cons_append, List.nil_append, List.cons.injEq] at h
    obtain ⟨rfl, rfl, rfl, rfl, rest⟩ := h
    exact ⟨rfl, rest⟩
  | midi port status data1 data2 =>
    cases m with | midi port' status' data1' data2' => ?_
    simp only [Leaf.payload, List.cons_append, List.nil_append, List.cons.injEq] at h
    obtain ⟨rfl, rfl, rfl, rfl, rest⟩ := h
    exact ⟨rfl, rest⟩
  | yes =>
    cases m
    exact ⟨rfl, h⟩
  | no =>
    cases m
    exact ⟨rfl, h⟩
  | nil =>
    cases m
    exact ⟨rfl, h⟩
  | infinitum =>
    cases m
    exact ⟨rfl, h⟩

/-- Marks that no row of arguments goes on with. -/
def Ends (marks : List Mark) : Prop := ∀ mark ∈ marks.head?, mark = .closing

/-- A row of arguments is told by its marks and its payload, whatever follows either. -/
theorem Items.unique {is js : Items} {u v : List Mark} {r s : Bytes} (hu : Ends u) (hv : Ends v)
    (marks : is.marks ++ u = js.marks ++ v) (payload : is.payload ++ r = js.payload ++ s) :
    is = js ∧ u = v ∧ r = s := by
  induction is generalizing js u v r s with
  | nil =>
    cases js with
    | nil => exact ⟨rfl, marks, payload⟩
    | leaf tag first rest =>
      subst marks
      cases hu (.argument tag) rfl
    | array inner rest =>
      subst marks
      cases hu .opening rfl
  | leaf tag first rest ih =>
    cases js with
    | nil =>
      subst marks
      cases hv (.argument tag) rfl
    | leaf tag' first' rest' =>
      simp only [Items.marks, Items.payload, List.cons_append, List.append_assoc, List.cons.injEq,
        Mark.argument.injEq] at marks payload
      obtain ⟨rfl, marks⟩ := marks
      obtain ⟨rfl, others⟩ := Leaf.payload_append_inj payload
      obtain ⟨rfl, ends⟩ := ih hu hv marks others
      exact ⟨rfl, ends⟩
    | array inner rest => cases (List.cons.inj marks).1
  | array inner rest ihInner ihRest =>
    cases js with
    | nil =>
      subst marks
      cases hv .opening rfl
    | leaf tag first rest => cases (List.cons.inj marks).1
    | array inner' rest' =>
      simp only [Items.marks, Items.payload, List.cons_append, List.append_assoc, List.cons.injEq,
        true_and] at marks payload
      have closes (w : List Mark) : Ends (.closing :: w) := by simp [Ends]
      obtain ⟨rfl, marks, payload⟩ := ihInner (closes _) (closes _) marks payload
      obtain ⟨rfl, ends⟩ := ihRest hu hv (List.cons.inj marks).2 payload
      exact ⟨rfl, ends⟩

theorem Mark.codePoint_injective : Function.Injective Mark.codePoint := by
  intro m n h
  have read := Mark.ofCodePoint?_codePoint m
  rw [h, Mark.ofCodePoint?_codePoint] at read
  exact (Option.some.inj read).symm

theorem Tagged.bytes_inj {t u : Tagged} (h : t.bytes = u.bytes) : t = u := by
  obtain ⟨items, tags, spelled⟩ := t
  obtain ⟨items', tags', spelled'⟩ := u
  obtain ⟨rfl, payload⟩ := StringField.bytes_append_inj h
  have letters := (List.cons.inj (spelled.symm.trans spelled')).2
  have marks := List.map_injective_iff.mpr Mark.codePoint_injective letters
  have nothing : Ends [] := by simp [Ends]
  obtain ⟨rfl, -⟩ := Items.unique (r := []) (s := []) nothing nothing
    (congrArg (· ++ []) marks) (congrArg (· ++ []) payload)
  rfl

theorem StringField.bytes_ne_nil (f : StringField) : f.bytes ≠ [] := by
  simp [StringField.bytes]

theorem MessageLayout.bytes_inj {m n : MessageLayout} (h : m.bytes = n.bytes) : m = n := by
  obtain ⟨address, slashed, tagged⟩ := m
  obtain ⟨address', slashed', tagged'⟩ := n
  obtain ⟨rfl, tail⟩ := StringField.bytes_append_inj h
  have some_ne (t : Tagged) : t.bytes ≠ [] := by
    simp [Tagged.bytes, StringField.bytes_ne_nil]
  cases tagged with
  | none =>
    cases tagged' with
    | none => rfl
    | some u => exact absurd tail.symm (some_ne u)
  | some t =>
    cases tagged' with
    | none => exact absurd tail (some_ne t)
    | some u =>
      cases Tagged.bytes_inj tail
      rfl

/-- The first byte of a message is a slash. -/
theorem MessageLayout.head_bytes (m : MessageLayout) : m.bytes.head? = some slashByte := by
  obtain ⟨⟨text, padding, scalar, nonzero, aligned, short⟩, slashed, tagged⟩ := m
  cases text with
  | nil => simp at slashed
  | cons c text =>
    cases Option.some.inj slashed
    rfl

namespace Layout

theorem head_wrapped (seconds fractional : BitVec 32) (elements : Bytes) :
    (wrapped seconds fractional elements).head? = some 35 := rfl

theorem framed_append_inj {a b r s : Bytes} (ha : a.length < 2 ^ 31) (hb : b.length < 2 ^ 31)
    (h : framed a ++ r = framed b ++ s) : a = b ∧ r = s := by
  simp only [framed, List.append_assoc] at h
  obtain ⟨size, tail⟩ := List.append_inj h (by rw [bigEndian_length, bigEndian_length])
  have length : a.length = b.length := by
    rw [← ofBigEndian_bigEndian (show a.length < 256 ^ 4 by omega), size,
      ofBigEndian_bigEndian (by omega)]
  exact List.append_inj tail length

private theorem elements_inj {es ds : List Layout}
    (each : ∀ e ∈ es, ∀ d ∈ ds, e.bytes = d.bytes → e = d)
    (hes : ∀ e ∈ es, e.bytes.length < 2 ^ 31) (hds : ∀ d ∈ ds, d.bytes.length < 2 ^ 31)
    (h : (es.flatMap fun e => framed e.bytes) = ds.flatMap fun d => framed d.bytes) : es = ds := by
  have framed_ne (a b : Bytes) : framed a ++ b ≠ [] := by simp [framed, bigEndian]
  induction es generalizing ds with
  | nil =>
    cases ds with
    | nil => rfl
    | cons d ds => exact (framed_ne _ _ h.symm).elim
  | cons e es ih =>
    cases ds with
    | nil => exact (framed_ne _ _ h).elim
    | cons d ds =>
      obtain ⟨first, rest⟩ := framed_append_inj (hes e (by simp)) (hds d (by simp)) h
      rw [each e (by simp) d (by simp) first]
      congr 1
      refine ih ?_ ?_ ?_ rest
      · exact fun e he d hd => each e (by simp [he]) d (by simp [hd])
      · exact fun e he => hes e (by simp [he])
      · exact fun d hd => hds d (by simp [hd])

/-- No two trees lay out the same bytes. -/
theorem bytes_inj {f g : Layout} (hf : f.Fits) (hg : g.Fits) (h : f.bytes = g.bytes) : f = g := by
  induction f generalizing g with
  | message m =>
    cases g with
    | message n =>
      simp only [bytes] at h
      rw [MessageLayout.bytes_inj h]
    | bundle seconds fractional elements =>
      have heads := congrArg List.head? h
      simp only [bytes, MessageLayout.head_bytes, head_wrapped] at heads
      cases heads
  | bundle seconds fractional elements ih =>
    cases g with
    | message n =>
      have heads := congrArg List.head? h
      simp only [bytes, MessageLayout.head_bytes, head_wrapped] at heads
      cases heads
    | bundle seconds' fractional' elements' =>
      rw [fits_bundle] at hf hg
      simp only [bytes, wrapped, List.append_assoc] at h
      obtain ⟨rfl, tail⟩ := word_append_inj rfl (List.append_cancel_left h)
      obtain ⟨rfl, rest⟩ := word_append_inj rfl tail
      rw [elements_inj (fun e he d hd => ih e he (hf e he).1 (hg d hd).1)
        (fun e he => (hf e he).2) (fun d hd => (hg d hd).2) rest]

end Layout

end Osc.Wire
