import Osc.Proofs.Layout
import Osc.Proofs.PacketTree

/-!
The reader follows the grammar. Each step of reading takes the bytes of one field off the
front and gives what the field denotes, and it succeeds on nothing else; the machine that
keeps the open brackets on a stack builds the row of arguments that its tags spell; and a
packet is read from exactly the bytes that some tree lays out, as long as its bundles do
not nest too deep.
-/

namespace Osc.Wire

open Floating (Binary)

/-- A chain that succeeds went through a first result. -/
theorem ok_of_bind {x : Except ε α} {f : α → Except ε β} {b : β} (h : (x >>= f) = .ok b) :
    ∃ a, x = .ok a ∧ f a = .ok b := by
  cases x with
  | error e => cases h
  | ok a => exact ⟨a, rfl, h⟩

theorem ok_of_map {x : Except ε α} {f : α → β} {b : β} (h : x.map f = .ok b) :
    ∃ a, x = .ok a ∧ b = f a := by
  cases x with
  | error e => cases h
  | ok a => exact ⟨a, rfl, (Except.ok.inj h).symm⟩

theorem mapError_eq_ok {x : Except ε α} {f : ε → δ} {a : α} :
    x.mapError f = .ok a ↔ x = .ok a := by
  cases x <;> simp [Except.mapError]

theorem bind_ok {a : α} {f : α → Except ε β} : (Except.ok a >>= f) = f a := rfl

/-- From one cursor to another some bytes are passed. -/
def Cursor.Passes (c : Cursor) (data : Bytes) (next : Cursor) : Prop :=
  c.rest = data ++ next.rest ∧ next.offset = c.offset + data.length

theorem Cursor.Passes.append {c d e : Cursor} {first more : Bytes} (h : c.Passes first d)
    (h' : d.Passes more e) : c.Passes (first ++ more) e := by
  refine ⟨?_, ?_⟩
  · rw [h.1, h'.1, List.append_assoc]
  · rw [h'.2, h.2, List.length_append, Nat.add_assoc]

/-- Bytes that are passed may be passed in two steps. -/
theorem Cursor.Passes.split {c e : Cursor} {first more : Bytes} (h : c.Passes (first ++ more) e) :
    ∃ d : Cursor, c.Passes first d ∧ d.Passes more e := by
  obtain ⟨split, offset⟩ := h
  rw [List.append_assoc] at split
  rw [List.length_append, ← Nat.add_assoc] at offset
  exact ⟨⟨c.offset + first.length, more ++ e.rest⟩, ⟨split, rfl⟩, ⟨rfl, offset⟩⟩

theorem Cursor.passes_nil {c d : Cursor} : c.Passes [] d ↔ d = c := by
  cases c
  cases d
  simp [Passes, eq_comm, and_comm]

theorem Cursor.take_iff {c next : Cursor} {count : Nat} {taken : Bytes} :
    c.take count = .ok (taken, next) ↔ taken.length = count ∧ c.Passes taken next := by
  constructor
  · intro h
    obtain ⟨split, size, offset⟩ := Cursor.take_eq_ok h
    exact ⟨size, split, size ▸ offset⟩
  · rintro ⟨rfl, split, offset⟩
    obtain ⟨nextOffset, rest⟩ := next
    cases offset
    simp [Cursor.take, split, split?_append]

/-- A word of four or eight bytes is taken like any other field. -/
theorem Cursor.take_word {c next : Cursor} (bits : Nat) {count : Nat} {word : Bytes}
    (wide : 2 ^ bits = 256 ^ count) (h : c.take count = .ok (word, next)) :
    ∃ w : BitVec bits, c.Passes (bigEndian count w.toNat) next ∧ ofBigEndian word = w.toNat := by
  obtain ⟨size, passes⟩ := Cursor.take_iff.mp h
  obtain ⟨w, rfl, number⟩ := exists_word bits size wide
  exact ⟨w, passes, number⟩

theorem Cursor.take_bigEndian {c next : Cursor} {count n : Nat}
    (h : c.Passes (bigEndian count n) next) : c.take count = .ok (bigEndian count n, next) :=
  Cursor.take_iff.mpr ⟨bigEndian_length count n, h⟩

theorem padded_of_aligned {size count : Nat} (aligned : 4 ∣ size + count) (short : count < 4) :
    padded size = size + count := by
  rw [padded_eq]
  omega

/-- What is left of a field behind its contents are its pad bytes. -/
theorem padding_of_padded {size : Nat} {raw : Bytes} (h : raw.length = padded size) :
    4 ∣ size + (raw.drop size).length ∧ (raw.drop size).length < 4 := by
  rw [List.length_drop, h, padded_eq]
  omega

/-- Of two beginnings of the same bytes the shorter one begins the other. -/
theorem eq_append_of_le {a raw rest tail : Bytes} (h : raw ++ rest = a ++ tail)
    (le : a.length ≤ raw.length) : raw = a ++ raw.drop a.length := by
  have whole : a <+: raw := List.prefix_of_prefix_length_le ⟨tail, h.symm⟩ ⟨rest, rfl⟩ le
  exact (List.prefix_iff_eq_append.mp whole).symm

/-- Bytes that go on behind those before the first zero go on with it. -/
theorem exists_zero {data : Bytes}
    (h : ¬ (data.drop (data.takeWhile (· != 0)).length).isEmpty = true) :
    ∃ tail, data = data.takeWhile (· != 0) ++ 0 :: tail := by
  induction data with
  | nil => exact absurd rfl h
  | cons b data ih =>
    by_cases zero : b = 0
    · exact ⟨data, by simp [zero]⟩
    · obtain ⟨tail, split⟩ := ih (by simpa [zero] using h)
      exact ⟨tail, by simpa [zero] using split⟩

theorem Cursor.string_iff {c next : Cursor} {t : Text} :
    c.string = .ok (t, next) ↔ ∃ f : StringField, c.Passes f.bytes next ∧ t = f.text := by
  constructor
  · intro h
    simp only [Cursor.string] at h
    split at h
    · cases h
    · next ended =>
      obtain ⟨⟨raw, after⟩, taken, h⟩ := ok_of_bind h
      split at h
      · next read =>
        cases h
        obtain ⟨scalar, body⟩ := Utf8.decode_eq_ok.mp read
        obtain ⟨tail, split⟩ := exists_zero ended
        have nonzero : 0 ∉ t := by
          intro member
          have early := body ▸ Utf8.zero_mem_form.mpr member
          have := List.all_eq_true.mp List.all_takeWhile 0 early
          simp at this
        rw [body] at taken split
        obtain ⟨size, passes⟩ := Cursor.take_iff.mp taken
        obtain ⟨aligned, short⟩ := padding_of_padded size
        have shape := eq_append_of_le (a := Utf8.form t ++ [0])
          (by rw [← passes.1, split, List.append_assoc]; rfl)
          (by rw [size, padded_eq, List.length_append, List.length_singleton]; omega)
        rw [List.length_append, List.length_singleton, List.append_assoc] at shape
        refine ⟨⟨t, _, scalar, nonzero, aligned, short⟩, ?_, rfl⟩
        rw [StringField.bytes]
        exact shape ▸ passes
      · cases h
  · rintro ⟨f, ⟨split, offset⟩, rfl⟩
    have split' : c.rest = Utf8.form f.text ++ 0 :: (f.padding ++ next.rest) := by
      rw [split, StringField.bytes, List.append_assoc, List.cons_append]
    have body : c.rest.takeWhile (· != 0) = Utf8.form f.text := by
      rw [split', Utf8.takeWhile_form f.nonzero]
    have size : f.bytes.length = padded ((Utf8.form f.text).length + 1) := by
      rw [padded_of_aligned f.aligned f.short, StringField.bytes, List.length_append,
        List.length_cons]
      omega
    have taken := Cursor.take_iff.mpr ⟨size, split, offset⟩
    have ended : (c.rest.drop (Utf8.form f.text).length).isEmpty = false := by
      rw [split', List.drop_left]
      rfl
    have read : Utf8.decode (Utf8.form f.text) = .ok f.text :=
      Utf8.decode_eq_ok.mpr ⟨f.scalar, rfl⟩
    simp only [Cursor.string, body, ended, taken, read, bind_ok, Bool.false_eq_true, if_false]

theorem Cursor.int32_of_ok {c next : Cursor} {n : Int} (h : c.int32 = .ok (n, next)) :
    ∃ w : BitVec 32, c.Passes (bigEndian 4 w.toNat) next ∧ n = w.toInt := by
  obtain ⟨⟨word, after⟩, taken, h⟩ := ok_of_bind h
  cases h
  obtain ⟨w, passes, number⟩ := Cursor.take_word 32 rfl taken
  exact ⟨w, passes, by rw [ofInt32, number, ofSignedWord_toNat]⟩

theorem Cursor.int32_word {c next : Cursor} {w : BitVec 32}
    (h : c.Passes (bigEndian 4 w.toNat) next) : c.int32 = .ok (w.toInt, next) := by
  have read : ofInt32 (bigEndian 4 w.toNat) = w.toInt := by
    rw [ofInt32, ofBigEndian_word w rfl, ofSignedWord_toNat]
  simp only [Cursor.int32, Cursor.take_bigEndian h, bind_ok, read]
  rfl

/-- A size is read back as it was. -/
theorem Cursor.int32_size {c next : Cursor} {n : Nat} (small : n < 2 ^ 31)
    (h : c.Passes (bigEndian 4 n) next) : c.int32 = .ok ((n : Int), next) := by
  have read : ofInt32 (bigEndian 4 n) = n := by rw [← int32_of_lt small, ofInt32_int32 small]
  simp only [Cursor.int32, Cursor.take_bigEndian h, bind_ok, read]
  rfl

/-- A size that was read and is not negative was spelled by its own word. -/
theorem Cursor.size_of_ok {c next : Cursor} {n : Int} (h : c.int32 = .ok (n, next))
    (positive : 0 ≤ n) : n.toNat < 2 ^ 31 ∧ c.Passes (bigEndian 4 n.toNat) next := by
  obtain ⟨⟨word, after⟩, taken, h⟩ := ok_of_bind h
  cases h
  obtain ⟨size, passes⟩ := Cursor.take_iff.mp taken
  obtain ⟨small, spelled⟩ := eq_int32_of_ofInt32 size rfl positive
  rw [spelled, int32_of_lt small] at passes
  exact ⟨small, passes⟩

theorem Cursor.blob_iff {c next : Cursor} {data : Bytes} :
    c.blob = .ok (data, next) ↔ ∃ f : BlobField, c.Passes f.bytes next ∧ data = f.data := by
  constructor
  · intro h
    obtain ⟨⟨size, after⟩, sized, h⟩ := ok_of_bind h
    simp only at h
    split at h
    · cases h
    · next positive =>
      obtain ⟨⟨raw, last⟩, taken, h⟩ := ok_of_bind h
      cases h
      obtain ⟨small, header⟩ := Cursor.size_of_ok sized (not_lt.mp positive)
      obtain ⟨length, passes⟩ := Cursor.take_iff.mp taken
      obtain ⟨aligned, short⟩ := padding_of_padded length
      have enough : size.toNat ≤ raw.length := by
        rw [length, padded_eq]
        omega
      have exact : (raw.take size.toNat).length = size.toNat := List.length_take_of_le enough
      let field : BlobField :=
        ⟨raw.take size.toNat, raw.drop size.toNat, by rwa [exact], by rwa [exact], short⟩
      have bytes : field.bytes = bigEndian 4 size.toNat ++ raw := by
        simp only [field, BlobField.bytes, exact, List.append_assoc, List.take_append_drop]
      exact ⟨field, bytes ▸ header.append passes, rfl⟩
  · rintro ⟨f, ⟨split, offset⟩, rfl⟩
    rw [BlobField.bytes, List.append_assoc, List.append_assoc] at split
    have size : (f.data ++ f.padding).length = padded f.data.length := by
      rw [padded_of_aligned f.aligned f.short, List.length_append]
    have header : c.Passes (bigEndian 4 f.data.length)
        ⟨c.offset + 4, f.data ++ (f.padding ++ next.rest)⟩ :=
      ⟨split, by rw [bigEndian_length]⟩
    have body : Cursor.Passes ⟨c.offset + 4, f.data ++ (f.padding ++ next.rest)⟩
        (f.data ++ f.padding) next := by
      refine ⟨(List.append_assoc ..).symm, ?_⟩
      rw [offset, BlobField.bytes, List.append_assoc, List.length_append, bigEndian_length,
        Nat.add_assoc]
    rw [Cursor.blob, Cursor.int32_size f.sized header, bind_ok]
    simp only [Int.toNat_natCast, Cursor.take_iff.mpr ⟨size, body⟩, bind_ok, List.take_left']
    rw [if_neg (by omega)]
    rfl

theorem Cursor.timetag_iff {c next : Cursor} {t : TimeTag} :
    c.timetag = .ok (t, next) ↔ ∃ seconds fractional : BitVec 32,
      c.Passes (bigEndian 4 seconds.toNat ++ bigEndian 4 fractional.toNat) next ∧
        t = ⟨seconds.toNat, fractional.toNat⟩ := by
  constructor
  · intro h
    obtain ⟨⟨words, after⟩, taken, h⟩ := ok_of_bind h
    cases h
    obtain ⟨size, passes⟩ := Cursor.take_iff.mp taken
    have first : (words.take 4).length = 4 := List.length_take_of_le (by omega)
    have second : (words.drop 4).length = 4 := by rw [List.length_drop, size]
    obtain ⟨seconds, spelled, number⟩ := exists_word 32 first rfl
    obtain ⟨fractional, spelled', number'⟩ := exists_word 32 second rfl
    refine ⟨seconds, fractional, ?_, by rw [number, number']⟩
    rw [← spelled, ← spelled', List.take_append_drop]
    exact passes
  · rintro ⟨seconds, fractional, passes, rfl⟩
    have size : (bigEndian 4 seconds.toNat ++ bigEndian 4 fractional.toNat).length = 8 := by
      rw [List.length_append, bigEndian_length, bigEndian_length]
    have taken := Cursor.take_iff.mpr ⟨size, passes⟩
    have cut := bigEndian_length 4 seconds.toNat
    have read (w : BitVec 32) : ofBigEndian (bigEndian 4 w.toNat) = w.toNat :=
      ofBigEndian_word w rfl
    simp only [Cursor.timetag, taken, bind_ok, List.take_left' cut, List.drop_left' cut, read]
    rfl

private theorem exists_four {data : Bytes} (h : data.length = 4) :
    ∃ a b c d, data = [a, b, c, d] := by
  match data, h with
  | [a, b, c, d], _ => exact ⟨a, b, c, d, rfl⟩

theorem Cursor.quad_iff {c next : Cursor} {i j k l : Int} :
    c.quad = .ok ((i, j, k, l), next) ↔ ∃ a b d e : UInt8, c.Passes [a, b, d, e] next ∧
      i = a.toNat ∧ j = b.toNat ∧ k = d.toNat ∧ l = e.toNat := by
  constructor
  · intro h
    obtain ⟨⟨data, after⟩, taken, h⟩ := ok_of_bind h
    obtain ⟨size, passes⟩ := Cursor.take_iff.mp taken
    obtain ⟨a, b, d, e, rfl⟩ := exists_four size
    cases h
    exact ⟨a, b, d, e, passes, rfl, rfl, rfl, rfl⟩
  · rintro ⟨a, b, d, e, passes, rfl, rfl, rfl, rfl⟩
    have taken : c.take 4 = .ok ([a, b, d, e], next) := Cursor.take_iff.mpr ⟨rfl, passes⟩
    rw [Cursor.quad, taken]
    rfl

/-- What stands for a tag is read as the argument that it denotes. -/
theorem readArgument_leaf {tag : Tag} (l : Leaf tag) {c next : Cursor}
    (h : c.Passes l.payload next) : readArgument tag c = .ok (l.argument, next) := by
  cases l with
  | int w =>
    rw [readArgument, Cursor.int32_word h]
    rfl
  | float x =>
    have small : x.word < 256 ^ 4 := x.word_lt
    simp only [readArgument, Cursor.take_bigEndian h, bind_ok, ofBigEndian_bigEndian small,
      Floating.Binary.ofWord_word]
    rfl
  | string field =>
    rw [readArgument, Cursor.string_iff.mpr ⟨field, h, rfl⟩]
    rfl
  | symbol field =>
    rw [readArgument, Cursor.string_iff.mpr ⟨field, h, rfl⟩]
    rfl
  | blob field =>
    rw [readArgument, Cursor.blob_iff.mpr ⟨field, h, rfl⟩]
    rfl
  | time seconds fractional =>
    rw [readArgument, Cursor.timetag_iff.mpr ⟨seconds, fractional, h, rfl⟩]
    rfl
  | long w =>
    have read : ofInt64 (bigEndian 8 w.toNat) = w.toInt := by
      rw [ofInt64, ofBigEndian_word w rfl, ofSignedWord_toNat]
    simp only [readArgument, Cursor.take_bigEndian h, bind_ok, read]
    rfl
  | double x =>
    have small : x.word < 256 ^ 8 := x.word_lt
    simp only [readArgument, Cursor.take_bigEndian h, bind_ok, ofBigEndian_bigEndian small,
      Floating.Binary.ofWord_word]
    rfl
  | char code =>
    have small : code.val < 256 ^ 4 := lt_trans code.isLt (by decide)
    simp only [readArgument, Cursor.take_bigEndian h, bind_ok, ofBigEndian_bigEndian small,
      code.isLt, dite_true]
    rfl
  | color red green blue alpha =>
    rw [readArgument, Cursor.quad_iff.mpr ⟨red, green, blue, alpha, h, rfl, rfl, rfl, rfl⟩]
    rfl
  | midi port status data1 data2 =>
    rw [readArgument, Cursor.quad_iff.mpr ⟨port, status, data1, data2, h, rfl, rfl, rfl, rfl⟩]
    rfl
  | yes | no | nil | infinitum =>
    rw [Cursor.passes_nil.mp h]
    rfl

/-- Every argument that is read stands in the grammar. -/
theorem leaf_of_readArgument {tag : Tag} {c next : Cursor} {a : Argument}
    (h : readArgument tag c = .ok (a, next)) :
    ∃ l : Leaf tag, c.Passes l.payload next ∧ a = l.argument := by
  cases tag with
  | int =>
    obtain ⟨⟨n, after⟩, read, h⟩ := ok_of_bind h
    cases h
    obtain ⟨w, passes, rfl⟩ := Cursor.int32_of_ok read
    exact ⟨.int w, passes, rfl⟩
  | float =>
    obtain ⟨⟨word, after⟩, taken, h⟩ := ok_of_bind h
    cases h
    obtain ⟨w, passes, number⟩ := Cursor.take_word 32 rfl taken
    have spelled := Floating.Binary.word_ofWord (f := .single) w.isLt
    refine ⟨.float (Binary.ofWord .single w.toNat), ?_, by rw [number]; rfl⟩
    rw [Leaf.payload, spelled]
    exact passes
  | string =>
    obtain ⟨⟨t, after⟩, read, h⟩ := ok_of_bind h
    cases h
    obtain ⟨field, passes, rfl⟩ := Cursor.string_iff.mp read
    exact ⟨.string field, passes, rfl⟩
  | symbol =>
    obtain ⟨⟨t, after⟩, read, h⟩ := ok_of_bind h
    cases h
    obtain ⟨field, passes, rfl⟩ := Cursor.string_iff.mp read
    exact ⟨.symbol field, passes, rfl⟩
  | blob =>
    obtain ⟨⟨data, after⟩, read, h⟩ := ok_of_bind h
    cases h
    obtain ⟨field, passes, rfl⟩ := Cursor.blob_iff.mp read
    exact ⟨.blob field, passes, rfl⟩
  | time =>
    obtain ⟨⟨t, after⟩, read, h⟩ := ok_of_bind h
    cases h
    obtain ⟨seconds, fractional, passes, rfl⟩ := Cursor.timetag_iff.mp read
    exact ⟨.time seconds fractional, passes, rfl⟩
  | long =>
    obtain ⟨⟨word, after⟩, taken, h⟩ := ok_of_bind h
    cases h
    obtain ⟨w, passes, number⟩ := Cursor.take_word 64 rfl taken
    refine ⟨.long w, passes, ?_⟩
    rw [ofInt64, number, ofSignedWord_toNat]
    rfl
  | double =>
    obtain ⟨⟨word, after⟩, taken, h⟩ := ok_of_bind h
    cases h
    obtain ⟨w, passes, number⟩ := Cursor.take_word 64 rfl taken
    have spelled := Floating.Binary.word_ofWord (f := .double) w.isLt
    refine ⟨.double (Binary.ofWord .double w.toNat), ?_, by rw [number]; rfl⟩
    rw [Leaf.payload, spelled]
    exact passes
  | char =>
    obtain ⟨⟨word, after⟩, taken, h⟩ := ok_of_bind h
    obtain ⟨w, passes, number⟩ := Cursor.take_word 32 rfl taken
    rw [← number] at passes
    simp only at h
    split at h
    · next code =>
      cases h
      exact ⟨.char ⟨ofBigEndian word, code⟩, passes, rfl⟩
    · cases h
  | color =>
    obtain ⟨⟨⟨i, j, k, l⟩, after⟩, read, h⟩ := ok_of_bind h
    cases h
    obtain ⟨red, green, blue, alpha, passes, rfl, rfl, rfl, rfl⟩ := Cursor.quad_iff.mp read
    exact ⟨.color red green blue alpha, passes, rfl⟩
  | midi =>
    obtain ⟨⟨⟨i, j, k, l⟩, after⟩, read, h⟩ := ok_of_bind h
    cases h
    obtain ⟨port, status, data1, data2, passes, rfl, rfl, rfl, rfl⟩ := Cursor.quad_iff.mp read
    exact ⟨.midi port status data1 data2, passes, rfl⟩
  | yes =>
    cases h
    exact ⟨.yes, Cursor.passes_nil.mpr rfl, rfl⟩
  | no =>
    cases h
    exact ⟨.no, Cursor.passes_nil.mpr rfl, rfl⟩
  | nil =>
    cases h
    exact ⟨.nil, Cursor.passes_nil.mpr rfl, rfl⟩
  | infinitum =>
    cases h
    exact ⟨.infinitum, Cursor.passes_nil.mpr rfl, rfl⟩

theorem Mark.ofCodePoint?_eq_some {letter : CodePoint} {mark : Mark} :
    Mark.ofCodePoint? letter = some mark ↔ letter = mark.codePoint := by
  constructor
  · exact Mark.eq_codePoint_of_ofCodePoint?
  · rintro rfl
    exact Mark.ofCodePoint?_codePoint mark

/-- A row of arguments is read behind the items that are there already, whatever brackets
are open. -/
theorem readArguments_row (row : Items) {outer : List (List Argument)} {items : List Argument}
    {c next : Cursor} (letters : List CodePoint) (h : c.Passes row.payload next) :
    readArguments outer items (row.marks.map Mark.codePoint ++ letters) c =
      readArguments outer (row.arguments.reverse ++ items) letters next := by
  induction row generalizing outer items c next letters with
  | nil =>
    rw [Cursor.passes_nil.mp h]
    rfl
  | leaf tag first rest ih =>
    obtain ⟨d, leaf, others⟩ := h.split
    simp only [Items.marks, Items.arguments, List.map_cons, List.cons_append, readArguments,
      Mark.ofCodePoint?_codePoint, readArgument_leaf first leaf, ih letters others,
      List.reverse_cons, List.append_assoc, List.cons_append, List.nil_append]
  | array inner rest ihInner ihRest =>
    obtain ⟨d, within, others⟩ := h.split
    simp only [Items.marks, Items.arguments, List.map_cons, List.map_append, List.cons_append,
      List.append_assoc, readArguments, Mark.ofCodePoint?_codePoint, ihInner _ within,
      ihRest letters others, List.append_nil, List.reverse_reverse, List.reverse_cons,
      List.nil_append]

/-- What is still to come when the items before each open bracket and those since the last
one are known: a row up to every closing bracket and a last one. -/
inductive Closes : List (List Argument) → List Argument → List Mark → Bytes →
    List Argument → Prop where
  | last (items : List Argument) (row : Items) :
      Closes [] items row.marks row.payload (items.reverse ++ row.arguments)
  | inner {outer : List (List Argument)} {before items : List Argument} {marks : List Mark}
      {data : Bytes} {arguments : List Argument} (row : Items)
      (rest : Closes outer (.array (items.reverse ++ row.arguments) :: before) marks data
        arguments) :
      Closes (before :: outer) items (row.marks ++ .closing :: marks) (row.payload ++ data)
        arguments

section

variable {outer : List (List Argument)} {items arguments : List Argument} {marks : List Mark}
  {data : Bytes}

theorem Closes.leaf {tag : Tag} (first : Leaf tag)
    (h : Closes outer (first.argument :: items) marks data arguments) :
    Closes outer items (.argument tag :: marks) (first.payload ++ data) arguments := by
  cases h with
  | last _ row =>
    rw [List.reverse_cons, List.append_assoc]
    exact .last items (.leaf tag first row)
  | inner row rest =>
    rw [List.reverse_cons, List.append_assoc] at rest
    rw [← List.append_assoc]
    exact .inner (.leaf tag first row) rest

theorem Closes.array (inside : Items)
    (h : Closes outer (.array inside.arguments :: items) marks data arguments) :
    Closes outer items (.opening :: (inside.marks ++ .closing :: marks)) (inside.payload ++ data)
      arguments := by
  cases h with
  | last _ row =>
    rw [List.reverse_cons, List.append_assoc]
    exact .last items (.array inside row)
  | inner row rest =>
    rw [List.reverse_cons, List.append_assoc] at rest
    have whole := Closes.inner (.array inside row) rest
    simp only [Items.marks, Items.payload, List.cons_append, List.append_assoc] at whole
    exact whole

/-- The reader with a stack of open brackets stops only where every bracket is closed. -/
theorem closes_of_readArguments {letters : List CodePoint} {c next : Cursor}
    (h : readArguments outer items letters c = .ok (arguments, next)) :
    ∃ marks data, letters = marks.map Mark.codePoint ∧ c.Passes data next ∧
      Closes outer items marks data arguments := by
  induction letters generalizing outer items c with
  | nil =>
    rw [readArguments] at h
    split at h
    · next closed =>
      cases List.isEmpty_iff.mp closed
      cases h
      refine ⟨[], [], rfl, Cursor.passes_nil.mpr rfl, ?_⟩
      have last := Closes.last items .nil
      rwa [Items.arguments, List.append_nil] at last
    · cases h
  | cons letter letters ih =>
    unfold readArguments at h
    split at h
    · cases h
    · next found =>
      obtain ⟨marks, data, rfl, passes, closes⟩ := ih h
      cases Mark.ofCodePoint?_eq_some.mp found
      cases closes with | @inner _ _ _ marks data _ row rest => ?_
      exact ⟨_, _, rfl, passes, rest.array row⟩
    · next found =>
      cases Mark.ofCodePoint?_eq_some.mp found
      split at h
      · cases h
      · next before outer =>
        obtain ⟨marks, data, rfl, passes, closes⟩ := ih h
        refine ⟨.closing :: marks, data, rfl, passes, Closes.inner .nil ?_⟩
        rwa [Items.arguments, List.append_nil]
    · next tag found =>
      cases Mark.ofCodePoint?_eq_some.mp found
      split at h
      · cases h
      · next item after read =>
        obtain ⟨first, leaf, rfl⟩ := leaf_of_readArgument read
        obtain ⟨marks, data, rfl, passes, closes⟩ := ih h
        exact ⟨.argument tag :: marks, _, rfl, leaf.append passes, closes.leaf first⟩

end

/-- Outside all brackets the arguments read are a row of the grammar. -/
theorem readArguments_iff {letters : List CodePoint} {arguments : List Argument}
    {c next : Cursor} :
    readArguments [] [] letters c = .ok (arguments, next) ↔ ∃ row : Items,
      letters = row.marks.map Mark.codePoint ∧ c.Passes row.payload next ∧
        arguments = row.arguments := by
  constructor
  · intro h
    obtain ⟨marks, data, rfl, passes, closes⟩ := closes_of_readArguments h
    cases closes with | last _ row => ?_
    exact ⟨row, rfl, passes, rfl⟩
  · rintro ⟨row, rfl, passes, rfl⟩
    have whole : readArguments [] [] (row.marks.map Mark.codePoint ++ []) c =
        readArguments [] (row.arguments.reverse ++ []) [] next := readArguments_row row [] passes
    simpa [readArguments] using whole

end Osc.Wire
