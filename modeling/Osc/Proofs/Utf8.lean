import Mathlib.Tactic
import Osc.Text.Utf8

/-!
Reading UTF-8 inverts writing it. A text without surrogates has one form, and reading
accepts the forms of such texts and nothing else, so overlong forms, forms of surrogates,
numbers beyond the last code point and forms that are cut short are all refused.
-/

namespace Osc.Utf8

/-- The bytes of a text, one character after the other. -/
def form (t : Text) : Bytes := t.flatMap encodePoint

theorem form_cons (c : CodePoint) (t : Text) : form (c :: t) = encodePoint c ++ form t :=
  List.flatMap_cons

theorem hasSurrogate_cons {c : CodePoint} {t : Text} :
    Text.hasSurrogate (c :: t) = false ↔ c.isSurrogate = false ∧ t.hasSurrogate = false := by
  simp [Text.hasSurrogate]

private theorem encodeFrom_eq_ok {position : Nat} {t : Text} {data : Bytes} :
    encodeFrom position t = .ok data ↔ t.hasSurrogate = false ∧ data = form t := by
  induction t generalizing position data with
  | nil =>
    simp only [encodeFrom, Except.ok.injEq]
    exact ⟨fun h => ⟨rfl, h.symm⟩, fun h => h.2.symm⟩
  | cons c t ih =>
    rw [hasSurrogate_cons, encodeFrom, form_cons]
    by_cases surrogate : c.isSurrogate = true
    · simp [surrogate]
    · cases found : encodeFrom (position + 1) t with
      | error run =>
        have refused : ¬ Text.hasSurrogate t = false := by
          intro scalar
          rw [ih.mpr ⟨scalar, rfl⟩] at found
          cases found
        simp [surrogate, refused, bind, Except.bind]
      | ok more =>
        obtain ⟨scalar, rfl⟩ := ih.mp found
        simp only [surrogate, scalar, bind, Except.bind, pure, Except.pure, Except.ok.injEq,
          Bool.false_eq_true, if_false, true_and]
        exact eq_comm

/-- Writing fails on surrogates only. -/
theorem encode_eq_ok {t : Text} {data : Bytes} :
    encode t = .ok data ↔ t.hasSurrogate = false ∧ data = form t :=
  encodeFrom_eq_ok

theorem Lead.ofByte?_toNat (b : UInt8) :
    Lead.ofByte? b =
      if b.toNat < 0x80 then some .one
      else if b.toNat < 0xC2 then none
      else if b.toNat < 0xE0 then some .two
      else if b.toNat = 0xE0 then some (.three 0xA0 0xBF)
      else if b.toNat = 0xED then some (.three 0x80 0x9F)
      else if b.toNat < 0xF0 then some (.three 0x80 0xBF)
      else if b.toNat = 0xF0 then some (.four 0x90 0xBF)
      else if b.toNat < 0xF4 then some (.four 0x80 0xBF)
      else if b.toNat = 0xF4 then some (.four 0x80 0x8F)
      else none := by
  simp only [Lead.ofByte?, UInt8.lt_iff_toNat_lt, ← UInt8.toNat_inj]
  rfl

theorem within_iff {low high b : UInt8} :
    within low high b = true ↔ low.toNat ≤ b.toNat ∧ b.toNat ≤ high.toNat := by
  simp [within, UInt8.le_iff_toNat_le]

theorem isContinuation_iff {b : UInt8} :
    isContinuation b = true ↔ 0x80 ≤ b.toNat ∧ b.toNat ≤ 0xBF := by
  rw [isContinuation, within_iff]
  rfl

theorem isSurrogate_eq_false {c : CodePoint} :
    c.isSurrogate = false ↔ c.val < 0xD800 ∨ 0xDFFF < c.val := by
  simp only [CodePoint.isSurrogate, Bool.and_eq_false_iff, decide_eq_false_iff_not]
  omega

theorem toNat_ofNat {n : Nat} (h : n < 256) : (UInt8.ofNat n).toNat = n :=
  UInt8.toNat_ofNat_of_lt' h

section

variable {position : Nat} {b c d e low high : UInt8} {rest : Bytes}

private theorem decodeFrom_one (lead : Lead.ofByte? b = some .one) :
    decodeFrom position (b :: rest) = followed b.toNat (decodeFrom (position + 1) rest) := by
  rw [decodeFrom.eq_def]
  simp only [lead]

private theorem decodeFrom_two (lead : Lead.ofByte? b = some .two) (hc : isContinuation c = true) :
    decodeFrom position (b :: c :: rest) =
      followed (b.toNat % 0x20 * 0x40 + payload c) (decodeFrom (position + 2) rest) := by
  rw [decodeFrom.eq_def]
  simp only [lead, hc, if_true]

private theorem decodeFrom_three (lead : Lead.ofByte? b = some (.three low high))
    (hc : within low high c = true) (hd : isContinuation d = true) :
    decodeFrom position (b :: c :: d :: rest) =
      followed (b.toNat % 0x10 * 0x1000 + payload c * 0x40 + payload d)
        (decodeFrom (position + 3) rest) := by
  rw [decodeFrom.eq_def]
  simp only [lead, hc, hd, if_true]

private theorem decodeFrom_four (lead : Lead.ofByte? b = some (.four low high))
    (hc : within low high c = true) (hd : isContinuation d = true)
    (he : isContinuation e = true) :
    decodeFrom position (b :: c :: d :: e :: rest) =
      followed (b.toNat % 0x08 * 0x40000 + payload c * 0x1000 + payload d * 0x40 + payload e)
        (decodeFrom (position + 4) rest) := by
  rw [decodeFrom.eq_def]
  simp only [lead, hc, hd, he, if_true]

end

theorem continuation_of_lt {n : Nat} (h : n < 0x40) :
    isContinuation (UInt8.ofNat (0x80 + n)) = true ∧ payload (UInt8.ofNat (0x80 + n)) = n := by
  rw [isContinuation_iff, payload, toNat_ofNat (by omega)]
  omega

/-- The lead byte of a character of three bytes, and the range it leaves for the second:
it shuts out the characters that two bytes hold and the surrogates. -/
theorem lead_three {n : Nat} (low : 0x800 ≤ n) (high : n < 0x10000)
    (scalar : n < 0xD800 ∨ 0xDFFF < n) :
    ∃ a z, Lead.ofByte? (UInt8.ofNat (0xE0 + n / 0x1000)) = some (.three a z) ∧
      within a z (UInt8.ofNat (0x80 + n / 0x40 % 0x40)) = true := by
  simp only [Lead.ofByte?_toNat, within_iff, toNat_ofNat (show 0xE0 + n / 0x1000 < 256 by omega),
    toNat_ofNat (show 0x80 + n / 0x40 % 0x40 < 256 by omega)]
  rw [if_neg (by omega), if_neg (by omega), if_neg (by omega)]
  split
  · exact ⟨0xA0, 0xBF, rfl, by simp; omega⟩
  split
  · exact ⟨0x80, 0x9F, rfl, by simp; omega⟩
  · rw [if_pos (by omega)]
    exact ⟨0x80, 0xBF, rfl, by simp; omega⟩

/-- The same for four bytes; it shuts out what lies beyond the last code point. -/
theorem lead_four {n : Nat} (low : 0x10000 ≤ n) (high : n < 0x110000) :
    ∃ a z, Lead.ofByte? (UInt8.ofNat (0xF0 + n / 0x40000)) = some (.four a z) ∧
      within a z (UInt8.ofNat (0x80 + n / 0x1000 % 0x40)) = true := by
  simp only [Lead.ofByte?_toNat, within_iff, toNat_ofNat (show 0xF0 + n / 0x40000 < 256 by omega),
    toNat_ofNat (show 0x80 + n / 0x1000 % 0x40 < 256 by omega)]
  rw [if_neg (by omega), if_neg (by omega), if_neg (by omega), if_neg (by omega),
    if_neg (by omega), if_neg (by omega)]
  split
  · exact ⟨0x90, 0xBF, rfl, by simp; omega⟩
  split
  · exact ⟨0x80, 0xBF, rfl, by simp; omega⟩
  · rw [if_pos (by omega)]
    exact ⟨0x80, 0x8F, rfl, by simp; omega⟩

/-- Reading takes the form of one character off the front. -/
theorem decodeFrom_encodePoint {c : CodePoint} (scalar : c.isSurrogate = false)
    (position : Nat) (rest : Bytes) :
    decodeFrom position (encodePoint c ++ rest) =
      followed c.val (decodeFrom (position + (encodePoint c).length) rest) := by
  have bound := c.isLt
  rw [isSurrogate_eq_false] at scalar
  have last := continuation_of_lt (Nat.mod_lt c.val (show 0x40 > 0 by decide))
  have middle := continuation_of_lt (Nat.mod_lt (c.val / 0x40) (show 0x40 > 0 by decide))
  have early := continuation_of_lt (Nat.mod_lt (c.val / 0x1000) (show 0x40 > 0 by decide))
  unfold encodePoint
  split
  · next small =>
    have lead : Lead.ofByte? (UInt8.ofNat c.val) = some .one := by
      rw [Lead.ofByte?_toNat, toNat_ofNat (by omega), if_pos small]
    exact (decodeFrom_one lead).trans (by rw [toNat_ofNat (by omega)]; rfl)
  split
  · next small =>
    have lead : Lead.ofByte? (UInt8.ofNat (0xC0 + c.val / 0x40)) = some .two := by
      rw [Lead.ofByte?_toNat, toNat_ofNat (by omega), if_neg (by omega), if_neg (by omega),
        if_pos (by omega)]
    refine (decodeFrom_two lead last.1).trans ?_
    rw [toNat_ofNat (by omega), last.2]
    congr 1
    omega
  split
  · obtain ⟨a, z, lead, second⟩ := lead_three (by omega) (by omega) scalar
    refine (decodeFrom_three lead second last.1).trans ?_
    rw [toNat_ofNat (by omega), middle.2, last.2]
    congr 1
    omega
  · obtain ⟨a, z, lead, second⟩ := lead_four (show 0x10000 ≤ c.val by omega) bound
    refine (decodeFrom_four lead second middle.1 last.1).trans ?_
    rw [toNat_ofNat (by omega), early.2, middle.2, last.2]
    congr 1
    omega

private theorem decodeFrom_form (position : Nat) {t : Text} (scalar : t.hasSurrogate = false) :
    decodeFrom position (form t) = .ok t := by
  induction t generalizing position with
  | nil => rfl
  | cons c t ih =>
    obtain ⟨first, others⟩ := hasSurrogate_cons.mp scalar
    rw [form_cons, decodeFrom_encodePoint first, ih _ others]
    simp [followed, Except.map, CodePoint.ofNat]

theorem ofNat_eq {n : Nat} {b : UInt8} (h : n = b.toNat) : UInt8.ofNat n = b := by
  rw [h, UInt8.ofNat_toNat]

theorem ofNat_val {n : Nat} (h : n < 0x110000) : (CodePoint.ofNat n).val = n :=
  Nat.mod_eq_of_lt h

/-- What a lead byte says about itself and about the range of the second byte. -/
theorem Lead.range {b : UInt8} {lead : Lead} (h : Lead.ofByte? b = some lead) :
    match lead with
    | .one => b.toNat < 0x80
    | .two => 0xC2 ≤ b.toNat ∧ b.toNat < 0xE0
    | .three low high => 0xE0 ≤ b.toNat ∧ b.toNat < 0xF0 ∧
        0x80 ≤ low.toNat ∧ (b.toNat = 0xE0 → 0xA0 ≤ low.toNat) ∧
        high.toNat ≤ 0xBF ∧ (b.toNat = 0xED → high.toNat ≤ 0x9F)
    | .four low high => 0xF0 ≤ b.toNat ∧ b.toNat ≤ 0xF4 ∧
        0x80 ≤ low.toNat ∧ (b.toNat = 0xF0 → 0x90 ≤ low.toNat) ∧
        high.toNat ≤ 0xBF ∧ (b.toNat = 0xF4 → high.toNat ≤ 0x8F) := by
  rw [Lead.ofByte?_toNat] at h
  split_ifs at h <;> cases h <;> simp <;> omega

section

variable {b c d e low high : UInt8}

private theorem encodePoint_one (lead : Lead.ofByte? b = some .one) :
    (CodePoint.ofNat b.toNat).isSurrogate = false ∧
      encodePoint (CodePoint.ofNat b.toNat) = [b] := by
  have small : b.toNat < 0x80 := Lead.range lead
  rw [isSurrogate_eq_false, encodePoint, ofNat_val (by omega), if_pos small, UInt8.ofNat_toNat]
  exact ⟨by omega, rfl⟩

private theorem encodePoint_two (lead : Lead.ofByte? b = some .two) (hc : isContinuation c = true) :
    (CodePoint.ofNat (b.toNat % 0x20 * 0x40 + payload c)).isSurrogate = false ∧
      encodePoint (CodePoint.ofNat (b.toNat % 0x20 * 0x40 + payload c)) = [b, c] := by
  have range : 0xC2 ≤ b.toNat ∧ b.toNat < 0xE0 := Lead.range lead
  rw [isContinuation_iff] at hc
  rw [isSurrogate_eq_false, encodePoint, payload, ofNat_val (by omega), if_neg (by omega),
    if_pos (by omega), ofNat_eq (b := b) (by omega), ofNat_eq (b := c) (by omega)]
  exact ⟨by omega, rfl⟩

private theorem encodePoint_three (lead : Lead.ofByte? b = some (.three low high))
    (hc : within low high c = true) (hd : isContinuation d = true) :
    (CodePoint.ofNat (b.toNat % 0x10 * 0x1000 + payload c * 0x40 + payload d)).isSurrogate = false ∧
      encodePoint (CodePoint.ofNat (b.toNat % 0x10 * 0x1000 + payload c * 0x40 + payload d)) =
        [b, c, d] := by
  have range := Lead.range lead
  rw [within_iff] at hc
  rw [isContinuation_iff] at hd
  rw [isSurrogate_eq_false, encodePoint, payload, payload, ofNat_val (by omega),
    if_neg (by omega), if_neg (by omega), if_pos (by omega), ofNat_eq (b := b) (by omega),
    ofNat_eq (b := c) (by omega), ofNat_eq (b := d) (by omega)]
  exact ⟨by omega, rfl⟩

private theorem encodePoint_four {n : Nat} (lead : Lead.ofByte? b = some (.four low high))
    (hc : within low high c = true) (hd : isContinuation d = true) (he : isContinuation e = true)
    (hn : n = b.toNat % 0x08 * 0x40000 + payload c * 0x1000 + payload d * 0x40 + payload e) :
    (CodePoint.ofNat n).isSurrogate = false ∧ encodePoint (CodePoint.ofNat n) = [b, c, d, e] := by
  have range := Lead.range lead
  rw [within_iff] at hc
  rw [isContinuation_iff] at hd he
  rw [payload, payload, payload] at hn
  rw [isSurrogate_eq_false, encodePoint, ofNat_val (by omega), if_neg (by omega),
    if_neg (by omega), if_neg (by omega), ofNat_eq (b := b) (by omega),
    ofNat_eq (b := c) (by omega), ofNat_eq (b := d) (by omega), ofNat_eq (b := e) (by omega)]
  exact ⟨by omega, rfl⟩

end

theorem followed_eq_ok {n : Nat} {rest : Except Malformed Text} {t : Text} :
    followed n rest = .ok t ↔ ∃ more, rest = .ok more ∧ t = CodePoint.ofNat n :: more := by
  cases rest with
  | error cause => simp [followed, Except.map]
  | ok more => simp [followed, Except.map, eq_comm]

/-- A character that was read stands in front of the form of the others. -/
theorem form_of_first {c : CodePoint} {data : Bytes} {more : Text}
    (first : c.isSurrogate = false ∧ encodePoint c = data)
    (others : Text.hasSurrogate more = false) :
    Text.hasSurrogate (c :: more) = false ∧ data ++ form more = form (c :: more) := by
  rw [form_cons, first.2]
  exact ⟨hasSurrogate_cons.mpr ⟨first.1, others⟩, rfl⟩

private theorem form_of_decodeFrom {position : Nat} {data : Bytes} {t : Text}
    (h : decodeFrom position data = .ok t) : t.hasSurrogate = false ∧ data = form t := by
  induction position, data using decodeFrom.induct generalizing t with
  | case1 position =>
    cases h
    exact ⟨rfl, rfl⟩
  | case3 position b rest lead ih =>
    rw [decodeFrom_one lead] at h
    obtain ⟨more, others, rfl⟩ := followed_eq_ok.mp h
    obtain ⟨scalar, rfl⟩ := ih others
    exact form_of_first (encodePoint_one lead) scalar
  | case5 position b lead c rest hc ih =>
    rw [decodeFrom_two lead hc] at h
    obtain ⟨more, others, rfl⟩ := followed_eq_ok.mp h
    obtain ⟨scalar, rfl⟩ := ih others
    exact form_of_first (encodePoint_two lead hc) scalar
  | case9 position b low high lead c hc d rest hd ih =>
    rw [decodeFrom_three lead hc hd] at h
    obtain ⟨more, others, rfl⟩ := followed_eq_ok.mp h
    obtain ⟨scalar, rfl⟩ := ih others
    exact form_of_first (encodePoint_three lead hc hd) scalar
  | case15 position b low high lead c hc d hd e rest he ih =>
    rw [decodeFrom_four lead hc hd he] at h
    obtain ⟨more, others, rfl⟩ := followed_eq_ok.mp h
    obtain ⟨scalar, rfl⟩ := ih others
    exact form_of_first (encodePoint_four lead hc hd he rfl) scalar
  -- In all other cases some byte is out of place, and nothing was read.
  | _ =>
    rw [decodeFrom.eq_def] at h
    simp_all

private theorem zero_mem_encodePoint {c : CodePoint} : 0 ∈ encodePoint c ↔ c = 0 := by
  have bound := c.isLt
  have zero {n : Nat} (h : n < 256) : 0 = UInt8.ofNat n ↔ n = 0 := by
    rw [← UInt8.toNat_inj, toNat_ofNat h, UInt8.toNat_zero]
    exact eq_comm
  rw [← Fin.val_inj, Fin.val_zero]
  unfold encodePoint
  split
  · rw [List.mem_singleton, zero (by omega)]
  split
  · simp only [List.mem_cons, List.not_mem_nil, or_false]
    rw [zero (by omega), zero (by omega)]
    omega
  split
  · simp only [List.mem_cons, List.not_mem_nil, or_false]
    rw [zero (by omega), zero (by omega), zero (by omega)]
    omega
  · simp only [List.mem_cons, List.not_mem_nil, or_false]
    rw [zero (by omega), zero (by omega), zero (by omega), zero (by omega)]
    omega

/-- The zero byte is the form of the zero character and part of no other form. -/
theorem zero_mem_form {t : Text} : 0 ∈ form t ↔ 0 ∈ t := by
  simp [form, List.mem_flatMap, zero_mem_encodePoint]

/-- A form that starts with an ASCII byte starts with that character. -/
theorem val_of_head_encodePoint {c : CodePoint} {b : UInt8} {rest : Bytes} (ascii : b.toNat < 0x80)
    (h : (encodePoint c ++ rest).head? = some b) : c.val = b.toNat := by
  have bound := c.isLt
  have first {n : Nat} {more : Bytes} (small : n < 256)
      (h : (UInt8.ofNat n :: more ++ rest).head? = some b) : n = b.toNat := by
    cases Option.some.inj h
    rw [toNat_ofNat small]
  unfold encodePoint at h
  split at h
  · exact first (by omega) h
  -- The lead bytes of longer characters are not ASCII.
  split at h
  · have := first (by omega) h
    omega
  split at h
  · have := first (by omega) h
    omega
  · have := first (by omega) h
    omega

/-- Reading accepts exactly the forms of texts without surrogates. -/
theorem decode_eq_ok {data : Bytes} {t : Text} :
    decode data = .ok t ↔ t.hasSurrogate = false ∧ data = form t := by
  constructor
  · exact form_of_decodeFrom
  · rintro ⟨scalar, rfl⟩
    exact decodeFrom_form 0 scalar

theorem form_inj {s t : Text} (hs : s.hasSurrogate = false) (ht : t.hasSurrogate = false)
    (h : form s = form t) : s = t := by
  have read : decode (form t) = .ok s := decode_eq_ok.mpr ⟨hs, h.symm⟩
  rw [decode_eq_ok.mpr ⟨ht, rfl⟩] at read
  exact (Except.ok.inj read).symm

end Osc.Utf8
