import Mathlib.Tactic
import Osc.Wire.Field

/-!
Numbers as bytes and back. A fixed count of bytes and the numbers below the matching
power of 256 are the same thing, big end first; signed numbers go through the word that
stands for them. Padding adds at most three bytes, as many as the next multiple of four
asks for.
-/

namespace Osc.Wire

theorem bigEndian_length (count n : Nat) : (bigEndian count n).length = count := by
  induction count generalizing n with
  | zero => rfl
  | succ count ih => simp [bigEndian, ih]

theorem ofBigEndian_concat (data : Bytes) (b : UInt8) :
    ofBigEndian (data ++ [b]) = ofBigEndian data * 256 + b.toNat := by
  simp [ofBigEndian]

theorem ofBigEndian_bigEndian {count n : Nat} (h : n < 256 ^ count) :
    ofBigEndian (bigEndian count n) = n := by
  induction count generalizing n with
  | zero =>
    have : n = 0 := by simpa using h
    rw [this]
    rfl
  | succ count ih =>
    have small : n / 256 < 256 ^ count := by
      rw [pow_succ] at h
      exact Nat.div_lt_of_lt_mul (by rwa [Nat.mul_comm])
    rw [bigEndian, ofBigEndian_concat, ih small, UInt8.toNat_ofNat']
    omega

/-- Bytes are read to a number that spells them again. -/
theorem bigEndian_ofBigEndian (data : Bytes) :
    bigEndian data.length (ofBigEndian data) = data ∧ ofBigEndian data < 256 ^ data.length := by
  induction data using List.reverseRecOn with
  | nil => exact ⟨rfl, by decide⟩
  | append_singleton data b ih =>
    have byte := b.toNat_lt
    have whole : (ofBigEndian data * 256 + b.toNat) / 256 = ofBigEndian data := by omega
    have last : UInt8.ofNat (ofBigEndian data * 256 + b.toNat) = b := by
      apply UInt8.toNat_inj.mp
      rw [UInt8.toNat_ofNat']
      omega
    rw [ofBigEndian_concat, List.length_append, List.length_singleton, bigEndian, whole, last,
      ih.1, pow_succ]
    exact ⟨rfl, by omega⟩

/-- Bytes of a fixed count are the spelling of one word. -/
theorem exists_word (bits : Nat) {count : Nat} {data : Bytes} (size : data.length = count)
    (wide : 2 ^ bits = 256 ^ count) :
    ∃ w : BitVec bits, data = bigEndian count w.toNat ∧ ofBigEndian data = w.toNat := by
  obtain ⟨spelled, bound⟩ := bigEndian_ofBigEndian data
  rw [size] at spelled bound
  refine ⟨⟨ofBigEndian data, by omega⟩, ?_, rfl⟩
  exact spelled.symm

theorem ofBigEndian_word {bits count : Nat} (w : BitVec bits) (wide : 2 ^ bits = 256 ^ count) :
    ofBigEndian (bigEndian count w.toNat) = w.toNat :=
  ofBigEndian_bigEndian (by rw [← wide]; exact w.isLt)

theorem bigEndian_inj {bits count : Nat} {v w : BitVec bits} (wide : 2 ^ bits = 256 ^ count)
    (h : bigEndian count v.toNat = bigEndian count w.toNat) : v = w := by
  apply BitVec.eq_of_toNat_eq
  rw [← ofBigEndian_word v wide, h, ofBigEndian_word w wide]

theorem ofSignedWord_toNat {bits : Nat} (w : BitVec (bits + 1)) :
    ofSignedWord (bits + 1) w.toNat = w.toInt := by
  have half : 2 ^ (bits + 1) = 2 * 2 ^ bits := by rw [pow_succ, Nat.mul_comm]
  rw [ofSignedWord, BitVec.toInt_eq_toNat_cond, Nat.add_sub_cancel]
  by_cases small : w.toNat < 2 ^ bits
  · rw [if_pos small, if_pos (by omega)]
  · rw [if_neg small, if_neg (by omega)]
    push_cast
    rfl

theorem signedWord_toInt {bits : Nat} (w : BitVec bits) : signedWord bits w.toInt = w.toNat := by
  have := w.isLt
  rw [signedWord, BitVec.toInt_eq_toNat_bmod]
  have cast : ((2 : Int) ^ bits) = ((2 ^ bits : Nat) : Int) := by push_cast; rfl
  rw [cast, Int.bmod_emod, ← Int.natCast_mod, Int.toNat_natCast, Nat.mod_eq_of_lt this]

theorem int32_toInt (w : BitVec 32) : int32 w.toInt = bigEndian 4 w.toNat := by
  rw [int32, signedWord_toInt]

theorem int64_toInt (w : BitVec 64) : int64 w.toInt = bigEndian 8 w.toNat := by
  rw [int64, signedWord_toInt]

theorem int32_of_lt {n : Nat} (h : n < 2 ^ 31) : int32 n = bigEndian 4 n := by
  rw [int32, signedWord]
  congr 1
  omega

/-- A size that fits a signed word is read back as it was. -/
theorem ofInt32_int32 {n : Nat} (h : n < 2 ^ 31) : ofInt32 (int32 n) = n := by
  rw [int32_of_lt h, ofInt32, ofBigEndian_bigEndian (by omega), ofSignedWord, if_pos h]

/-- Four bytes that are read to a number that is not negative are its size word. -/
theorem eq_int32_of_ofInt32 {data : Bytes} {n : Int} (size : data.length = 4)
    (h : ofInt32 data = n) (positive : 0 ≤ n) :
    n.toNat < 2 ^ 31 ∧ data = int32 n.toNat := by
  obtain ⟨w, rfl, number⟩ := exists_word 32 size rfl
  rw [ofInt32, number, ofSignedWord_toNat] at h
  have small : n.toNat < 2 ^ 31 := by
    have := BitVec.toInt_lt (x := w)
    omega
  refine ⟨small, ?_⟩
  rw [Int.toNat_of_nonneg positive, ← h, int32_toInt]

theorem padded_eq (n : Nat) : padded n = n + (4 - n % 4) % 4 := by
  unfold padded
  omega

end Osc.Wire
