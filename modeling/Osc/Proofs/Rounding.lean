import Osc.Proofs.Precision

/-!
Where rounding leaves a format. A value is rounded to a number of the format as long as it
lies less than half a step beyond the greatest one; halfway the even neighbour is the power
of two above, which is too large. So narrowing fails on finite numbers only, and on those
from one value on.
-/

namespace Osc.Floating

/-- Rounding cuts or goes up by one. -/
theorem roundShift_bounds (n shift : Nat) :
    n / 2 ^ shift ≤ roundShift n shift ∧ roundShift n shift ≤ n / 2 ^ shift + 1 := by
  simp only [roundShift]
  split <;> omega

/-- Below an even quotient rounding stays up to half a step, since the quotient before is odd. -/
theorem roundShift_lt_iff {n half shift : Nat} (small : n < 2 * half * 2 ^ (shift + 1)) :
    roundShift n (shift + 1) < 2 * half ↔ n < (4 * half - 1) * 2 ^ shift := by
  have positive : 0 < 2 ^ shift := Nat.two_pow_pos shift
  have double : 2 ^ (shift + 1) = 2 * 2 ^ shift := pow_succ' 2 shift
  generalize 2 ^ shift = step at *
  have parts := Nat.div_add_mod n (2 * step)
  have rest : n % (2 * step) < 2 * step := Nat.mod_lt _ (by omega)
  have below : n / (2 * step) < 2 * half := Nat.div_lt_of_lt_mul (by rw [← double]; linarith)
  simp only [roundShift, double]
  generalize n / (2 * step) = quotient at *
  generalize n % (2 * step) = remainder at *
  obtain ⟨gap, rfl⟩ : ∃ gap, half = gap + 1 := ⟨half - 1, by omega⟩
  have bound : (4 * (gap + 1) - 1) * step = 4 * gap * step + 3 * step := by
    rw [show 4 * (gap + 1) - 1 = 4 * gap + 3 by omega, Nat.add_mul]
  by_cases last : quotient = 2 * gap + 1
  · have odd : quotient % 2 = 1 := by omega
    have start : 2 * step * quotient = 4 * gap * step + 2 * step := by
      rw [last]
      ring
    have down : (2 * remainder < 2 * step ||
        (2 * remainder == 2 * step && quotient % 2 == 0)) = true ↔ remainder < step := by
      simp [odd]
    split
    · next cut =>
      have := down.mp cut
      omega
    · next up =>
      have := mt down.mpr up
      omega
  · have before : 2 * step * quotient ≤ 2 * step * (2 * gap) :=
      Nat.mul_le_mul_left _ (by omega)
    have start : 2 * step * (2 * gap) = 4 * gap * step := by ring
    have inside : n < 4 * gap * step + 3 * step := by omega
    rw [bound]
    refine ⟨fun _ => inside, fun _ => ?_⟩
    split <;> omega

namespace Format

/-- The values that are rounded to ordinals below that of a power of two: those less than
half a step beyond the greatest of them. -/
theorem nearest_lt_iff {f : Format} (positive : 0 < f.precision) (exponent units : Nat) :
    f.nearest units < (exponent + 3) * 2 ^ (f.precision - 1) ↔
      units < (2 ^ (f.precision + 1) - 1) * 2 ^ (f.step + exponent) := by
  obtain ⟨precision, known⟩ := Nat.exists_eq_succ_of_ne_zero positive.ne'
  have wide : 2 ^ (f.precision + 1) = 4 * 2 ^ precision := by rw [known, pow_succ, pow_succ]; ring
  have halves : 2 ^ (f.precision - 1) = 2 ^ precision := by rw [known, Nat.succ_sub_one]
  have scale : 0 < 2 ^ (f.step + exponent) := Nat.two_pow_pos _
  have steps : 0 < 2 ^ precision := Nat.two_pow_pos _
  rw [wide, halves]
  have cut : (4 * 2 ^ precision - 1) * 2 ^ (f.step + exponent) =
      4 * 2 ^ precision * 2 ^ (f.step + exponent) - 2 ^ (f.step + exponent) := by
    rw [Nat.sub_mul, one_mul]
  have upper : units < 2 ^ (units.log2 + 1) := Nat.lt_log2_self
  simp only [nearest, halves]
  generalize hshift : max f.step (units.log2 + 1 - f.precision) = shift
  have quotient : units / 2 ^ shift < 2 * 2 ^ precision := by
    rw [← halves]
    exact div_two_pow_lt positive (by omega)
  have rounded := roundShift_bounds units shift
  rcases lt_trichotomy units.log2 (f.precision + f.step + exponent) with small | same | large
  · -- A power of two at least is missing.
    have few : shift - f.step ≤ exponent := by omega
    have ordinal := Nat.mul_le_mul_right (2 ^ precision) few
    have value : units < 2 * 2 ^ precision * 2 ^ (f.step + exponent) := by
      rw [← pow_succ', ← pow_add]
      exact upper.trans_le (Nat.pow_le_pow_right (by decide) (by omega))
    have room : 2 * 2 ^ precision * 2 ^ (f.step + exponent) + 2 ^ (f.step + exponent) ≤
        4 * 2 ^ precision * 2 ^ (f.step + exponent) := by nlinarith
    refine ⟨fun _ => by omega, fun _ => ?_⟩
    have total : (exponent + 3) * 2 ^ precision = exponent * 2 ^ precision + 3 * 2 ^ precision :=
      Nat.add_mul ..
    omega
  · -- The last exponent of the format.
    have last : shift = f.step + exponent + 1 := by omega
    subst last
    have value : units < 2 * 2 ^ precision * 2 ^ (f.step + exponent + 1) := by
      rw [← pow_succ', ← pow_add]
      exact upper.trans_le (Nat.pow_le_pow_right (by decide) (by omega))
    rw [← roundShift_lt_iff value]
    have count : f.step + exponent + 1 - f.step = exponent + 1 := by omega
    have total : (exponent + 3) * 2 ^ precision =
        (exponent + 1) * 2 ^ precision + 2 * 2 ^ precision := by ring
    rw [count, total, Nat.add_lt_add_iff_left]
  · -- Beyond it even what is cut is too large.
    have nonzero : units ≠ 0 := by
      rintro rfl
      simp at large
    have many : exponent + 2 ≤ shift - f.step := by omega
    have ordinal := Nat.mul_le_mul_right (2 ^ precision) many
    have lower : 2 ^ units.log2 ≤ units := Nat.log2_self_le nonzero
    have start : 2 ^ precision ≤ units / 2 ^ shift := by
      rw [← halves]
      exact le_div_two_pow nonzero (by omega)
    have value : 4 * 2 ^ precision * 2 ^ (f.step + exponent) ≤ units := by
      have least : precision + 2 + (f.step + exponent) ≤ units.log2 := by omega
      refine le_trans (le_of_eq ?_) ((Nat.pow_le_pow_right (by decide) least).trans lower)
      ring
    have total : (exponent + 3) * 2 ^ precision = (exponent + 2) * 2 ^ precision + 2 ^ precision :=
      by ring
    refine ⟨fun _ => by omega, fun _ => by omega⟩

end Format

namespace Binary

/-- A finite number that is too large for four bytes: it lies half a step or more beyond the
greatest number that four bytes hold. -/
def Overflows (x : Binary64) : Prop :=
  x.isFinite = true ∧ (2 ^ 128 - 2 ^ 103) * 2 ^ unitsLog ≤ x.units.natAbs

instance (x : Binary64) : Decidable x.Overflows := inferInstanceAs (Decidable (_ ∧ _))

theorem natAbs_units {f : Format} (x : Binary f) : x.units.natAbs = f.units x.ordinal := by
  rw [units]
  split <;> simp

/-- Rounding to four bytes fails on what is too large for them. -/
theorem narrow?_eq_none_iff {x : Binary64} : x.narrow? = none ↔ x.Overflows := by
  have bound : (2 ^ 128 - 2 ^ 103) * 2 ^ unitsLog =
      (2 ^ (Format.single.precision + 1) - 1) * 2 ^ (Format.single.step + 252) := by
    have split : 2 ^ 128 - 2 ^ 103 = (2 ^ 25 - 1) * 2 ^ 103 := by decide
    have significant : Format.single.precision + 1 = 25 := rfl
    have scale : 103 + unitsLog = Format.single.step + 252 := rfl
    rw [split, mul_assoc, ← pow_add, significant, scale]
  have infinite : Format.single.infinity = (252 + 3) * 2 ^ (Format.single.precision - 1) := rfl
  have rounded := Format.nearest_lt_iff (f := Format.single) (by decide) 252
    (Format.double.units x.ordinal)
  rw [← infinite, ← bound] at rounded
  rw [Overflows, natAbs_units, narrow?]
  by_cases nan : x.isNaN = true
  · have beyond : Format.double.infinity < x.ordinal := of_decide_eq_true nan
    simp [nan, isFinite, beyond.le]
  · by_cases infinity : x.isInfinite = true
    · have same : x.ordinal = Format.double.infinity := by simpa [isInfinite] using infinity
      simp [nan, infinity, isFinite, same]
    · have finite : x.isFinite = true := by
        simp only [isNaN, isInfinite, decide_eq_true_eq, beq_iff_eq] at nan infinity
        simp only [isFinite, decide_eq_true_eq]
        omega
      simp only [nan, infinity, finite, true_and, Bool.false_eq_true, if_false]
      rw [← not_lt, ← rounded]
      split
      · next small => simp [small]
      · next large => simp [large]

end Binary

end Osc.Floating
