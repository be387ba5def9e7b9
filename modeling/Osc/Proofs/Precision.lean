import Mathlib.Tactic
import Osc.Floating.Binary

/-!
Numbers of four bytes inside those of eight. Rounding gives a number of a format back
from its exact value, and every number of four bytes has an exact value that eight bytes
hold, so widening and narrowing again changes nothing but the payload of what is not a
number, and that only once.
-/

namespace Osc.Floating

theorem roundShift_exact (m shift : Nat) : roundShift (m * 2 ^ shift) shift = m := by
  have positive : 0 < 2 ^ shift := Nat.two_pow_pos shift
  simp [roundShift, Nat.mul_div_cancel m positive, positive]

namespace Format

/-- The value with an ordinal that is split into its exponent and its fraction. -/
theorem units_split {f : Format} {exponent fraction : Nat}
    (small : fraction < 2 ^ (f.precision - 1)) :
    f.units (exponent * 2 ^ (f.precision - 1) + fraction) =
      if exponent = 0 then fraction * 2 ^ f.step
      else (2 ^ (f.precision - 1) + fraction) * 2 ^ (f.step + (exponent - 1)) := by
  have whole :
      (exponent * 2 ^ (f.precision - 1) + fraction) / 2 ^ (f.precision - 1) = exponent := by
    rw [Nat.mul_comm, Nat.mul_add_div (Nat.two_pow_pos _), Nat.div_eq_of_lt small, Nat.add_zero]
  have part : (exponent * 2 ^ (f.precision - 1) + fraction) % 2 ^ (f.precision - 1) = fraction := by
    rw [Nat.mul_comm, Nat.mul_add_mod, Nat.mod_eq_of_lt small]
  simp only [units, whole, part]

theorem two_pow_precision {f : Format} (positive : 0 < f.precision) :
    2 ^ f.precision = 2 * 2 ^ (f.precision - 1) := by
  rw [← pow_succ', Nat.sub_add_cancel positive]

/-- What is left of a value has at most as many bits as the format keeps, if enough are cut. -/
theorem div_two_pow_lt {f : Format} (positive : 0 < f.precision) {n shift : Nat}
    (enough : n.log2 < f.precision + shift) : n / 2 ^ shift < 2 * 2 ^ (f.precision - 1) := by
  have upper : n < 2 ^ (n.log2 + 1) := Nat.lt_log2_self
  apply Nat.div_lt_of_lt_mul
  rw [← two_pow_precision positive, mul_comm, ← pow_add]
  exact upper.trans_le (Nat.pow_le_pow_right (by decide) enough)

/-- And no fewer, if no more are cut. -/
theorem le_div_two_pow {f : Format} {n shift : Nat} (nonzero : n ≠ 0)
    (few : f.precision - 1 + shift ≤ n.log2) : 2 ^ (f.precision - 1) ≤ n / 2 ^ shift := by
  rw [Nat.le_div_iff_mul_le (Nat.two_pow_pos _), ← pow_add]
  exact (Nat.pow_le_pow_right (by decide) few).trans (Nat.log2_self_le nonzero)

/-- Rounding the exact value of a number gives its ordinal. -/
theorem nearest_units {f : Format} (positive : 0 < f.precision) (ordinal : Nat) :
    f.nearest (f.units ordinal) = ordinal := by
  obtain ⟨exponent, fraction, small, rfl⟩ : ∃ exponent fraction,
      fraction < 2 ^ (f.precision - 1) ∧ ordinal = exponent * 2 ^ (f.precision - 1) + fraction :=
    ⟨ordinal / 2 ^ (f.precision - 1), ordinal % 2 ^ (f.precision - 1),
      Nat.mod_lt _ (Nat.two_pow_pos _), (Nat.div_add_mod' ..).symm⟩
  rw [units_split small]
  split
  · next subnormal =>
    have shift : max f.step ((fraction * 2 ^ f.step).log2 + 1 - f.precision) = f.step := by
      by_cases zero : fraction = 0
      · simp [zero]
        omega
      · have bound : fraction * 2 ^ f.step < 2 ^ (f.precision - 1 + f.step) := by
          rw [pow_add]
          exact Nat.mul_lt_mul_of_pos_right small (Nat.two_pow_pos _)
        have := (Nat.log2_lt (by positivity)).mpr bound
        omega
    simp only [nearest, shift, roundShift_exact, subnormal, Nat.sub_self]
  · next normal =>
    have log : ((2 ^ (f.precision - 1) + fraction) * 2 ^ (f.step + (exponent - 1))).log2 =
        f.precision - 1 + (f.step + (exponent - 1)) := by
      rw [Nat.log2_eq_iff (by positivity), pow_succ, pow_add]
      have scale : 0 < 2 ^ (f.step + (exponent - 1)) := Nat.two_pow_pos _
      constructor <;> nlinarith
    have shift : max f.step (f.precision - 1 + (f.step + (exponent - 1)) + 1 - f.precision) =
        f.step + (exponent - 1) := by omega
    simp only [nearest, log, shift, roundShift_exact]
    have whole : exponent = exponent - 1 + 1 := by omega
    rw [Nat.add_sub_cancel_left, ← Nat.add_assoc, ← Nat.succ_mul, ← Nat.add_one, ← whole]

/-- A value that rounding does not cut has an ordinal of its own. -/
theorem units_nearest_of_shift {f : Format} (positive : 0 < f.precision) {m shift : Nat}
    (hshift : max f.step ((m * 2 ^ shift).log2 + 1 - f.precision) = shift) :
    f.units (f.nearest (m * 2 ^ shift)) = m * 2 ^ shift := by
  have least : f.step ≤ shift := by omega
  have scale : 0 < 2 ^ shift := Nat.two_pow_pos _
  have upper : m < 2 * 2 ^ (f.precision - 1) := by
    have bound : m * 2 ^ shift / 2 ^ shift < 2 * 2 ^ (f.precision - 1) :=
      div_two_pow_lt positive (by omega)
    rwa [Nat.mul_div_cancel m scale] at bound
  simp only [nearest, hshift, roundShift_exact]
  by_cases small : m < 2 ^ (f.precision - 1)
  · -- Below half of the significands only the least exponent is left.
    have subnormal : shift = f.step := by
      by_contra above
      have log : (m * 2 ^ shift).log2 = f.precision - 1 + shift := by omega
      by_cases zero : m = 0
      · simp [zero] at log
        omega
      · have bound := Nat.log2_self_le (n := m * 2 ^ shift) (by positivity)
        rw [log, pow_add] at bound
        exact absurd (le_of_mul_le_mul_right bound scale) (by omega)
    rw [units_split small, if_pos (by omega), subnormal]
  · obtain ⟨fraction, rfl⟩ : ∃ fraction, m = 2 ^ (f.precision - 1) + fraction :=
      ⟨m - 2 ^ (f.precision - 1), by omega⟩
    rw [← Nat.add_assoc, ← Nat.succ_mul, units_split (by omega), if_neg (by omega)]
    congr 2
    omega

/-- A value with no more significant bits than the format keeps needs no rounding. -/
theorem units_nearest {f : Format} (positive : 0 < f.precision) {significand scale : Nat}
    (few : significand < 2 ^ f.precision) (coarse : f.step ≤ scale) :
    f.units (f.nearest (significand * 2 ^ scale)) = significand * 2 ^ scale := by
  have shift : max f.step ((significand * 2 ^ scale).log2 + 1 - f.precision) ≤ scale := by
    by_cases zero : significand = 0
    · simp [zero]
      omega
    · have bound : significand * 2 ^ scale < 2 ^ (f.precision + scale) := by
        rw [pow_add]
        exact Nat.mul_lt_mul_of_pos_right few (Nat.two_pow_pos _)
      have := (Nat.log2_lt (by positivity)).mpr bound
      omega
  generalize hshift : max f.step ((significand * 2 ^ scale).log2 + 1 - f.precision) = least at shift
  have whole : significand * 2 ^ scale = significand * 2 ^ (scale - least) * 2 ^ least := by
    rw [Nat.mul_assoc, ← pow_add, Nat.sub_add_cancel shift]
  rw [whole] at hshift ⊢
  exact units_nearest_of_shift positive hshift

/-- The significand and the scale of a number, both bounded by the exponents in use. -/
theorem exists_significand {f : Format} (positive : 0 < f.precision) {ordinal : Nat}
    (exponents : Nat) (bound : ordinal < (exponents + 2) * 2 ^ (f.precision - 1)) :
    ∃ significand scale, f.units ordinal = significand * 2 ^ scale ∧
      significand < 2 ^ f.precision ∧ f.step ≤ scale ∧ scale ≤ f.step + exponents := by
  have double := two_pow_precision positive
  have part : ordinal % 2 ^ (f.precision - 1) < 2 ^ (f.precision - 1) :=
    Nat.mod_lt _ (Nat.two_pow_pos _)
  have whole : ordinal / 2 ^ (f.precision - 1) < exponents + 2 :=
    Nat.div_lt_of_lt_mul (by rwa [Nat.mul_comm] at bound)
  by_cases subnormal : ordinal / 2 ^ (f.precision - 1) = 0
  · refine ⟨ordinal % 2 ^ (f.precision - 1), f.step, ?_, by omega, le_refl _, by omega⟩
    simp only [units, subnormal, if_true]
  · refine ⟨2 ^ (f.precision - 1) + ordinal % 2 ^ (f.precision - 1),
      f.step + (ordinal / 2 ^ (f.precision - 1) - 1), ?_, by omega, by omega, by omega⟩
    simp only [units, subnormal, if_false]

/-- Ordinals from one exponent on have values from one power of two on. -/
theorem le_units {f : Format} {ordinal : Nat} (exponent : Nat)
    (bound : (exponent + 1) * 2 ^ (f.precision - 1) ≤ ordinal) :
    2 ^ (f.precision - 1 + (f.step + exponent)) ≤ f.units ordinal := by
  have whole : exponent + 1 ≤ ordinal / 2 ^ (f.precision - 1) :=
    (Nat.le_div_iff_mul_le (Nat.two_pow_pos _)).mpr bound
  have normal : ordinal / 2 ^ (f.precision - 1) ≠ 0 := by omega
  simp only [units, normal, if_false]
  rw [pow_add]
  exact Nat.mul_le_mul (Nat.le_add_right ..) (Nat.pow_le_pow_right (by decide) (by omega))

end Format

namespace Binary

theorem ofWord_word {f : Format} (x : Binary f) : ofWord f x.word = x := by
  have bound := x.ordinal_lt
  have positive : 0 < 2 ^ f.width := Nat.two_pow_pos _
  obtain ⟨negative, ordinal, _⟩ := x
  cases negative <;> simp_all [ofWord, word, Nat.div_eq_of_lt, Nat.mod_eq_of_lt]

theorem word_ofWord {f : Format} {n : Nat} (h : n < 2 ^ (f.width + 1)) : (ofWord f n).word = n := by
  have sign : n / 2 ^ f.width < 2 := Nat.div_lt_of_lt_mul (by rwa [← pow_succ])
  have split := Nat.div_add_mod n (2 ^ f.width)
  rcases Nat.le_one_iff_eq_zero_or_eq_one.mp (Nat.le_of_lt_succ sign) with zero | one
  · simp only [ofWord, word, zero]
    simpa [zero] using split
  · simp only [ofWord, word, one]
    simpa [one] using split

theorem word_lt {f : Format} (x : Binary f) : x.word < 2 ^ (f.width + 1) := by
  have bound := x.ordinal_lt
  rw [word, pow_succ]
  split <;> omega

/-- What a number becomes by being widened and narrowed: if it is not a number, the bit
that marks it as quiet is set. -/
def quiet (x : Binary32) : Binary32 :=
  if x.isNaN then {
    negative := x.negative
    ordinal := Format.single.infinity + (2 ^ 22 + x.ordinal % 2 ^ 22)
    ordinal_lt := by
      have h : x.ordinal % 2 ^ 22 < 2 ^ 22 := Nat.mod_lt _ (by decide)
      simp only [Format.single] at *
      omega }
  else x

theorem quiet_of_number {x : Binary32} (h : x.isNaN = false) : x.quiet = x := by
  rw [quiet, h]
  rfl

/-- The value of a finite number of four bytes is that of a finite number of eight. -/
theorem widened_exact {ordinal : Nat} (finite : ordinal < Format.single.infinity) :
    let wide := Format.double.nearest (Format.single.units ordinal)
    Format.double.units wide = Format.single.units ordinal ∧ wide < Format.double.infinity := by
  intro wide
  obtain ⟨significand, scale, value, few, coarse, fine⟩ :=
    Format.exists_significand (f := .single) (by decide) 253 finite
  have same : Format.double.units wide = Format.single.units ordinal := by
    simp only [wide, value]
    exact Format.units_nearest (by decide) (lt_trans few (by decide)) (Nat.zero_le _)
  refine ⟨same, ?_⟩
  by_contra large
  have least := Format.le_units (f := .double) 2046 (not_lt.mp large)
  have most : significand * 2 ^ scale < 2 ^ (Format.single.precision + scale) := by
    rw [pow_add]
    exact Nat.mul_lt_mul_of_pos_right few (Nat.two_pow_pos _)
  rw [same, value] at least
  have order := (Nat.pow_lt_pow_iff_right (by decide)).mp (lt_of_le_of_lt least most)
  simp only [Format.double, Format.single] at order fine
  omega

theorem widen_of_finite {x : Binary32} (finite : x.ordinal < Format.single.infinity) :
    x.widen.negative = x.negative ∧
      x.widen.ordinal = Format.double.nearest (Format.single.units x.ordinal) := by
  have number : x.isNaN = false := by simp [isNaN]; omega
  have bounded : x.isInfinite = false := by simp [isInfinite]; omega
  have natAbs : x.units.natAbs = Format.single.units x.ordinal := by
    rw [units]
    split <;> simp
  have wide := (widened_exact finite).2
  simp only [widen, number, bounded, ofUnits, natAbs, Bool.false_eq_true, if_false, true_and]
  exact Nat.min_eq_left (le_of_lt wide)

theorem eq_of_parts {f : Format} {x y : Binary f} (sign : x.negative = y.negative)
    (ordinal : x.ordinal = y.ordinal) : x = y := by
  cases x
  cases y
  cases sign
  cases ordinal
  rfl

theorem quiet_of_nan {x : Binary32} (h : x.isNaN = true) :
    x.quiet.negative = x.negative ∧
      x.quiet.ordinal = Format.single.infinity + (2 ^ 22 + x.ordinal % 2 ^ 22) := by
  simp only [quiet, h, if_true, and_self]

theorem widen_of_nan {x : Binary32} (h : x.isNaN = true) :
    x.widen.negative = x.negative ∧
      x.widen.ordinal = Format.double.infinity + (2 ^ 51 + x.ordinal % 2 ^ 22 * 2 ^ 29) := by
  simp only [widen, h, if_true, and_self]

theorem isNaN_of_widen {x : Binary32} (h : x.widen.isNaN = false) : x.isNaN = false := by
  rw [Bool.eq_false_iff]
  intro nan
  obtain ⟨-, ordinal⟩ := widen_of_nan nan
  simp only [isNaN, ordinal, decide_eq_false_iff_not] at h
  omega

theorem narrow_of_nan {x : Binary64} (h : x.isNaN = true) :
    ∃ y, x.narrow? = some y ∧ y.negative = x.negative ∧
      y.ordinal = Format.single.infinity + (2 ^ 22 + x.ordinal / 2 ^ 29 % 2 ^ 22) := by
  rw [narrow?, if_pos h]
  exact ⟨_, rfl, rfl, rfl⟩

/-- What is not a number is in the upper half of its ordinals when it is quiet. -/
theorem isNaN_of_quiet {x : Binary32} {payload : Nat}
    (h : x.ordinal = Format.single.infinity + (2 ^ 22 + payload)) : x.isNaN = true := by
  simp only [isNaN, h, decide_eq_true_eq]
  omega

/-- Narrowing takes a widened number back. -/
theorem narrow_widen (x : Binary32) : x.widen.narrow? = some x.quiet := by
  rcases lt_trichotomy x.ordinal Format.single.infinity with finite | infinite | beyond
  · obtain ⟨sign, ordinal⟩ := widen_of_finite finite
    obtain ⟨exact, bounded⟩ := widened_exact finite
    have number : x.widen.isNaN = false := by simp [isNaN, ordinal]; omega
    have proper : x.widen.isInfinite = false := by simp [isInfinite, ordinal]; omega
    have back : Format.single.nearest (Format.double.units x.widen.ordinal) = x.ordinal := by
      rw [ordinal, exact, Format.nearest_units (by decide)]
    simp only [narrow?, number, proper, back, finite, sign, Bool.false_eq_true, if_false,
      dite_true]
    rw [quiet_of_number (by simp [isNaN]; omega)]
  · have number : x.isNaN = false := by simp [isNaN, infinite]
    have bounded : x.isInfinite = true := by simp [isInfinite, infinite]
    rw [quiet_of_number number]
    simp only [widen, number, bounded, Bool.false_eq_true, if_false, if_true]
    obtain ⟨negative, ordinal, _⟩ := x
    cases infinite
    rfl
  · have nan : x.isNaN = true := by simp [isNaN, beyond]
    obtain ⟨sign, ordinal⟩ := widen_of_nan nan
    have wide : x.widen.isNaN = true := by
      simp only [isNaN, ordinal, decide_eq_true_eq]
      omega
    obtain ⟨y, found, ysign, yordinal⟩ := narrow_of_nan wide
    obtain ⟨qsign, qordinal⟩ := quiet_of_nan nan
    rw [found, eq_of_parts (ysign.trans (sign.trans qsign.symm))]
    rw [yordinal, qordinal, ordinal]
    simp only [Format.double]
    omega

/-- Widening does not see whether a payload is quiet. -/
theorem widen_quiet (x : Binary32) : x.quiet.widen = x.widen := by
  by_cases nan : x.isNaN = true
  · obtain ⟨sign, ordinal⟩ := quiet_of_nan nan
    obtain ⟨wsign, wordinal⟩ := widen_of_nan nan
    obtain ⟨qsign, qordinal⟩ := widen_of_nan (isNaN_of_quiet ordinal)
    apply eq_of_parts (qsign.trans (sign.trans wsign.symm))
    rw [qordinal, wordinal, ordinal]
    simp only [Format.single]
    omega
  · rw [quiet_of_number (Bool.eq_false_iff.mpr nan)]

end Binary

end Osc.Floating
