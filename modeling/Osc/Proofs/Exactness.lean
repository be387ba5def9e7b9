import Mathlib.Data.Rat.Floor
import Osc.Proofs.Precision
import Osc.Proofs.Rounding

/-!
Values that need no rounding. A number stands for a rational one exactly, a whole number of
units over the power of two that makes one. What has no more than 53 significant bits is a
number in double precision, and so are the whole part of such a value, what is left of it and
its multiples by powers of two, as long as they are not too large: computing with them rounds
nothing.
-/

namespace Osc.Floating

/-- A count of units that has at most 53 significant bits. -/
def IsShort (n : Nat) : Prop :=
  ∃ significand scale, n = significand * 2 ^ scale ∧ significand < 2 ^ Format.double.precision

namespace IsShort

variable {n : Nat}

theorem of_lt (small : n < 2 ^ Format.double.precision) : IsShort n := ⟨n, 0, by simp, small⟩

theorem mul (h : IsShort n) (k : Nat) : IsShort (n * 2 ^ k) := by
  obtain ⟨significand, scale, rfl, few⟩ := h
  exact ⟨significand, scale + k, by rw [pow_add, Nat.mul_assoc], few⟩

/-- Cutting a value at a power of two takes significant bits away. -/
theorem div_mul (h : IsShort n) (k : Nat) : IsShort (n / 2 ^ k * 2 ^ k) := by
  obtain ⟨significand, scale, rfl, few⟩ := h
  rcases le_total scale k with fine | coarse
  · obtain ⟨more, rfl⟩ := Nat.exists_eq_add_of_le' fine
    rw [pow_add, Nat.mul_div_mul_right _ _ (Nat.two_pow_pos scale), ← pow_add]
    exact ⟨_, _, rfl, (Nat.div_le_self ..).trans_lt few⟩
  · obtain ⟨more, rfl⟩ := Nat.exists_eq_add_of_le' coarse
    rw [pow_add, ← Nat.mul_assoc, Nat.mul_div_cancel _ (Nat.two_pow_pos k), Nat.mul_assoc,
      ← pow_add]
    exact ⟨_, _, rfl, few⟩

/-- So does leaving what a power of two divides. -/
theorem mod (h : IsShort n) (k : Nat) : IsShort (n % 2 ^ k) := by
  obtain ⟨significand, scale, rfl, few⟩ := h
  rcases le_total scale k with fine | coarse
  · obtain ⟨more, rfl⟩ := Nat.exists_eq_add_of_le' fine
    rw [pow_add, Nat.mul_mod_mul_right]
    exact ⟨_, _, rfl, (Nat.mod_le ..).trans_lt few⟩
  · obtain ⟨more, rfl⟩ := Nat.exists_eq_add_of_le' coarse
    rw [pow_add, ← Nat.mul_assoc, Nat.mul_mod_left]
    exact of_lt (Nat.two_pow_pos _)

/-- A large value is a multiple of a power of two. -/
theorem dvd (h : IsShort n) {k : Nat} (large : 2 ^ (Format.double.precision + k) ≤ n) :
    2 ^ (k + 1) ∣ n := by
  obtain ⟨significand, scale, rfl, few⟩ := h
  have above : Format.double.precision + k < Format.double.precision + scale := by
    rw [← Nat.pow_lt_pow_iff_right (by decide : 1 < 2)]
    refine large.trans_lt ?_
    rw [pow_add]
    exact Nat.mul_lt_mul_of_pos_right few (Nat.two_pow_pos scale)
  exact (Nat.pow_dvd_pow 2 (by omega)).trans (Nat.dvd_mul_left ..)

end IsShort

namespace Binary

variable {f : Format}

/-- The number that a finite number stands for. -/
def value (x : Binary f) : ℚ := (x.units : ℚ) / (2 ^ unitsLog : Nat)

theorem two_pow_unitsLog_pos : (0 : ℚ) < (2 ^ unitsLog : Nat) := by
  exact_mod_cast Nat.two_pow_pos unitsLog

theorem value_le_iff {x y : Binary f} : x.value ≤ y.value ↔ x.units ≤ y.units := by
  rw [value, value, div_le_div_iff_of_pos_right two_pow_unitsLog_pos, Int.cast_le]

theorem value_neg_iff {x : Binary f} : x.value < 0 ↔ x.units < 0 := by
  rw [value, div_lt_iff₀ two_pow_unitsLog_pos, zero_mul, Int.cast_lt_zero]

theorem natCast_le_value_iff {x : Binary f} {n : Nat} :
    (n : ℚ) ≤ x.value ↔ ((n * 2 ^ unitsLog : Nat) : Int) ≤ x.units := by
  rw [value, le_div_iff₀ two_pow_unitsLog_pos]
  generalize 2 ^ unitsLog = one
  norm_cast

theorem not_special {x : Binary f} (finite : x.isFinite = true) :
    x.isNaN = false ∧ x.isInfinite = false := by
  have bounded := of_decide_eq_true finite
  exact ⟨decide_eq_false (by omega), beq_eq_false_iff_ne.mpr bounded.ne⟩

theorem isShort {x : Binary64} (finite : x.isFinite = true) : IsShort x.units.natAbs := by
  rw [natAbs_units]
  obtain ⟨significand, scale, value, few, -⟩ :=
    Format.exists_significand (f := .double) (by decide) 2045 (of_decide_eq_true finite)
  exact ⟨significand, scale, value, few⟩

/-- The values of finite numbers are below a power of two. -/
theorem exists_natAbs_lt {x : Binary64} (finite : x.isFinite = true) :
    ∃ k ≤ 2098, x.units.natAbs < 2 ^ k := by
  rw [natAbs_units]
  obtain ⟨significand, scale, value, few, -, bound⟩ :=
    Format.exists_significand (f := .double) (by decide) 2045 (of_decide_eq_true finite)
  have least : Format.double.precision + scale ≤ 2098 := by
    simp only [Format.double] at bound ⊢
    omega
  refine ⟨_, least, ?_⟩
  rw [value, pow_add]
  exact Nat.mul_lt_mul_of_pos_right few (Nat.two_pow_pos scale)

/-- A value of few significant bits that is not too large is the value of a number. -/
theorem ofUnits_exact {u : Int} {k : Nat} (short : IsShort u.natAbs) (bound : u.natAbs < 2 ^ k)
    (small : k ≤ 2098) :
    (ofUnits .double u).isFinite = true ∧ (ofUnits .double u).units = u := by
  obtain ⟨significand, scale, value, few⟩ := short
  have exact : Format.double.units (Format.double.nearest u.natAbs) = u.natAbs := by
    rw [value]
    exact Format.units_nearest (by decide) few (Nat.zero_le _)
  have finite : Format.double.nearest u.natAbs < Format.double.infinity := by
    by_contra large
    have least := Format.le_units (f := .double) 2046 (not_lt.mp large)
    have inside : k ≤ Format.double.precision - 1 + (Format.double.step + 2046) := small
    rw [exact] at least
    exact absurd bound (not_lt.mpr ((Nat.pow_le_pow_right (by decide) inside).trans least))
  have ordinal : (ofUnits .double u).ordinal = Format.double.nearest u.natAbs :=
    Nat.min_eq_left finite.le
  refine ⟨by simpa [isFinite, ordinal] using finite, ?_⟩
  rw [units, ordinal, exact]
  simp only [ofUnits, decide_eq_true_eq]
  omega

/-- The value of a number is the number, except that zero loses its sign. -/
theorem ofUnits_units {x : Binary64} (finite : x.isFinite = true)
    (signed : x.negative = true → x.units ≠ 0) : ofUnits .double x.units = x := by
  have bounded := of_decide_eq_true finite
  apply eq_of_parts
  · cases sign : x.negative with
    | true =>
      have nonzero := signed sign
      simp only [ofUnits, decide_eq_true_eq]
      simp only [units, sign, if_true] at nonzero ⊢
      omega
    | false =>
      simp only [ofUnits, units, sign, decide_eq_false_iff_not]
      simp
  · simp only [ofUnits, natAbs_units, Format.nearest_units (f := .double) (by decide)]
    exact Nat.min_eq_left bounded.le

/-- Finite numbers other than zero are told by their values. -/
theorem eq_of_units {x y : Binary64} (hx : x.isFinite = true) (hy : y.isFinite = true)
    (same : x.units = y.units) (nonzero : x.units ≠ 0) : x = y := by
  rw [← ofUnits_units hx fun _ => nonzero, same, ofUnits_units hy fun _ => same ▸ nonzero]

end Binary

end Osc.Floating
