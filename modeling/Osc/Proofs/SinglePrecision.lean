import Osc.Proofs.Conversion
import Osc.Proofs.Exactness
import Osc.Proofs.Nearness

/-!
What a float becomes when it is built. A number that single precision can hold at all is rounded
to the nearest one there: no other is nearer, of two equally near the one with the even ordinal
is taken, and signs and infinities are kept. Rounding again changes nothing, and numbers in
order stay in order.
-/

namespace Osc.Floating

/-- What a number becomes in single precision. Signs and infinities are kept; of the finite numbers
no other is nearer, and if another is as near this one has the even significand, which is the
lowest bit of its ordinal. -/
structure Binary.IsRounded (x : Binary64) (y : Binary32) : Prop where
  negative : y.negative = x.negative
  infinite : x.isInfinite = true → y.isInfinite = true
  finite : x.isFinite = true → y.isFinite = true
  nearest : x.isFinite = true → ∀ z : Binary32, z.isFinite = true →
    |y.value - x.value| ≤ |z.value - x.value|
  even : x.isFinite = true → ∀ z : Binary32, z.isFinite = true → z.value ≠ y.value →
    |z.value - x.value| = |y.value - x.value| → y.ordinal % 2 = 0

/-- An exact value rounded to single precision. -/
def roundUnits (u : Int) : Int :=
  if u < 0 then -(Format.single.units (Format.single.nearest u.natAbs) : Int)
  else Format.single.units (Format.single.nearest u.natAbs)

def Extent.round : Extent → Extent
  | .least => .least
  | .units u => .units (roundUnits u)
  | .greatest => .greatest

/-- Two numbers in order, infinities included. What is not a number has no place in it. -/
def Binary.AtMost {f : Format} (x y : Binary f) : Prop :=
  ∃ a b, x.extent? = some a ∧ y.extent? = some b ∧ a.le b = true

theorem Format.units_zero (f : Format) : f.units 0 = 0 := by simp [Format.units]

theorem Format.abs_units_zero_sub (f : Format) (n : Nat) : |(f.units 0 : Int) - n| = n := by
  rw [f.units_zero, Nat.cast_zero, zero_sub, abs_neg, Nat.abs_cast]

theorem Format.nearest_zero {f : Format} (positive : 0 < f.precision) : f.nearest 0 = 0 := by
  have back := Format.nearest_units (f := f) positive 0
  rwa [f.units_zero] at back

private theorem roundUnits_mono : Monotone roundUnits := by
  have order := Format.nearest_mono (f := .single) (by decide)
  have up {m n : Nat} (h : m ≤ n) : (Format.single.units (Format.single.nearest m) : Int) ≤
      Format.single.units (Format.single.nearest n) := by
    exact_mod_cast (Format.units_strictMono _).monotone (order h)
  intro u v ordered
  rw [roundUnits, roundUnits]
  split
  · split
    · next negative =>
      exact neg_le_neg (up (by omega))
    · exact le_trans (neg_nonpos.mpr (Int.natCast_nonneg _)) (Int.natCast_nonneg _)
  · next nonneg =>
    rw [if_neg (by omega)]
    exact up (by omega)

theorem Extent.round_mono {a b : Extent} (h : a.le b = true) : a.round.le b.round = true := by
  cases a with
  | least => rfl
  | greatest =>
    cases b with
    | greatest => rfl
    | least | units => cases h
  | units u =>
    cases b with
    | least => cases h
    | greatest => rfl
    | units v => exact decide_eq_true (roundUnits_mono (of_decide_eq_true h))

namespace Binary

section Kinds

variable {f : Format} {x : Binary f}

theorem not_isInfinite (finite : x.isFinite = true) : ¬ x.isInfinite = true := by
  rw [(not_special finite).2]
  exact Bool.false_ne_true

theorem infinite_or_finite (number : x.isNaN = false) :
    x.isInfinite = true ∨ x.isFinite = true := by
  simp only [isNaN, isInfinite, isFinite, decide_eq_false_iff_not, decide_eq_true_eq,
    beq_iff_eq] at number ⊢
  omega

theorem isNaN_of_isInfinite (infinite : x.isInfinite = true) : x.isNaN = false := by
  simp only [isInfinite, beq_iff_eq] at infinite
  simp [isNaN, infinite]

theorem extent_of_isFinite (finite : x.isFinite = true) :
    x.extent? = some (.units x.units) := by
  obtain ⟨number, proper⟩ := not_special finite
  rw [extent?, number, proper]
  rfl

theorem extent_of_isInfinite (infinite : x.isInfinite = true) :
    x.extent? = some (if x.negative then .least else .greatest) := by
  rw [extent?, isNaN_of_isInfinite infinite, infinite]
  rfl

theorem number_of_extent {e : Extent} (known : x.extent? = some e) :
    x.isNaN = false := by
  rw [extent?] at known
  split at known
  · cases known
  · next number => exact Bool.eq_false_iff.mpr number

end Kinds

section Values

variable {f g : Format}

theorem abs_value_sub (x : Binary f) (y : Binary g) :
    |x.value - y.value| = (|x.units - y.units| : Int) / (2 ^ unitsLog : Nat) := by
  rw [value, value, ← sub_div, abs_div, abs_of_pos two_pow_unitsLog_pos]
  push_cast
  rfl

private theorem natCast_le_abs_value_iff {x : Binary f} {n : Nat} :
    (n : ℚ) ≤ |x.value| ↔ n * 2 ^ unitsLog ≤ x.units.natAbs := by
  rw [value, abs_div, abs_of_pos two_pow_unitsLog_pos, le_div_iff₀ two_pow_unitsLog_pos,
    ← Int.cast_abs, Int.abs_eq_natAbs, Int.cast_natCast]
  generalize 2 ^ unitsLog = one
  norm_cast

/-- The numbers that are too large, by their values. -/
theorem overflows_iff {x : Binary64} :
    x.Overflows ↔ x.isFinite = true ∧ 2 ^ 128 - 2 ^ 103 ≤ |x.value| := by
  have bound : ((2 ^ 128 - 2 ^ 103 : Nat) : ℚ) = 2 ^ 128 - 2 ^ 103 := by norm_num
  rw [Overflows, ← natCast_le_abs_value_iff, bound]

theorem abs_value_sub_le_iff {x : Binary f} {y z : Binary g} :
    |y.value - x.value| ≤ |z.value - x.value| ↔ |y.units - x.units| ≤ |z.units - x.units| := by
  rw [abs_value_sub, abs_value_sub, div_le_div_iff_of_pos_right two_pow_unitsLog_pos, Int.cast_le]

theorem value_eq_iff {x : Binary f} {y : Binary g} : x.value = y.value ↔ x.units = y.units := by
  rw [value, value, div_left_inj' two_pow_unitsLog_pos.ne', Int.cast_inj]

theorem units_eq_zero_iff {x : Binary f} : x.units = 0 ↔ f.units x.ordinal = 0 := by
  rw [← natAbs_units, Int.natAbs_eq_zero]

/-- Numbers of one sign are as far apart as their magnitudes. -/
theorem abs_units_sub {x : Binary f} {y : Binary g} (same : y.negative = x.negative) :
    |y.units - x.units| = |(g.units y.ordinal : Int) - f.units x.ordinal| := by
  rw [units, units, same]
  cases x.negative with
  | false => rfl
  | true =>
    rw [if_pos rfl, if_pos rfl, neg_sub_neg, abs_sub_comm]

/-- Zero lies between numbers of two signs. -/
theorem abs_units_sub_of_ne {x : Binary f} {y : Binary g} (other : y.negative ≠ x.negative) :
    |y.units - x.units| = g.units y.ordinal + f.units x.ordinal := by
  rw [units, units]
  cases below : x.negative with
  | false =>
    have negative : y.negative = true := by simpa [below] using other
    rw [negative, if_pos rfl, if_neg (by decide), abs_of_nonpos (by omega)]
    omega
  | true =>
    have positive : y.negative = false := by simpa [below] using other
    rw [positive, if_neg (by decide), if_pos rfl, abs_of_nonneg (by omega)]
    omega

end Values

variable {x : Binary64} {y : Binary32}

/-- The nearest magnitude with the same sign is nearest among all numbers. -/
theorem nearest_of_parts (negative : y.negative = x.negative)
    (ordinal : y.ordinal = Format.single.nearest (Format.double.units x.ordinal))
    (z : Binary32) : |y.value - x.value| ≤ |z.value - x.value| := by
  rw [abs_value_sub_le_iff, abs_units_sub negative, ordinal]
  have least := Format.nearest_le_dist (f := .single) (by decide) (Format.double.units x.ordinal)
  by_cases same : z.negative = x.negative
  · rw [abs_units_sub same]
    exact least z.ordinal
  · have zero := least 0
    rw [Format.abs_units_zero_sub] at zero
    rw [abs_units_sub_of_ne same]
    omega

/-- Where another number is as near, the ordinal is even. -/
theorem even_of_parts (negative : y.negative = x.negative)
    (ordinal : y.ordinal = Format.single.nearest (Format.double.units x.ordinal))
    {z : Binary32} (other : z.value ≠ y.value) (tie : |z.value - x.value| = |y.value - x.value|) :
    y.ordinal % 2 = 0 := by
  have units : |z.units - x.units| = |y.units - x.units| :=
    le_antisymm (abs_value_sub_le_iff.mp tie.le) (abs_value_sub_le_iff.mp tie.ge)
  have even {o : Nat} (next : o ≠ y.ordinal)
      (near : |(Format.single.units o : Int) - Format.double.units x.ordinal| =
        |(Format.single.units y.ordinal : Int) - Format.double.units x.ordinal|) :
      y.ordinal % 2 = 0 := by
    rw [ordinal] at next near ⊢
    exact Format.nearest_even (by decide) next near
  rw [abs_units_sub negative] at units
  by_cases same : z.negative = x.negative
  · rw [abs_units_sub same] at units
    refine even (fun equal => other ?_) units
    rw [eq_of_parts (same.trans negative.symm) equal]
  · -- Numbers of the other sign are at most as near as zero.
    have least := Format.nearest_le_dist (f := .single) (by decide)
      (Format.double.units x.ordinal) 0
    rw [← ordinal, Format.abs_units_zero_sub] at least
    rw [abs_units_sub_of_ne same] at units
    have zero : z.units = 0 := units_eq_zero_iff.mpr (by omega)
    refine even (o := 0) (fun equal => other ?_) ?_
    · rw [value_eq_iff, zero, eq_comm, units_eq_zero_iff, ← equal, Format.units_zero]
    · rw [Format.abs_units_zero_sub]
      omega

/-- What rounding gives: infinity for infinity, and the nearest magnitude otherwise. -/
theorem parts_of_narrow (number : x.isNaN = false) (narrowed : x.narrow? = some y) :
    y.negative = x.negative ∧ (x.isInfinite = true → y.isInfinite = true) ∧
      (x.isFinite = true → y.isFinite = true ∧
        y.ordinal = Format.single.nearest (Format.double.units x.ordinal)) := by
  rw [narrow?, number, if_neg (by decide)] at narrowed
  by_cases infinite : x.isInfinite = true
  · rw [if_pos infinite, Option.some_inj] at narrowed
    subst narrowed
    exact ⟨rfl, fun _ => beq_self_eq_true _, fun finite => absurd infinite (not_isInfinite finite)⟩
  · rw [if_neg infinite] at narrowed
    by_cases small :
        Format.single.nearest (Format.double.units x.ordinal) < Format.single.infinity
    · rw [dif_pos small, Option.some_inj] at narrowed
      subst narrowed
      exact ⟨rfl, fun proper => absurd proper infinite, fun _ => ⟨decide_eq_true small, rfl⟩⟩
    · rw [dif_neg small] at narrowed
      cases narrowed

/-- A number that is not too large is rounded to the nearest one. -/
theorem isRounded_of_narrow (number : x.isNaN = false) (narrowed : x.narrow? = some y) :
    IsRounded x y := by
  obtain ⟨negative, infinite, finite⟩ := parts_of_narrow number narrowed
  exact
    { negative := negative
      infinite := infinite
      finite := fun h => (finite h).1
      nearest := fun h z _ => nearest_of_parts negative (finite h).2 z
      even := fun h z _ => even_of_parts negative (finite h).2 }

/-- Rounding makes numbers of numbers. -/
theorem isNaN_of_isRounded (h : IsRounded x y) (number : x.isNaN = false) : y.isNaN = false := by
  rcases infinite_or_finite number with infinite | finite
  · exact isNaN_of_isInfinite (h.infinite infinite)
  · exact (not_special (h.finite finite)).1

/-- What is narrowed is quiet, if it is no number. -/
theorem quiet_of_narrow (narrowed : x.narrow? = some y) : y.quiet = y := by
  cases nan : x.isNaN with
  | false => exact quiet_of_number (isNaN_of_isRounded (isRounded_of_narrow nan narrowed) nan)
  | true =>
    obtain ⟨z, found, -, ordinal⟩ := narrow_of_nan nan
    obtain rfl : z = y := Option.some.inj (found.symm.trans narrowed)
    obtain ⟨sign, quiet⟩ := quiet_of_nan (isNaN_of_quiet ordinal)
    refine eq_of_parts sign ?_
    rw [quiet, ordinal]
    simp only [Format.single]
    omega

theorem rounded_of_narrow (narrowed : x.narrow? = some y) : x.rounded = y.widen := by
  rw [rounded, narrowed]

/-- Narrowing gives the same for a number that is rounded. -/
theorem narrow_rounded (narrowed : x.narrow? = some y) : x.rounded.narrow? = some y := by
  rw [rounded_of_narrow narrowed, narrow_widen, quiet_of_narrow narrowed]

theorem narrow_widen_of_number (number : y.isNaN = false) : y.widen.narrow? = some y := by
  rw [narrow_widen, quiet_of_number number]

/-- Widening keeps the sign and the value, and infinity. -/
theorem widen_kept (y : Binary32) (number : y.isNaN = false) :
    y.widen.negative = y.negative ∧ (y.isInfinite = true → y.widen.isInfinite = true) ∧
      (y.isFinite = true → y.widen.isFinite = true ∧ y.widen.units = y.units) := by
  rcases infinite_or_finite number with infinite | finite
  · have shape : y.widen = ⟨y.negative, Format.double.infinity, Format.double.infinity_lt⟩ := by
      rw [widen, number, infinite]
      rfl
    rw [shape]
    exact ⟨rfl, fun _ => beq_self_eq_true _, fun finite => absurd infinite (not_isInfinite finite)⟩
  · have bounded := of_decide_eq_true finite
    obtain ⟨negative, ordinal⟩ := widen_of_finite bounded
    obtain ⟨exact, small⟩ := widened_exact bounded
    refine ⟨negative, fun infinite => absurd infinite (not_isInfinite finite), fun _ => ⟨?_, ?_⟩⟩
    · rw [isFinite, ordinal]
      exact decide_eq_true small
    · rw [units, units, negative, ordinal, exact]

private theorem extent_widen (number : y.isNaN = false) : y.widen.extent? = y.extent? := by
  obtain ⟨negative, infinite, finite⟩ := widen_kept y number
  rcases infinite_or_finite number with h | h
  · rw [extent_of_isInfinite h, extent_of_isInfinite (infinite h), negative]
  · rw [extent_of_isFinite h, extent_of_isFinite (finite h).1, (finite h).2]

private theorem units_narrow (negative : y.negative = x.negative)
    (ordinal : y.ordinal = Format.single.nearest (Format.double.units x.ordinal)) :
    y.units = roundUnits x.units := by
  rw [roundUnits, natAbs_units, ← ordinal, units, negative, units]
  cases x.negative with
  | false => simp
  | true =>
    by_cases zero : Format.double.units x.ordinal = 0
    · rw [zero, Format.nearest_zero (by decide)] at ordinal
      simp [ordinal, zero, Format.units_zero]
    · rw [if_pos rfl, if_pos rfl, if_pos (by omega)]

/-- Rounding a number rounds its place among the values. -/
theorem extent_narrow (number : x.isNaN = false) (narrowed : x.narrow? = some y) :
    y.extent? = x.extent?.map Extent.round := by
  obtain ⟨negative, infinite, finite⟩ := parts_of_narrow number narrowed
  rcases infinite_or_finite number with h | h
  · rw [extent_of_isInfinite h, extent_of_isInfinite (infinite h), negative]
    cases x.negative <;> rfl
  · obtain ⟨small, ordinal⟩ := finite h
    rw [extent_of_isFinite h, extent_of_isFinite small, Option.map_some, Extent.round,
      units_narrow negative ordinal]

/-- The place among the values of a number that is built. -/
theorem extent_rounded (number : x.isNaN = false) (fits : ¬ x.Overflows) :
    x.rounded.extent? = x.extent?.map Extent.round := by
  rw [← narrow?_eq_none_iff] at fits
  obtain ⟨y, narrowed⟩ := Option.ne_none_iff_exists'.mp fits
  have number' := isNaN_of_isRounded (isRounded_of_narrow number narrowed) number
  rw [rounded_of_narrow narrowed, ← extent_narrow number narrowed]
  exact extent_widen number'

/-- Numbers in order stay in order when they are rounded, unless one of them is too large. -/
theorem rounded_mono {x' : Binary64} (fits : ¬ x.Overflows) (fits' : ¬ x'.Overflows)
    (ordered : x.AtMost x') : x.rounded.AtMost x'.rounded := by
  obtain ⟨a, b, ha, hb, below⟩ := ordered
  refine ⟨a.round, b.round, ?_, ?_, Extent.round_mono below⟩
  · rw [extent_rounded (number_of_extent ha) fits, ha]
    rfl
  · rw [extent_rounded (number_of_extent hb) fits', hb]
    rfl

end Binary

end Osc.Floating
