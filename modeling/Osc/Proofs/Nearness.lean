import Osc.Proofs.Rounding

/-!
The nearest number of a format. Ordinals count the values of a format upward, and a value lies
between two neighbouring ones; rounding takes the nearer of them, and halfway the one with the
even ordinal. So no number is nearer than the rounded one, only one with an even ordinal has
another equally near, and rounding keeps the order of values.
-/

namespace Osc.Floating

namespace Format

variable {f : Format}

/-- The value with an ordinal whose significand may also be the first of the next exponent. -/
theorem units_significand {exponent significand : Nat}
    (bound : significand ≤ 2 * 2 ^ (f.precision - 1))
    (normal : 2 ^ (f.precision - 1) ≤ significand ∨ exponent = 0) :
    f.units (exponent * 2 ^ (f.precision - 1) + significand) =
      significand * 2 ^ (f.step + exponent) := by
  have positive : 0 < 2 ^ (f.precision - 1) := Nat.two_pow_pos _
  rcases lt_or_ge significand (2 ^ (f.precision - 1)) with small | large
  · obtain rfl : exponent = 0 := by omega
    rw [units_split small, if_pos rfl, Nat.add_zero]
  · rcases bound.lt_or_eq with below | rfl
    · obtain ⟨fraction, rfl⟩ := Nat.exists_eq_add_of_le large
      rw [← Nat.add_assoc, ← Nat.succ_mul, units_split (by omega), if_neg (by omega),
        Nat.succ_sub_one]
    · have carried : exponent * 2 ^ (f.precision - 1) + 2 * 2 ^ (f.precision - 1) =
          (exponent + 2) * 2 ^ (f.precision - 1) + 0 := by ring
      have scale : f.step + (exponent + 2 - 1) = f.step + exponent + 1 := by omega
      rw [carried, units_split positive, if_neg (by omega), scale]
      ring

/-- Each ordinal has a significand that is full, except for the least exponent. -/
theorem exists_ordinal (f : Format) (ordinal : Nat) : ∃ exponent significand,
    ordinal = exponent * 2 ^ (f.precision - 1) + significand ∧
      significand < 2 * 2 ^ (f.precision - 1) ∧
        (2 ^ (f.precision - 1) ≤ significand ∨ exponent = 0) := by
  have positive : 0 < 2 ^ (f.precision - 1) := Nat.two_pow_pos _
  have part := Nat.mod_lt ordinal positive
  have split := Nat.div_add_mod' ordinal (2 ^ (f.precision - 1))
  by_cases subnormal : ordinal / 2 ^ (f.precision - 1) = 0
  · rw [subnormal, Nat.zero_mul, Nat.zero_add] at split
    exact ⟨0, ordinal, by omega, by omega, .inr rfl⟩
  · obtain ⟨exponent, above⟩ := Nat.exists_eq_succ_of_ne_zero subnormal
    rw [above, Nat.succ_mul] at split
    exact ⟨exponent, 2 ^ (f.precision - 1) + ordinal % 2 ^ (f.precision - 1), by omega, by omega,
      .inl (by omega)⟩

theorem units_strictMono (f : Format) : StrictMono f.units := by
  apply strictMono_nat_of_lt_succ
  intro ordinal
  obtain ⟨exponent, significand, rfl, bound, normal⟩ := f.exists_ordinal ordinal
  rw [Nat.add_assoc, units_significand bound.le normal, units_significand bound (by omega)]
  exact Nat.mul_lt_mul_of_pos_right (Nat.lt_succ_self _) (Nat.two_pow_pos _)

/-- Rounding cuts a value at some power of two, which leaves a significand that is full, except
for the least power. -/
theorem exists_cut (positive : 0 < f.precision) (n : Nat) : ∃ exponent,
    f.nearest n = exponent * 2 ^ (f.precision - 1) + roundShift n (f.step + exponent) ∧
      n / 2 ^ (f.step + exponent) < 2 * 2 ^ (f.precision - 1) ∧
        (2 ^ (f.precision - 1) ≤ n / 2 ^ (f.step + exponent) ∨ exponent = 0) := by
  obtain ⟨exponent, scale⟩ : ∃ exponent,
      max f.step (n.log2 + 1 - f.precision) = f.step + exponent :=
    Nat.exists_eq_add_of_le (le_max_left ..)
  refine ⟨exponent, ?_, div_two_pow_lt positive (by omega), ?_⟩
  · simp only [nearest, scale, Nat.add_sub_cancel_left]
  · by_cases least : exponent = 0
    · exact .inr least
    · have nonzero : n ≠ 0 := by
        rintro rfl
        simp at scale
        omega
      exact .inl (le_div_two_pow nonzero (by omega))

/-- Rounding takes one of two neighbours around the value: the nearer one, or halfway the one
with an even ordinal. -/
theorem nearest_between (wide : 2 ≤ f.precision) (n : Nat) : ∃ below,
    f.units below ≤ n ∧ n < f.units (below + 1) ∧
      ((f.nearest n = below ∧ (2 * n < f.units below + f.units (below + 1) ∨
          2 * n = f.units below + f.units (below + 1) ∧ below % 2 = 0)) ∨
        (f.nearest n = below + 1 ∧ (f.units below + f.units (below + 1) < 2 * n ∨
          2 * n = f.units below + f.units (below + 1) ∧ (below + 1) % 2 = 0))) := by
  obtain ⟨exponent, rounded, bound, normal⟩ := exists_cut (f := f) (by omega) n
  have here := units_significand bound.le normal
  have next := units_significand (Nat.succ_le_of_lt bound) (normal.imp_left (by omega))
  -- The ordinal of the cut value is even with the quotient, whole exponents being even.
  have aligned : (exponent * 2 ^ (f.precision - 1)) % 2 = 0 := by
    obtain ⟨precision, known⟩ := Nat.exists_eq_add_of_le wide
    rw [known, show 2 + precision - 1 = precision + 1 by omega, pow_succ, ← Nat.mul_assoc,
      Nat.mul_mod_left]
  refine ⟨exponent * 2 ^ (f.precision - 1) + n / 2 ^ (f.step + exponent), ?_⟩
  rw [rounded, Nat.add_assoc, here, next, Nat.succ_mul]
  have parts := Nat.div_add_mod' n (2 ^ (f.step + exponent))
  have rest : n % 2 ^ (f.step + exponent) < 2 ^ (f.step + exponent) :=
    Nat.mod_lt n (Nat.two_pow_pos _)
  simp only [roundShift]
  generalize 2 ^ (f.step + exponent) = scale at *
  generalize n / scale = quotient at *
  generalize n % scale = remainder at *
  generalize quotient * scale = whole at *
  refine ⟨by omega, by omega, ?_⟩
  split
  · next down =>
    simp only [Bool.or_eq_true, Bool.and_eq_true, decide_eq_true_eq, beq_iff_eq] at down
    exact .inl ⟨rfl, by omega⟩
  · next up =>
    simp only [Bool.or_eq_true, Bool.and_eq_true, decide_eq_true_eq, beq_iff_eq] at up
    exact .inr ⟨rfl, by omega⟩

/-- Rounding keeps the order of values. -/
theorem nearest_mono (wide : 2 ≤ f.precision) : Monotone f.nearest := by
  intro m n ordered
  obtain ⟨a, lowA, highA, choiceA⟩ := nearest_between wide m
  obtain ⟨b, lowB, highB, choiceB⟩ := nearest_between wide n
  have order : a < b + 1 := f.units_strictMono.lt_iff_lt.mp (by omega)
  rcases Nat.lt_succ_iff_lt_or_eq.mp order with less | rfl
  · omega
  · omega

theorem dist_of_le {a n : Nat} (h : a ≤ n) : |(a : Int) - n| = n - a := by
  rw [abs_of_nonpos (by omega), neg_sub]

theorem dist_of_ge {a n : Nat} (h : n ≤ a) : |(a : Int) - n| = a - n := abs_of_nonneg (by omega)

/-- No number is nearer to a value than the rounded one. -/
theorem nearest_le_dist (wide : 2 ≤ f.precision) (n ordinal : Nat) :
    |(f.units (f.nearest n) : Int) - n| ≤ |(f.units ordinal : Int) - n| := by
  obtain ⟨below, low, high, choice⟩ := nearest_between wide n
  have order : f.units ordinal ≤ f.units below ∨ f.units (below + 1) ≤ f.units ordinal := by
    simp only [f.units_strictMono.le_iff_le]
    omega
  have distance : (n : Int) - f.units below ≤ |(f.units ordinal : Int) - n| ∨
      (f.units (below + 1) : Int) - n ≤ |(f.units ordinal : Int) - n| := by
    rcases order with before | after
    · rw [dist_of_le (by omega)]
      omega
    · rw [dist_of_ge (by omega)]
      omega
  rcases choice with ⟨same, near⟩ | ⟨same, near⟩
  · rw [same, dist_of_le low]
    omega
  · rw [same, dist_of_ge high.le]
    omega

/-- Of two numbers equally near rounding takes the one with an even ordinal. -/
theorem nearest_even (wide : 2 ≤ f.precision) {n ordinal : Nat} (other : ordinal ≠ f.nearest n)
    (tie : |(f.units ordinal : Int) - n| = |(f.units (f.nearest n) : Int) - n|) :
    f.nearest n % 2 = 0 := by
  obtain ⟨below, low, high, choice⟩ := nearest_between wide n
  have order (a b : Nat) : f.units a < f.units b ↔ a < b := f.units_strictMono.lt_iff_lt
  rcases choice with ⟨same, near⟩ | ⟨same, near⟩
  · rw [same, dist_of_le low] at tie
    rcases Nat.lt_or_gt_of_ne (same ▸ other) with before | after
    · have less := (order ordinal below).mpr before
      rw [dist_of_le (by omega)] at tie
      omega
    · have more : f.units (below + 1) ≤ f.units ordinal := f.units_strictMono.monotone after
      rw [dist_of_ge (by omega)] at tie
      omega
  · rw [same, dist_of_ge high.le] at tie
    rcases Nat.lt_or_gt_of_ne (same ▸ other) with before | after
    · have less := f.units_strictMono.monotone (Nat.le_of_lt_succ before)
      rw [dist_of_le (by omega)] at tie
      omega
    · have more := (order (below + 1) ordinal).mpr after
      rw [dist_of_ge (by omega)] at tie
      omega

end Format

end Osc.Floating
