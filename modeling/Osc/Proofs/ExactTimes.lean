import Osc.Proofs.Reading
import Osc.Proofs.TimeTags

/-!
Times from 1970 on as time tags and as numbers again. On neither way is anything rounded: the
whole seconds of a number, what is left of them and the ticks in that all have few enough
significant bits, and so has their sum. What comes back is the time cut to whole ticks, and
from 2 to the power 20 seconds on numbers are whole ticks themselves.
-/

namespace Osc

open Floating (Binary Binary64 Format IsShort unitsLog)
open Wire (bind_ok)

/-- What is computed from a time to its time tag and from that to a number, each step with
exactly the value it is meant to have. -/
structure ExactSteps (x : Binary64) (tag : TimeTag) (y : Binary64) : Prop where
  whole : ∃ w, Binary.ofInt? .double x.truncate = some w ∧ w.Denotes ⌊x.value⌋
  left : (secondsLeft x).Denotes (x.value - ⌊x.value⌋)
  scaled : (inTicks (secondsLeft x)).Denotes ((x.value - ⌊x.value⌋) * 2 ^ 32)
  back : ∃ seconds part, Binary.ofInt? .double (tag.seconds - epochOffset) = some seconds ∧
    seconds.Denotes (tag.seconds - epochOffset) ∧ quotient tag.fractional = .ok part ∧
    part.Denotes (tag.fractional / 2 ^ 32) ∧ seconds.add part = y ∧
    y.Denotes (tag.seconds - epochOffset + tag.fractional / 2 ^ 32)

namespace Floating.Binary

theorem denotes {x : Binary64} {v : ℚ} (finite : x.isFinite = true)
    (units : (x.units : ℚ) = v * (2 ^ unitsLog : Nat)) : x.Denotes v :=
  ⟨finite, (div_eq_iff two_pow_unitsLog_pos.ne').mpr units⟩

theorem units_of_isZero {x : Binary64} (zero : x.isZero = true) : x.units = 0 := by
  rw [isZero, beq_iff_eq] at zero
  simp [units, zero, Format.units]

/-- A sum that needs no rounding. -/
theorem add_exact {x y : Binary64} {k : Nat} (hx : x.isFinite = true) (hy : y.isFinite = true)
    (short : IsShort (x.units + y.units).natAbs) (bound : (x.units + y.units).natAbs < 2 ^ k)
    (small : k ≤ 2098) :
    (x.add y).isFinite = true ∧ (x.add y).units = x.units + y.units := by
  obtain ⟨numberX, properX⟩ := not_special hx
  obtain ⟨numberY, properY⟩ := not_special hy
  rw [add]
  simp only [numberX, properX, numberY, properY, Bool.or_self, Bool.false_eq_true, if_false]
  split
  · next zero =>
    rw [Bool.and_eq_true] at zero
    refine ⟨hx, ?_⟩
    rw [units_of_isZero zero.1, units_of_isZero zero.2]
    exact units_of_isZero zero.1
  · exact ofUnits_exact short bound small

/-- An integer that needs no rounding. -/
theorem ofInt?_exact {n : Int} {k : Nat} (short : IsShort (n * 2 ^ unitsLog).natAbs)
    (bound : (n * 2 ^ unitsLog).natAbs < 2 ^ k) (small : k ≤ 2098) :
    ∃ x, ofInt? .double n = some x ∧ x.Denotes n ∧ x.units = n * 2 ^ unitsLog := by
  obtain ⟨finite, units⟩ := ofUnits_exact short bound small
  refine ⟨_, if_pos finite, denotes finite ?_, units⟩
  rw [units]
  push_cast
  rfl

end Floating.Binary

theorem denotes_ticks {x : Binary64} {n : Int} (finite : x.isFinite = true)
    (units : x.units = n * 2 ^ (unitsLog - 32)) : x.Denotes (n / 2 ^ 32) := by
  refine Binary.denotes finite ?_
  rw [units, pow_unitsLog]
  push_cast
  ring

/-- Parts of a second need no rounding. -/
theorem quotient_exact {n : Int} (small : n.natAbs < 2 ^ 32) :
    ∃ x, quotient n = .ok x ∧ x.Denotes (n / 2 ^ 32) ∧ x.units = n * 2 ^ (unitsLog - 32) := by
  have short : IsShort (n * 2 ^ (unitsLog - 32)).natAbs := by
    rw [natAbs_mul_two_pow]
    exact (IsShort.of_lt (small.trans (by decide))).mul _
  have bound : (n * 2 ^ (unitsLog - 32)).natAbs < 2 ^ unitsLog := by
    rw [natAbs_mul_two_pow, pow_unitsLog, mul_comm]
    have positive := Nat.two_pow_pos (unitsLog - 32)
    generalize 2 ^ (unitsLog - 32) = tick at positive ⊢
    exact Nat.mul_lt_mul_of_pos_left small positive
  obtain ⟨finite, units⟩ := Binary.ofUnits_exact short bound (by decide)
  exact ⟨_, if_pos finite, denotes_ticks finite units, units⟩

section Since

variable {x : Binary64}

theorem units_nonneg_iff : 0 ≤ x.units ↔ 0 ≤ x.value := by
  rw [← not_lt, ← Binary.value_neg_iff, not_lt]

theorem secondsLeft_denotes (finite : x.isFinite = true) (since : 0 ≤ x.value) :
    (secondsLeft x).Denotes (x.value - ⌊x.value⌋) := by
  obtain ⟨left, units⟩ := secondsLeft_exact finite
  refine Binary.denotes left ?_
  rw [units, Int.tmod_def, ← truncate_of_nonneg (units_nonneg_iff.mpr since), sub_mul, Binary.value,
    div_mul_cancel₀ _ Binary.two_pow_unitsLog_pos.ne', Binary.truncate]
  push_cast
  ring

theorem inTicks_denotes (finite : x.isFinite = true) (since : 0 ≤ x.value) :
    (inTicks (secondsLeft x)).Denotes ((x.value - ⌊x.value⌋) * 2 ^ 32) := by
  obtain ⟨scaled, units⟩ := inTicks_exact finite
  obtain ⟨-, left⟩ := secondsLeft_denotes finite since
  refine Binary.denotes scaled ?_
  rw [units, ← (secondsLeft_exact finite).2, ← left, Binary.value, mul_right_comm,
    div_mul_cancel₀ _ Binary.two_pow_unitsLog_pos.ne']
  push_cast
  ring

/-- A number that is cut at a power of two has few enough significant bits. -/
theorem cut_short (finite : x.isFinite = true) (k : Nat) :
    IsShort (x.units.tdiv (2 ^ k) * 2 ^ k).natAbs ∧
      ∃ bound ≤ 2098, (x.units.tdiv (2 ^ k) * 2 ^ k).natAbs < 2 ^ bound := by
  have size : (x.units.tdiv (2 ^ k) * 2 ^ k).natAbs = x.units.natAbs / 2 ^ k * 2 ^ k := by
    rw [natAbs_mul_two_pow, Int.natAbs_tdiv, natAbs_two_pow]
    rfl
  obtain ⟨bound, small, below⟩ := Binary.exists_natAbs_lt finite
  rw [size]
  exact ⟨(Binary.isShort finite).div_mul k, bound, small,
    (Nat.div_mul_le_self ..).trans_lt below⟩

/-- The whole part needs no rounding as a number. -/
theorem truncate_exact (finite : x.isFinite = true) :
    ∃ w, Binary.ofInt? .double x.truncate = some w ∧ w.Denotes x.truncate ∧
      w.units = x.truncate * 2 ^ unitsLog := by
  obtain ⟨short, k, small, bound⟩ := cut_short finite unitsLog
  rw [Binary.truncate]
  exact Binary.ofInt?_exact short bound small

/-- The ticks of a fraction are those of the time without its whole seconds. -/
theorem fractionOf_of_nonneg (finite : x.isFinite = true) (since : 0 ≤ x.value) :
    fractionOf x = ⌊(x.value - ⌊x.value⌋) * 2 ^ 32⌋ ∧ 0 ≤ fractionOf x := by
  have value := (inTicks_denotes finite since).2
  have nonneg : 0 ≤ (x.value - ⌊x.value⌋) * 2 ^ 32 :=
    mul_nonneg (sub_nonneg.mpr (Int.floor_le _)) (by positivity)
  have scaled : 0 ≤ (inTicks (secondsLeft x)).units := units_nonneg_iff.mpr (value ▸ nonneg)
  have ticks : fractionOf x = ⌊(x.value - ⌊x.value⌋) * 2 ^ 32⌋ := by
    rw [fractionOf_eq, truncate_of_nonneg scaled, value]
  exact ⟨ticks, ticks ▸ Int.floor_nonneg.mpr nonneg⟩

/-- Whole seconds and ticks need no rounding when they are added up. -/
theorem ticks_exact (finite : x.isFinite = true) {seconds part : Binary64}
    (hs : seconds.isFinite = true) (hp : part.isFinite = true)
    (whole : seconds.units = x.truncate * 2 ^ unitsLog)
    (rest : part.units = fractionOf x * 2 ^ (unitsLog - 32)) :
    (seconds.add part).isFinite = true ∧
      (seconds.add part).units = x.ticks * 2 ^ (unitsLog - 32) := by
  obtain ⟨short, k, small, bound⟩ := cut_short finite (unitsLog - 32)
  have sum : seconds.units + part.units = x.ticks * 2 ^ (unitsLog - 32) := by
    rw [whole, rest, ← ticks_split finite, pow_unitsLog]
    ring
  rw [← Binary.ticks, ← sum] at short bound
  rw [← sum]
  exact Binary.add_exact hs hp short bound small

/-- From 2 to the power 20 on, numbers in double precision are whole ticks. -/
theorem ticks_of_large (finite : x.isFinite = true) (large : 2 ^ 20 ≤ x.value) :
    x.ticks * 2 ^ (unitsLog - 32) = x.units := by
  have least : ((2 ^ 20 * 2 ^ unitsLog : Nat) : Int) ≤ x.units :=
    Binary.natCast_le_value_iff.mp (by exact_mod_cast large)
  have bound : 2 ^ (20 + unitsLog) ≤ x.units.natAbs := by
    rw [pow_add]
    generalize 2 ^ unitsLog = second at least ⊢
    omega
  have bits : Format.double.precision + (unitsLog - 33) = 20 + unitsLog := rfl
  have tick : unitsLog - 33 + 1 = unitsLog - 32 := rfl
  have divides : 2 ^ (unitsLog - 33 + 1) ∣ x.units.natAbs :=
    (Binary.isShort finite).dvd (by
      rw [bits]
      exact bound)
  rw [tick, ← Int.natCast_dvd, Nat.cast_pow, Nat.cast_ofNat] at divides
  exact Int.tdiv_mul_cancel divides

/-- The time tag of a time from 1970 on. -/
theorem ofUnix_of_nonneg (finite : x.isFinite = true) (since : 0 ≤ x.value) :
    TimeTag.ofUnix (.float x) = .ok ⟨⌊x.value⌋ + epochOffset, fractionOf x⟩ := by
  have low := (fractionOf_of_nonneg finite since).2
  have high := natAbs_fractionOf_lt finite
  have wrapped : fractionOf x % 2 ^ 32 = fractionOf x := by omega
  rw [ofUnix_float finite, TimeTag.ofSeconds, wrapped,
    truncate_of_nonneg (units_nonneg_iff.mpr since)]

/-- What comes back is whole ticks, the whole seconds and the rest each having been exact. -/
theorem exists_sum (finite : x.isFinite = true) (since : 0 ≤ x.value) :
    ∃ seconds part, Binary.ofInt? .double ⌊x.value⌋ = some seconds ∧ seconds.Denotes ⌊x.value⌋ ∧
      quotient (fractionOf x) = .ok part ∧ part.Denotes (fractionOf x / 2 ^ 32) ∧
      (seconds.add part).isFinite = true ∧
      (seconds.add part).units = x.ticks * 2 ^ (unitsLog - 32) := by
  obtain ⟨seconds, hs, exact, whole⟩ := truncate_exact finite
  obtain ⟨part, hp, exact', rest⟩ := quotient_exact (natAbs_fractionOf_lt finite)
  have sum := ticks_exact finite exact.1 exact'.1 whole rest
  rw [truncate_of_nonneg (units_nonneg_iff.mpr since)] at hs exact
  exact ⟨seconds, part, hs, exact, hp, exact', sum⟩

/-- A time cut to whole ticks is not later and less than a tick earlier. -/
theorem cut_bounds {y : Binary64} (cut : y.Denotes (⌊x.value * 2 ^ 32⌋ / 2 ^ 32)) :
    y.value ≤ x.value ∧ x.value - y.value < 1 / 2 ^ 32 := by
  have atMost := Int.floor_le (x.value * 2 ^ 32)
  have atLeast := Int.lt_floor_add_one (x.value * 2 ^ 32)
  constructor
  · rw [cut.2, div_le_iff₀ (by positivity)]
    exact atMost
  · rw [cut.2, sub_lt_iff_lt_add, ← add_div, lt_div_iff₀ (by positivity), add_comm]
    exact atLeast

/-- Numbers of whole ticks are what their ticks stand for. -/
theorem eq_of_ticks {y : Binary64} (finite : x.isFinite = true) (finite' : y.isFinite = true)
    (ticks : y.units = x.ticks * 2 ^ (unitsLog - 32)) (large : 2 ^ 20 ≤ x.value) : y = x := by
  have same : y.units = x.units := ticks.trans (ticks_of_large finite large)
  have positive : 0 < x.value := lt_of_lt_of_le (by norm_num) large
  refine Binary.eq_of_units finite' finite same fun zero => ?_
  rw [Binary.value, ← same, zero, Int.cast_zero, zero_div] at positive
  exact positive.false

end Since

private theorem fractionInSeconds_of_integer {v : Value} {n : Int} (integer : v.integer? = some n) :
    fractionInSeconds v = .real <$> quotient n := by
  unfold fractionInSeconds
  rw [integer]

theorem Approximate.ofInt_of_some {n : Int} {x : Binary64}
    (near : Binary.ofInt? .double n = some x) : Approximate.ofInt n = .ok (.real x) := by
  rw [Approximate.ofInt, near]
  rfl

private theorem toUnix_of_integer {v w : Value} {n : Int} {x y : Approximate}
    (whole : sinceEpoch v = .ok (.inl n)) (rounded : Approximate.ofInt n = .ok x)
    (part : fractionInSeconds w = .ok y) : toUnix v w = .ok (x.add y).toValue := by
  rw [toUnix, whole, part, bind_ok, bind_ok]
  dsimp only
  rw [rounded]
  rfl

private theorem toUnix_int {n fractional : Int} {seconds part : Binary64}
    (hs : Binary.ofInt? .double n = some seconds) (hp : quotient fractional = .ok part) :
    toUnix (.int (n + epochOffset)) (.int fractional) = .ok (.float (seconds.add part)) := by
  have whole : sinceEpoch (.int (n + epochOffset)) = .ok (.inl (n + epochOffset - epochOffset)) :=
    rfl
  rw [add_sub_cancel_right] at whole
  have fraction : fractionInSeconds (.int fractional) = .ok (.real part) := by
    rw [fractionInSeconds_of_integer rfl, hp]
    rfl
  exact toUnix_of_integer whole (Approximate.ofInt_of_some hs) fraction

/-- From 1970 on nothing is rounded. The time tag has the whole seconds and the ticks left of
the time, and the number made of that is the time cut to whole ticks: never later, less than a
tick earlier, and the same from 2 to the power 20 seconds on. -/
theorem toUnix_ofUnix_exact {x : Binary64} (finite : x.isFinite = true) (since : 0 ≤ x.value) :
    ∃ tag y, TimeTag.ofUnix (.float x) = .ok tag ∧
      tag.seconds = ⌊x.value⌋ + epochOffset ∧
      tag.fractional = ⌊(x.value - ⌊x.value⌋) * 2 ^ 32⌋ ∧
      0 ≤ tag.fractional ∧ tag.fractional ≤ 2 ^ 32 - 1 ∧
      toUnix (.int tag.seconds) (.int tag.fractional) = .ok (.float y) ∧
      y.Denotes (⌊x.value * 2 ^ 32⌋ / 2 ^ 32) ∧
      y.value ≤ x.value ∧ x.value - y.value < 1 / 2 ^ 32 ∧ (2 ^ 20 ≤ x.value → y = x) ∧
      ExactSteps x tag y := by
  obtain ⟨fraction, low⟩ := fractionOf_of_nonneg finite since
  have high := natAbs_fractionOf_lt finite
  have floor := truncate_of_nonneg (units_nonneg_iff.mpr since)
  obtain ⟨seconds, part, hs, exact, hp, exact', finiteY, ticks⟩ := exists_sum finite since
  have split : (⌊x.value⌋ : ℚ) + fractionOf x / 2 ^ 32 = x.ticks / 2 ^ 32 := by
    rw [← ticks_split finite, floor]
    push_cast
    ring
  have exactY := denotes_ticks finiteY ticks
  have below : fractionOf x ≤ 2 ^ 32 - 1 := by omega
  have cut : (seconds.add part).Denotes (⌊x.value * 2 ^ 32⌋ / 2 ^ 32) := by
    rwa [← ticks_of_nonneg (units_nonneg_iff.mpr since)]
  obtain ⟨notLater, lessEarlier⟩ := cut_bounds cut
  refine ⟨_, seconds.add part, ofUnix_of_nonneg finite since, rfl, fraction, low, below,
    toUnix_int hs hp, cut, notLater, lessEarlier, eq_of_ticks finite finiteY ticks, ?_⟩
  exact
    { whole := ⟨seconds, floor ▸ hs, exact⟩
      left := secondsLeft_denotes finite since
      scaled := inTicks_denotes finite since
      back := ⟨seconds, part, by simpa using hs, by simpa using exact, hp, exact', rfl, by
        simpa [split] using exactY⟩ }

/-- A moment in November 2023, with as many digits as a clock gives. -/
def november2023 : Binary64 := .ofWord .double 0x41D954FC4007E6B4

theorem toUnix_ofUnix_exact_november2023 :
    november2023.isFinite = true ∧ 0 ≤ november2023.value ∧
      TimeTag.ofUnix (.float november2023) = .ok ⟨3908988800, 530239488⟩ ∧
      toUnix (.int 3908988800) (.int 530239488) = .ok (.float november2023) := by
  have finite : november2023.isFinite = true := by decide +kernel
  have since : 0 ≤ november2023.value := units_nonneg_iff.mp (by decide +kernel)
  have large : 2 ^ 20 ≤ november2023.value := by
    exact_mod_cast (Binary.natCast_le_value_iff (n := 2 ^ 20)).mpr (by decide +kernel)
  obtain ⟨tag, y, made, -, -, -, -, back, -, -, -, same, -⟩ := toUnix_ofUnix_exact finite since
  have known : TimeTag.ofSeconds november2023 = ⟨3908988800, 530239488⟩ := by decide +kernel
  obtain rfl : tag = ⟨3908988800, 530239488⟩ := by
    rw [ofUnix_float finite, known] at made
    exact (Except.ok.inj made).symm
  exact ⟨finite, since, made, same large ▸ back⟩

end Osc
