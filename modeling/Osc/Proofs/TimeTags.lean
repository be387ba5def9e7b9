import Osc.Clock
import Osc.Proofs.Exactness

/-!
Time tags of points in time. A number of seconds is cut toward zero and what is left is counted
in units of 2 to the power -32, and none of the steps rounds. So from 1970 on a time tag is the
time itself, cut to such units, and the number made of it again is the time cut that way.
Before 1970 the whole part lies above the time, but the fraction still counts from below: the
time tag of a time that is no whole second there is one second late.
-/

namespace Osc

open Floating (Binary Binary64 Format unitsLog)

section Definitions

/-- The seconds beside the whole ones, as they are computed. -/
def secondsLeft (x : Binary64) : Binary64 :=
  .ofUnits .double (x.units - x.truncate * 2 ^ unitsLog)

/-- A number in units of 2 to the power -32, as it is computed. -/
def inTicks (x : Binary64) : Binary64 := .ofUnits .double (x.units * 2 ^ 32)

/-- A number stands for a value exactly. -/
def Floating.Binary.Denotes (x : Binary64) (v : ℚ) : Prop := x.isFinite = true ∧ x.value = v

/-- The units of 2 to the power -32 in a number, cut toward zero. -/
def Floating.Binary.ticks (x : Binary64) : Int := x.units.tdiv (2 ^ (unitsLog - 32))

/-- A time before 1970 that is at least one such unit below a whole second. -/
def Floating.Binary.IsRaised (x : Binary64) : Prop :=
  x.value < 0 ∧ x.value + 1 / 2 ^ 32 ≤ ⌈x.value⌉

/-- Time tags in order, the seconds first. -/
def TimeTag.NotAfter (s t : TimeTag) : Prop :=
  s.seconds < t.seconds ∨ s.seconds = t.seconds ∧ s.fractional ≤ t.fractional

instance (s t : TimeTag) : Decidable (s.NotAfter t) := inferInstanceAs (Decidable (_ ∨ _))

end Definitions

theorem fractionOf_eq (x : Binary64) : fractionOf x = (inTicks (secondsLeft x)).truncate := rfl

theorem natAbs_two_pow (k : Nat) : ((2 : Int) ^ k).natAbs = 2 ^ k := by
  rw [Int.natAbs_pow]
  rfl

theorem natAbs_mul_two_pow (n : Int) (k : Nat) : (n * 2 ^ k).natAbs = n.natAbs * 2 ^ k := by
  rw [Int.natAbs_mul, natAbs_two_pow]

/-- A second is a whole number of ticks. -/
theorem pow_unitsLog {α : Type} [Monoid α] (a : α) :
    a ^ unitsLog = a ^ (unitsLog - 32) * a ^ 32 := by
  have whole : unitsLog = unitsLog - 32 + 32 := rfl
  rw [← pow_add, ← whole]

/-- Whole seconds and what is left of them are whole ticks and what is left of those. -/
theorem tdiv_split (a : Int) (tick second : Nat) :
    a.tdiv (2 ^ (tick + second)) * 2 ^ second + (a.tmod (2 ^ (tick + second))).tdiv (2 ^ tick) =
      a.tdiv (2 ^ tick) := by
  have naturals (n : Nat) :
      n / 2 ^ (tick + second) * 2 ^ second + n % 2 ^ (tick + second) / 2 ^ tick = n / 2 ^ tick := by
    rw [pow_add, Nat.mod_mul_right_div_self, ← Nat.div_div_eq_div_mul, Nat.div_add_mod']
  have cast (n : Nat) := congrArg (Nat.cast : Nat → Int) (naturals n)
  simp only [Nat.cast_add, Nat.cast_mul, Nat.cast_pow, Nat.cast_ofNat, Int.ofNat_tdiv,
    Int.ofNat_tmod] at cast
  obtain ⟨n, rfl | rfl⟩ := a.eq_nat_or_neg
  · exact cast n
  · rw [Int.neg_tdiv, Int.neg_tmod, Int.neg_tdiv, Int.neg_tdiv, ← cast n]
    ring

/-- Division toward zero goes down from numbers that are not negative. -/
theorem tdiv_eq_floor {a : Int} (nonneg : 0 ≤ a) (k : Nat) :
    a.tdiv (2 ^ k) = ⌊(a : ℚ) / (2 ^ k : Nat)⌋ := by
  rw [Rat.floor_intCast_div_natCast, Int.tdiv_eq_ediv_of_nonneg nonneg, Nat.cast_pow,
    Nat.cast_ofNat]

/-- And up from negative ones. -/
theorem tdiv_eq_ceil {a : Int} (negative : a < 0) (k : Nat) :
    a.tdiv (2 ^ k) = ⌈(a : ℚ) / (2 ^ k : Nat)⌉ := by
  rw [Rat.ceil_intCast_div_natCast, Nat.cast_pow, Nat.cast_ofNat,
    ← Int.tdiv_eq_ediv_of_nonneg (by omega), Int.neg_tdiv, neg_neg]

section Steps

variable {x : Binary64}

theorem secondsLeft_exact (finite : x.isFinite = true) :
    (secondsLeft x).isFinite = true ∧ (secondsLeft x).units = x.units.tmod (2 ^ unitsLog) := by
  have rest : x.units - x.truncate * 2 ^ unitsLog = x.units.tmod (2 ^ unitsLog) := by
    rw [Int.tmod_def, Binary.truncate, mul_comm]
  have size : (x.units.tmod (2 ^ unitsLog)).natAbs = x.units.natAbs % 2 ^ unitsLog := by
    rw [Int.natAbs_tmod, natAbs_two_pow]
  rw [secondsLeft, rest]
  refine Binary.ofUnits_exact (k := unitsLog) ?_ ?_ (by decide)
  · rw [size]
    exact (Binary.isShort finite).mod unitsLog
  · rw [size]
    exact Nat.mod_lt _ (Nat.two_pow_pos _)

theorem inTicks_exact (finite : x.isFinite = true) :
    (inTicks (secondsLeft x)).isFinite = true ∧
      (inTicks (secondsLeft x)).units = x.units.tmod (2 ^ unitsLog) * 2 ^ 32 := by
  have size : (x.units.tmod (2 ^ unitsLog) * 2 ^ 32).natAbs =
      x.units.natAbs % 2 ^ unitsLog * 2 ^ 32 := by
    rw [natAbs_mul_two_pow, Int.natAbs_tmod, natAbs_two_pow]
  rw [inTicks, (secondsLeft_exact finite).2]
  refine Binary.ofUnits_exact (k := unitsLog + 32) ?_ ?_ (by decide)
  · rw [size]
    exact ((Binary.isShort finite).mod unitsLog).mul 32
  · have below : x.units.natAbs % 2 ^ unitsLog < 2 ^ unitsLog := Nat.mod_lt _ (Nat.two_pow_pos _)
    rw [size, pow_add]
    generalize 2 ^ unitsLog = second at below ⊢
    omega

/-- The fraction counts whole ticks, and nothing about it is rounded. -/
theorem fractionOf_finite (finite : x.isFinite = true) :
    fractionOf x = (x.units.tmod (2 ^ unitsLog)).tdiv (2 ^ (unitsLog - 32)) := by
  rw [fractionOf_eq, Binary.truncate, (inTicks_exact finite).2]
  nth_rewrite 2 [pow_unitsLog]
  exact Int.mul_tdiv_mul_of_pos_left _ _ (by decide)

/-- A time in ticks is its whole seconds and its fraction. -/
theorem ticks_split (finite : x.isFinite = true) :
    x.truncate * 2 ^ 32 + fractionOf x = x.ticks := by
  have whole : unitsLog - 32 + 32 = unitsLog := rfl
  have split := tdiv_split x.units (unitsLog - 32) 32
  rw [whole] at split
  rw [fractionOf_finite finite, Binary.truncate, Binary.ticks]
  exact split

/-- The fraction is less than a second. -/
theorem natAbs_fractionOf_lt (finite : x.isFinite = true) : (fractionOf x).natAbs < 2 ^ 32 := by
  have below : x.units.natAbs % 2 ^ unitsLog < 2 ^ unitsLog := Nat.mod_lt _ (Nat.two_pow_pos _)
  rw [fractionOf_finite finite, Int.natAbs_tdiv, Int.natAbs_tmod, natAbs_two_pow, natAbs_two_pow]
  apply Nat.div_lt_of_lt_mul
  rwa [← pow_unitsLog]

theorem truncate_of_nonneg (nonneg : 0 ≤ x.units) : x.truncate = ⌊x.value⌋ :=
  tdiv_eq_floor nonneg unitsLog

private theorem truncate_of_neg (negative : x.units < 0) : x.truncate = ⌈x.value⌉ :=
  tdiv_eq_ceil negative unitsLog

/-- A tick is one of 2 to the power 32 parts of a second. -/
theorem units_div_tick (n : Int) :
    (n : ℚ) / (2 ^ unitsLog : Nat) * 2 ^ 32 = n / (2 ^ (unitsLog - 32) : Nat) := by
  rw [pow_unitsLog, Nat.cast_mul, Nat.cast_pow 2 32, Nat.cast_ofNat]
  field_simp

theorem ticks_of_nonneg (nonneg : 0 ≤ x.units) : x.ticks = ⌊x.value * 2 ^ 32⌋ := by
  rw [Binary.value, units_div_tick]
  exact tdiv_eq_floor nonneg (unitsLog - 32)

private theorem ticks_of_neg (negative : x.units < 0) : x.ticks = ⌈x.value * 2 ^ 32⌉ := by
  rw [Binary.value, units_div_tick]
  exact tdiv_eq_ceil negative (unitsLog - 32)

/-- Fractions are negative where the whole second lies a tick or more above the time. -/
theorem fractionOf_neg_iff (finite : x.isFinite = true) : fractionOf x < 0 ↔ x.IsRaised := by
  have split := ticks_split finite
  rw [Binary.IsRaised, Binary.value_neg_iff]
  rcases lt_or_ge x.units 0 with negative | nonneg
  · rw [truncate_of_neg negative, ticks_of_neg negative] at split
    have before : fractionOf x < 0 ↔ ⌈x.value * 2 ^ 32⌉ ≤ ⌈x.value⌉ * 2 ^ 32 - 1 := by omega
    rw [before, Int.ceil_le]
    push_cast
    refine ⟨fun h => ⟨negative, ?_⟩, fun h => ?_⟩
    · linarith
    · linarith [h.2]
  · have later : 0 ≤ fractionOf x := by
      rw [fractionOf_finite finite]
      exact Int.tdiv_nonneg (Int.tmod_nonneg _ nonneg) (by positivity)
    exact iff_of_false (by omega) fun h => by omega

/-- The fraction of a time tag is below a second, and in ticks the time tag is the time, with
a second more when that was raised. -/
theorem ofSeconds_ticks (finite : x.isFinite = true) :
    let tag := TimeTag.ofSeconds x
    let total := (tag.seconds - epochOffset) * 2 ^ 32 + tag.fractional
    0 ≤ tag.fractional ∧ tag.fractional < 2 ^ 32 ∧
      (x.IsRaised → total = x.ticks + 2 ^ 32) ∧ (¬ x.IsRaised → total = x.ticks) := by
  have split := ticks_split finite
  have bound := natAbs_fractionOf_lt finite
  simp only [← fractionOf_neg_iff finite, TimeTag.ofSeconds]
  omega

theorem ofUnix_float (finite : x.isFinite = true) :
    TimeTag.ofUnix (.float x) = .ok (.ofSeconds x) := by
  obtain ⟨number, proper⟩ := Binary.not_special finite
  simp only [TimeTag.ofUnix, Value.toInteger, number, proper]
  rfl

private theorem ticks_mono {y : Binary64} (before : x.value ≤ y.value) : x.ticks ≤ y.ticks :=
  Int.tdiv_le_tdiv (by positivity) (Binary.value_le_iff.mp before)

/-- Below 2 to the power 32 fractions compare like the rest of a count of ticks. -/
theorem notAfter_iff {s t : TimeTag} (hs : 0 ≤ s.fractional ∧ s.fractional < 2 ^ 32)
    (ht : 0 ≤ t.fractional ∧ t.fractional < 2 ^ 32) :
    s.NotAfter t ↔ (s.seconds - epochOffset) * 2 ^ 32 + s.fractional ≤
      (t.seconds - epochOffset) * 2 ^ 32 + t.fractional := by
  rw [TimeTag.NotAfter]
  omega

end Steps

/-- Time tags are in the order of their times, except that one before 1970 that is no whole
second is a second late: so it comes after that of a later time if that is not late too and
less than a second of whole ticks away. -/
theorem ofUnix_notAfter_iff {x y : Binary64} (hx : x.isFinite = true) (hy : y.isFinite = true)
    (before : x.value ≤ y.value) :
    ∃ s t, TimeTag.ofUnix (.float x) = .ok s ∧ TimeTag.ofUnix (.float y) = .ok t ∧
      (s.NotAfter t ↔ (x.IsRaised → y.IsRaised ∨ x.ticks + 2 ^ 32 ≤ y.ticks)) := by
  refine ⟨_, _, ofUnix_float hx, ofUnix_float hy, ?_⟩
  obtain ⟨lowX, highX, raisedX, levelX⟩ := ofSeconds_ticks hx
  obtain ⟨lowY, highY, raisedY, levelY⟩ := ofSeconds_ticks hy
  have order := ticks_mono before
  rw [notAfter_iff ⟨lowX, highX⟩ ⟨lowY, highY⟩]
  by_cases rx : x.IsRaised
  · by_cases ry : y.IsRaised
    · rw [raisedX rx, raisedY ry]
      simp only [ry, true_or, implies_true, iff_true]
      omega
    · rw [raisedX rx, levelY ry]
      simp only [rx, ry, false_or, forall_const]
  · rw [levelX rx]
    simp only [rx, false_implies, iff_true]
    by_cases ry : y.IsRaised
    · rw [raisedY ry]
      omega
    · rw [levelY ry]
      omega

/-- Three quarters of a second before 1970. -/
def threeQuartersBefore : Binary64 := .ofWord .double 0xBFE8000000000000

/-- A quarter of a second after the start of 1970. -/
def quarterAfter : Binary64 := .ofWord .double 0x3FD0000000000000

/-- A second apart these two are still in order: that second is the one the first is late. -/
theorem ofUnix_notAfter_iff_secondApart :
    threeQuartersBefore.isFinite = true ∧ quarterAfter.isFinite = true ∧
      threeQuartersBefore.value ≤ quarterAfter.value ∧
      threeQuartersBefore.ticks + 2 ^ 32 = quarterAfter.ticks ∧
      ∃ s t, TimeTag.ofUnix (.float threeQuartersBefore) = .ok s ∧
        TimeTag.ofUnix (.float quarterAfter) = .ok t ∧ s.NotAfter t := by
  have finite : threeQuartersBefore.isFinite = true := by decide +kernel
  have finite' : quarterAfter.isFinite = true := by decide +kernel
  have before : threeQuartersBefore.value ≤ quarterAfter.value :=
    Binary.value_le_iff.mpr (by decide +kernel)
  have apart : threeQuartersBefore.ticks + 2 ^ 32 = quarterAfter.ticks := by decide +kernel
  obtain ⟨s, t, hs, ht, order⟩ := ofUnix_notAfter_iff finite finite' before
  exact ⟨finite, finite', before, apart, s, t, hs, ht, order.mpr fun _ => .inr apart.le⟩

/-- Three quarters of a second before 1970 come after its start. -/
theorem ofUnix_backwards :
    ∃ x y : Binary64, x.isFinite = true ∧ y.isFinite = true ∧ x.value ≤ y.value ∧
      ∃ s t, TimeTag.ofUnix (.float x) = .ok s ∧ TimeTag.ofUnix (.float y) = .ok t ∧
        ¬ s.NotAfter t :=
  ⟨threeQuartersBefore, .ofWord .double 0, by decide +kernel, by decide +kernel,
    Binary.value_le_iff.mpr (by decide +kernel), _, _, ofUnix_float (by decide +kernel),
    ofUnix_float (by decide +kernel), by decide +kernel⟩

end Osc
