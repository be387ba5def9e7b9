import Mathlib.Tactic
import Osc.Text.Numeral

/-!
Numerals that are digits and nothing else. Among digits no blank, no sign and no underscore is
found, so such a numeral is read when all of its digits are decimal ones, of whatever script, and
when there are not too many of them; and a number in decimal, with any zeros in front, is read as
itself.
-/

namespace Osc

namespace CodePoint

/-- What is found in a table stands in one of its ranges. -/
theorem exists_range {n : Nat} {ranges : List (Nat × Nat)} (h : inRanges n ranges = true) :
    ∃ r ∈ ranges, r.1 ≤ n ∧ n ≤ r.2 := by
  induction ranges with
  | nil => cases h
  | cons range rest ih =>
    rw [inRanges] at h
    split_ifs at h with below within
    · exact ⟨range, List.mem_cons_self, by omega, within⟩
    · obtain ⟨r, member, inside⟩ := ih h
      exact ⟨r, List.mem_cons_of_mem _ member, inside⟩

/-- A decimal digit stands in the run that starts with some zero. -/
theorem exists_zero {n v : Nat} {zeros : List Nat} (h : decimalValueIn n zeros = some v) :
    ∃ first ∈ zeros, first ≤ n ∧ n ≤ first + 9 := by
  induction zeros with
  | nil => cases h
  | cons first rest ih =>
    rw [decimalValueIn] at h
    split_ifs at h with below within
    · exact ⟨first, List.mem_cons_self, by omega, by omega⟩
    · obtain ⟨other, member, inside⟩ := ih h
      exact ⟨other, List.mem_cons_of_mem _ member, inside⟩

/-- The ranges of all digits. -/
def digitRanges : List (Nat × Nat) := decimalZeros.map (fun first => (first, first + 9)) ++ otherDigits

private theorem exists_digitRange {c : CodePoint} (h : c.isDigit = true) :
    ∃ r ∈ digitRanges, r.1 ≤ c.val ∧ c.val ≤ r.2 := by
  rw [isDigit, Bool.or_eq_true, Option.isSome_iff_exists] at h
  rcases h with ⟨v, decimal⟩ | other
  · obtain ⟨first, member, inside⟩ := exists_zero decimal
    exact ⟨(first, first + 9), List.mem_append_left _ (List.mem_map_of_mem member), inside⟩
  · obtain ⟨r, member, inside⟩ := exists_range other
    exact ⟨r, List.mem_append_right _ member, inside⟩

/-- What stands in a range of one table is not found in a table whose ranges are all apart from
those of the first. -/
theorem inRanges_apart (ranges : List (Nat × Nat)) {n : Nat} {others : List (Nat × Nat)}
    (apart : ∀ s ∈ others, ∀ r ∈ ranges, r.2 < s.1 ∨ s.2 < r.1)
    (h : ∃ r ∈ ranges, r.1 ≤ n ∧ n ≤ r.2) : inRanges n others = false := by
  obtain ⟨r, member, low, high⟩ := h
  rw [← Bool.not_eq_true]
  intro found
  obtain ⟨s, other, low', high'⟩ := exists_range found
  rcases apart s other r member with before | behind
  · omega
  · omega

theorem isBlank_of_isDigit {c : CodePoint} (h : c.isDigit = true) : c.isBlank = false :=
  inRanges_apart digitRanges (by decide +kernel) (exists_digitRange h)

private theorem isDigit_of_decimal {c : CodePoint} {v : Nat} (h : c.decimalValue? = some v) :
    c.isDigit = true := by
  rw [isDigit, h]
  rfl

end CodePoint

namespace Numeral

/-- Decimal digits for a number, most significant first, and no more of them than are read. -/
structure Spells (t : Text) (n : Nat) : Prop where
  nonempty : t ≠ []
  short : t.length ≤ maxDigits
  digits : ∃ ds, t.map CodePoint.decimalValue? = ds.map some ∧ value ds = n

theorem Spells.decimal {t : Text} {n : Nat} (h : Spells t n) {c : CodePoint} (member : c ∈ t) :
    ∃ v, c.decimalValue? = some v := by
  obtain ⟨ds, spelled, -⟩ := h.digits
  have valued := spelled ▸ List.mem_map_of_mem (f := CodePoint.decimalValue?) member
  obtain ⟨v, -, same⟩ := List.mem_map.mp valued
  exact ⟨v, same.symm⟩

theorem Spells.isDigit {t : Text} {n : Nat} (h : Spells t n) :
    ∀ c ∈ t, CodePoint.isDigit c = true := by
  intro c member
  obtain ⟨v, decimal⟩ := h.decimal member
  exact CodePoint.isDigit_of_decimal decimal

/-- Decimal digits are all taken. -/
theorem digits_of_decimal {t : Text} {ds : List Nat} {afterDigit : Bool}
    (spelled : t.map CodePoint.decimalValue? = ds.map some) (start : afterDigit = true ∨ t ≠ []) :
    digits afterDigit t = some (ds, []) := by
  induction t generalizing ds afterDigit with
  | nil =>
    cases List.map_eq_nil_iff.mp spelled.symm
    rcases start with rfl | absent
    · rfl
    · exact absurd rfl absent
  | cons c t ih =>
    cases ds with
    | nil => cases spelled
    | cons d ds =>
      obtain ⟨first, rest⟩ := List.cons.inj spelled
      rw [digits, first]
      simp only [ih rest (.inl rfl), Option.map_some]

/-- What is taken where no underscore stands are decimal digits. -/
theorem decimal_of_digits {t rest : Text} {ds : List Nat} {afterDigit : Bool}
    (plain : underscore ∉ t) (h : digits afterDigit t = some (ds, rest)) :
    ∃ front, t = front ++ rest ∧ front.map CodePoint.decimalValue? = ds.map some := by
  induction t generalizing ds afterDigit with
  | nil =>
    rw [digits] at h
    split_ifs at h
    cases h
    exact ⟨[], rfl, rfl⟩
  | cons c t ih =>
    rw [List.mem_cons, not_or] at plain
    rw [digits] at h
    split at h
    · next v decimal =>
      obtain ⟨⟨ds', rest'⟩, taken, same⟩ := Option.map_eq_some_iff.mp h
      cases same
      obtain ⟨front, rfl, spelled⟩ := ih plain.2 taken
      exact ⟨c :: front, rfl, by rw [List.map_cons, decimal, spelled, List.map_cons]⟩
    · split_ifs at h with first under
      · exact absurd under.symm plain.1
      · cases h
        exact ⟨[], rfl, rfl⟩

section

variable {t : Text} (all : ∀ c ∈ t, CodePoint.isDigit c = true)

include all

private theorem underscore_notMem : underscore ∉ t := by
  intro member
  exact absurd (all underscore member) (by decide)

/-- Nothing stands around digits. -/
theorem sign_dropWhile : sign (t.dropWhile CodePoint.isBlank) = (false, t) := by
  cases t with
  | nil => rfl
  | cons c t =>
    have digit := all c List.mem_cons_self
    rw [List.dropWhile_cons, CodePoint.isBlank_of_isDigit digit, if_neg Bool.false_ne_true, sign]
    split_ifs with minus plus
    · exact absurd (minus ▸ digit) (by decide)
    · exact absurd (plus ▸ digit) (by decide)
    · rfl

theorem read_eq_ok_iff {z : Int} : read t = .ok z ↔ ∃ n : Nat, z = n ∧ Spells t n := by
  rw [read, sign_dropWhile all]
  constructor
  · intro h
    simp only [Bool.false_eq_true, if_false] at h
    split at h
    · cases h
    · next ds rest taken =>
      split_ifs at h with long blank
      cases h
      obtain ⟨front, rfl, spelled⟩ := decimal_of_digits (underscore_notMem all) taken
      obtain rfl : rest = [] := by
        cases rest with
        | nil => rfl
        | cons c rest =>
          have digit := all c (List.mem_append_right _ List.mem_cons_self)
          rw [List.all_cons, CodePoint.isBlank_of_isDigit digit] at blank
          cases blank
      have length := congrArg List.length spelled
      rw [List.length_map, List.length_map] at length
      rw [List.append_nil] at taken ⊢
      refine ⟨_, rfl, ?_, by omega, ds, spelled, rfl⟩
      rintro rfl
      cases taken
  · rintro ⟨n, rfl, nonempty, short, ds, spelled, rfl⟩
    have length := congrArg List.length spelled
    rw [List.length_map, List.length_map] at length
    simp only [digits_of_decimal spelled (.inr nonempty)]
    rw [if_neg (by omega)]
    rfl

end

/-! Numbers in decimal. -/

private theorem value_concat (ds : List Nat) (d : Nat) : value (ds ++ [d]) = 10 * value ds + d := by
  simp [value]

private theorem value_zeros (count : Nat) (ds : List Nat) :
    value (List.replicate count 0 ++ ds) = value ds := by
  induction count with
  | zero => rfl
  | succ count ih =>
    rw [List.replicate_succ, List.cons_append, value, List.foldl_cons]
    exact ih

theorem decimalValue?_digitChar {d : Nat} (h : d < 10) :
    CodePoint.decimalValue? (CodePoint.ofChar d.digitChar) = some d := by
  interval_cases d <;> decide

private theorem exists_digits (n : Nat) :
    ∃ ds, (Text.ofNat n).map CodePoint.decimalValue? = ds.map some ∧ value ds = n := by
  induction n using Nat.strong_induction_on with
  | _ n ih =>
    rw [Text.ofNat, Nat.toDigits_eq_if (by omega)]
    split_ifs with small
    · refine ⟨[n], ?_, by rw [value, List.foldl_cons, List.foldl_nil, Nat.zero_add]⟩
      rw [List.map_singleton, List.map_singleton, List.map_singleton, decimalValue?_digitChar small]
    · obtain ⟨ds, spelled, number⟩ := ih (n / 10) (by omega)
      refine ⟨ds ++ [n % 10], ?_, by rw [value_concat, number, Nat.div_add_mod]⟩
      rw [Text.ofNat] at spelled
      rw [List.map_append, List.map_append, List.map_append, spelled, List.map_singleton,
        List.map_singleton, List.map_singleton, decimalValue?_digitChar (Nat.mod_lt n (by omega))]

/-- A number in decimal, with zeros in front. -/
def withZeros (zeros n : Nat) : Text := List.replicate zeros (CodePoint.ofChar '0') ++ Text.ofNat n

theorem spells_withZeros {zeros n : Nat} (short : (withZeros zeros n).length ≤ maxDigits) :
    Spells (withZeros zeros n) n := by
  obtain ⟨ds, spelled, number⟩ := exists_digits n
  have zero : CodePoint.decimalValue? (CodePoint.ofChar '0') = some 0 := by decide
  refine ⟨?_, short, List.replicate zeros 0 ++ ds, ?_, by rw [value_zeros, number]⟩
  · intro nothing
    have none := List.map_eq_nil_iff.mp (List.append_eq_nil_iff.mp nothing).2
    have some_ := Nat.length_toDigits_pos (b := 10) (n := n)
    rw [none] at some_
    exact Nat.lt_irrefl _ some_
  · rw [withZeros, List.map_append, List.map_replicate, spelled, zero, List.map_append,
      List.map_replicate]

end Numeral

end Osc
