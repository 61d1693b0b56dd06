import Mathlib
import RubyTree.Decimal.Shortest
import RubyTree.Proofs.FiniteDoubles

/-!
The double nearest to a number. Which one it is follows from the two neighbours of a double alone, since
doubles with larger magnitudes stand for larger numbers; so it is the double in whose interval the number
lies, and rounding a quotient finds it.
-/

namespace RubyTree

def signed (negative : Bool) (size : ℚ) : ℚ := if negative then -size else size

namespace Binary64

/-- The number that a finite double stands for. -/
def value (x : Binary64) : ℚ := signed x.negative (units x.magnitude / 2 ^ 1074)

/-- The finite double that a number is rounded to: none is nearer, and if another one is equally near, this
one has the even significand. From halfway between the largest double and 2^1024 on there is none. -/
structure Nearest (number : ℚ) (x : Binary64) : Prop where
  finite : x.isFinite = true
  inRange : |number| < 2 ^ 1024 - 2 ^ 970
  closest : ∀ y : Binary64, y.isFinite = true → |number - x.value| ≤ |number - y.value|
  even : ∀ y : Binary64, y.isFinite = true → y.value ≠ x.value →
    |number - y.value| = |number - x.value| → x.magnitude % 2 = 0

section Units

/-- Doubles of one binade are equally spaced. The power of two above them ends the binade as well. -/
theorem units_binade {shift significand : Nat} (normal : shift = 0 ∨ 2 ^ 52 ≤ significand)
    (most : significand ≤ 2 ^ 53) :
    units (shift * 2 ^ 52 + significand) = significand * 2 ^ shift := by
  unfold units
  split
  · next subnormal =>
    obtain rfl : shift = 0 := by omega
    simp
  · next above =>
    by_cases full : significand = 2 ^ 53
    · have quotient : (shift * 2 ^ 52 + significand) / 2 ^ 52 = shift + 2 := by omega
      have rest : (shift * 2 ^ 52 + significand) % 2 ^ 52 = 0 := by omega
      rw [quotient, rest, full, Nat.add_sub_assoc (by decide), Nat.pow_add]
      ring
    · have quotient : (shift * 2 ^ 52 + significand) / 2 ^ 52 = shift + 1 := by omega
      have rest : (shift * 2 ^ 52 + significand) % 2 ^ 52 = significand - 2 ^ 52 := by omega
      rw [quotient, rest, Nat.add_sub_cancel, Nat.add_sub_cancel' (by omega)]

/-- The next double is one step of the binade further on, or two at its end. -/
theorem le_units_next {shift significand : Nat} (normal : shift = 0 ∨ 2 ^ 52 ≤ significand)
    (most : significand ≤ 2 ^ 53) :
    (significand + 1) * 2 ^ shift ≤ units (shift * 2 ^ 52 + significand + 1) := by
  rcases Nat.lt_or_eq_of_le most with inside | rfl
  · rw [Nat.add_assoc, units_binade (by omega) inside]
  · have start : shift * 2 ^ 52 + 2 ^ 53 + 1 = (shift + 1) * 2 ^ 52 + (2 ^ 52 + 1) := by omega
    rw [start, units_binade (.inr (by omega)) (by omega)]
    calc (2 ^ 53 + 1) * 2 ^ shift ≤ ((2 ^ 52 + 1) * 2) * 2 ^ shift := Nat.mul_le_mul_right _ (by omega)
      _ = (2 ^ 52 + 1) * 2 ^ (shift + 1) := by ring

theorem exists_binade (magnitude : Nat) :
    ∃ shift significand, magnitude = shift * 2 ^ 52 + significand ∧
      (shift = 0 ∨ 2 ^ 52 ≤ significand) ∧ significand < 2 ^ 53 := by
  by_cases subnormal : magnitude < 2 ^ 52
  · exact ⟨0, magnitude, by omega, .inl rfl, by omega⟩
  · exact ⟨magnitude / 2 ^ 52 - 1, 2 ^ 52 + magnitude % 2 ^ 52, by omega, .inr (by omega), by omega⟩

theorem units_zero : units 0 = 0 := rfl

theorem units_strictMono : StrictMono units := by
  apply strictMono_nat_of_lt_succ
  intro magnitude
  obtain ⟨shift, significand, rfl, normal, below⟩ := exists_binade magnitude
  rw [Nat.add_assoc, units_binade normal below.le, units_binade (by omega) below]
  exact Nat.mul_lt_mul_of_pos_right (Nat.lt_succ_self _) (Nat.two_pow_pos _)

end Units

/-- The numbers that are rounded to a magnitude, in multiples of 2^-1074: those between the middles towards
the two neighbours, and the middles themselves if the magnitude is even. -/
structure Within (magnitude : Nat) (number : ℚ) : Prop where
  low : (units (magnitude - 1) + units magnitude : ℚ) ≤ 2 * number
  high : 2 * number ≤ units magnitude + units (magnitude + 1)
  inner : magnitude % 2 = 1 → (units (magnitude - 1) + units magnitude : ℚ) < 2 * number ∧
    2 * number < units magnitude + units (magnitude + 1)

section Nearest

variable {number a b c : ℚ}

/-- Up to the middle between `a` and its neighbour `b`, a number is no nearer to anything beyond `b`. -/
theorem abs_sub_le_of_middle (apart : a < b) (beyond : b ≤ c) (middle : 2 * number ≤ a + b) :
    |number - a| ≤ |number - c| := by
  have far : c - number ≤ |number - c| := by
    rw [abs_sub_comm]
    exact le_abs_self _
  rw [abs_le]
  constructor <;> linarith

theorem abs_sub_lt_of_middle (apart : a < b) (beyond : b ≤ c) (middle : 2 * number < a + b) :
    |number - a| < |number - c| := by
  have far : c - number ≤ |number - c| := by
    rw [abs_sub_comm]
    exact le_abs_self _
  rw [abs_lt]
  constructor <;> linarith

theorem abs_neg_sub_neg (a b : ℚ) : |-a - -b| = |a - b| := by
  rw [neg_sub_neg, abs_sub_comm]

variable {magnitude : Nat}

theorem beyond_neighbour {other : Nat} (different : other ≠ magnitude) :
    (units other : ℚ) ≤ units (magnitude - 1) ∧ (units (magnitude - 1) : ℚ) < units magnitude ∨
      (units (magnitude + 1) : ℚ) ≤ units other ∧ (units magnitude : ℚ) < units (magnitude + 1) := by
  norm_cast
  rcases Nat.lt_or_gt_of_ne different with less | more
  · exact .inl ⟨units_strictMono.monotone (by omega), units_strictMono (by omega)⟩
  · exact .inr ⟨units_strictMono.monotone (by omega), units_strictMono (by omega)⟩

theorem Within.closest (within : Within magnitude number) (other : Nat) :
    |number - units magnitude| ≤ |number - units other| := by
  by_cases different : other = magnitude
  · rw [different]
  rcases beyond_neighbour different with ⟨beyond, apart⟩ | ⟨beyond, apart⟩
  · rw [← abs_neg_sub_neg number, ← abs_neg_sub_neg number]
    exact abs_sub_le_of_middle (neg_lt_neg apart) (neg_le_neg beyond) (by linarith [within.low])
  · exact abs_sub_le_of_middle apart beyond within.high

theorem Within.odd_closest (within : Within magnitude number) (odd : magnitude % 2 = 1) {other : Nat}
    (different : other ≠ magnitude) : |number - units magnitude| < |number - units other| := by
  obtain ⟨low, high⟩ := within.inner odd
  rcases beyond_neighbour different with ⟨beyond, apart⟩ | ⟨beyond, apart⟩
  · rw [← abs_neg_sub_neg number, ← abs_neg_sub_neg number]
    exact abs_sub_lt_of_middle (neg_lt_neg apart) (neg_le_neg beyond) (by linarith)
  · exact abs_sub_lt_of_middle apart beyond high

/-- What is rounded to a finite double lies below the middle between the largest of them and 2^1024. -/
theorem Within.bounded (within : Within magnitude number) (finite : magnitude < infinite) :
    2 * number < units (infinite - 1) + units infinite := by
  have next : (units (magnitude + 1) : ℚ) ≤ units infinite := by
    exact_mod_cast units_strictMono.monotone finite
  rcases Nat.mod_two_eq_zero_or_one magnitude with even | odd
  · have inside : magnitude < infinite - 1 := by
      unfold infinite at *
      omega
    have less : (units magnitude : ℚ) < units (infinite - 1) := by exact_mod_cast units_strictMono inside
    linarith [within.high]
  · have most : (units magnitude : ℚ) ≤ units (infinite - 1) := by
      exact_mod_cast units_strictMono.monotone (by omega)
    linarith [(within.inner odd).2]

theorem units_binade_end (shift : Nat) :
    (units (shift * 2 ^ 52 + (2 ^ 53 - 1)) + units (shift * 2 ^ 52 + 2 ^ 53) : ℚ) =
      (2 ^ 54 - 1) * 2 ^ shift := by
  rw [units_binade (.inr (by decide)) (by decide), units_binade (.inr (by decide)) le_rfl]
  push_cast
  ring

theorem units_infinite :
    (units (infinite - 1) + units infinite : ℚ) = 2 * ((2 ^ 1024 - 2 ^ 970) * 2 ^ 1074) := by
  have last : infinite - 1 = 2045 * 2 ^ 52 + (2 ^ 53 - 1) := by decide
  have next : infinite = 2045 * 2 ^ 52 + 2 ^ 53 := by decide
  have power : (2 : ℚ) ^ 1024 = 2 ^ 54 * 2 ^ 970 := pow_add 2 54 970
  have shift : (2 : ℚ) ^ 2045 = 2 ^ 970 * 2 ^ 1075 := pow_add 2 970 1075
  have double : (2 : ℚ) ^ 1075 = 2 ^ 1074 * 2 := pow_succ 2 1074
  rw [last, next, units_binade_end, shift, power, double]
  generalize (2 : ℚ) ^ 970 = a
  generalize (2 : ℚ) ^ 1074 = b
  ring

section Signs

variable {negative other : Bool} {a b : ℚ}

theorem signed_injective (negative : Bool) : Function.Injective (signed negative) := by
  cases negative
  · exact fun _ _ same => same
  · exact neg_injective

theorem abs_signed_sub : |signed negative a - signed negative b| = |a - b| := by
  cases negative
  · rfl
  · exact abs_neg_sub_neg a b

theorem abs_signed (nonneg : 0 ≤ a) : |signed negative a| = a := by
  cases negative
  · exact abs_of_nonneg nonneg
  · exact (abs_neg a).trans (abs_of_nonneg nonneg)

theorem abs_signed_sub_opposite (opposite : negative ≠ other) (nonneg : 0 ≤ a) (nonneg' : 0 ≤ b) :
    |signed negative a - signed other b| = a + b := by
  have flip : signed other b = -signed negative b := by
    cases negative <;> cases other <;> simp_all [signed]
  have sum : signed negative a - signed other b = signed negative (a + b) := by
    rw [flip]
    cases negative
    · simp [signed]
    · simp [signed]
      ring
  rw [sum, abs_signed (add_nonneg nonneg nonneg')]

theorem le_abs_signed_sub (nonneg : 0 ≤ a) (nonneg' : 0 ≤ b) :
    |a - b| ≤ |signed negative a - signed other b| := by
  by_cases same : negative = other
  · rw [same, abs_signed_sub]
  · rw [abs_signed_sub_opposite same nonneg nonneg', abs_le]
    constructor <;> linarith

end Signs

section Values

variable {size : ℚ}

theorem value_nonneg (magnitude : Nat) : (0 : ℚ) ≤ units magnitude / 2 ^ 1074 := by positivity

theorem abs_sub_units (size : ℚ) (magnitude : Nat) :
    |size - units magnitude / 2 ^ 1074| = |size * 2 ^ 1074 - units magnitude| / 2 ^ 1074 := by
  have positive : (0 : ℚ) < 2 ^ 1074 := by positivity
  generalize (2 : ℚ) ^ 1074 = unit at *
  rw [← abs_of_pos positive, ← abs_div, abs_of_pos positive, sub_div,
    mul_div_cancel_right₀ _ positive.ne']

/-- A number that lies within the bounds of a finite magnitude is rounded to it, with either sign. -/
theorem Within.nearest {x : Binary64} (within : Within x.magnitude (size * 2 ^ 1074))
    (finite : x.isFinite = true) (nonneg : 0 ≤ size) : x.Nearest (signed x.negative size) := by
  have bound : x.magnitude < infinite := by simpa [isFinite] using finite
  have own : |signed x.negative size - x.value| = |size - units x.magnitude / 2 ^ 1074| := abs_signed_sub
  have others (y : Binary64) :
      |size - units y.magnitude / 2 ^ 1074| ≤ |signed x.negative size - y.value| :=
    le_abs_signed_sub nonneg (value_nonneg _)
  have positive : (0 : ℚ) < 2 ^ 1074 := by positivity
  refine ⟨finite, ?_, fun y _ => ?_, fun y _ different tie => ?_⟩
  · rw [abs_signed nonneg]
    have bounded := within.bounded bound
    rw [units_infinite] at bounded
    exact lt_of_mul_lt_mul_right (lt_of_mul_lt_mul_left bounded (by decide)) positive.le
  · rw [own]
    refine le_trans ?_ (others y)
    rw [abs_sub_units, abs_sub_units]
    exact div_le_div_of_nonneg_right (within.closest _) positive.le
  · refine (Nat.mod_two_eq_zero_or_one _).resolve_right fun odd => ?_
    rw [own] at tie
    by_cases same : y.magnitude = x.magnitude
    · -- Only the sign differs, but then zero would be nearer.
      have zero : |size * 2 ^ 1074 - units x.magnitude| < |size * 2 ^ 1074 - units 0| :=
        within.odd_closest odd (by omega)
      have signs : x.negative ≠ y.negative := fun signs => different (by rw [value, value, same, signs])
      have sum : |signed x.negative size - y.value| = size + units x.magnitude / 2 ^ 1074 := by
        rw [value, same]
        exact abs_signed_sub_opposite signs nonneg (value_nonneg _)
      have closer := div_lt_div_of_pos_right zero positive
      rw [← abs_sub_units, ← abs_sub_units, ← tie, sum, units_zero, Nat.cast_zero, zero_div, sub_zero,
        abs_of_nonneg nonneg] at closer
      exact absurd (le_add_of_nonneg_right (value_nonneg _)) (not_le.mpr closer)
    · have closer := within.odd_closest odd same
      have distance := others y
      rw [tie, abs_sub_units, abs_sub_units] at distance
      exact absurd (div_lt_div_of_pos_right closer positive) (not_lt.mpr distance)

theorem abs_sub_lt_of_between {number a b c : ℚ} (equal : |number - a| = |number - c|) (above : a < b)
    (below : b < c) : |number - b| < |number - a| := by
  rcases abs_eq_abs.mp equal with same | middle
  · linarith
  · rw [abs_of_nonneg (show 0 ≤ number - a by linarith), abs_lt]
    constructor <;> linarith

theorem abs_sub_signed (number : ℚ) (negative : Bool) (size : ℚ) :
    |number - signed negative size| = |signed negative number - size| := by
  cases negative
  · rfl
  · rw [signed, signed, if_pos rfl, if_pos rfl, ← abs_neg_sub_neg, neg_neg]

theorem Nearest.not_less {number : ℚ} {x y : Binary64} (first : x.Nearest number)
    (second : y.Nearest number) (signs : x.negative = y.negative) : ¬x.magnitude < y.magnitude := by
  intro less
  have equal : |number - x.value| = |number - y.value| :=
    le_antisymm (first.closest y second.finite) (second.closest x first.finite)
  have ordered {m n : Nat} (less : m < n) : (units m / 2 ^ 1074 : ℚ) < units n / 2 ^ 1074 := by
    have : (units m : ℚ) < units n := by exact_mod_cast units_strictMono less
    exact div_lt_div_of_pos_right this (by positivity)
  have different : x.value ≠ y.value := by
    intro same
    rw [value, value, signs] at same
    exact (ordered less).ne (signed_injective _ same)
  have even := first.even y second.finite different.symm equal.symm
  have even' := second.even x first.finite different equal
  have bound : y.magnitude < infinite := by simpa [isFinite] using second.finite
  have between : x.magnitude + 1 < y.magnitude := by omega
  have nearer := first.closest ⟨x.negative, x.magnitude + 1, lt_trans between y.bound⟩
    (by simp [isFinite]; omega)
  rw [value, value, ← signs, abs_sub_signed, abs_sub_signed] at equal
  rw [value, value, abs_sub_signed, abs_sub_signed] at nearer
  exact absurd (abs_sub_lt_of_between equal (ordered (Nat.lt_succ_self _)) (ordered between))
    (not_lt.mpr nearer)

theorem Nearest.unique {number : ℚ} {x y : Binary64} (first : x.Nearest number)
    (second : y.Nearest number) (signs : x.negative = y.negative) : x = y := by
  have less := first.not_less second signs
  have more := second.not_less first signs.symm
  obtain ⟨negative, magnitude, bound⟩ := x
  obtain rfl : negative = y.negative := signs
  obtain rfl : magnitude = y.magnitude := by
    simp only at less more
    omega
  rfl

end Values

end Nearest

section Rounding

open Decimal

variable {numerator denominator : Nat}

theorem holds_iff {magnitude : Nat} :
    (Interval.ofMagnitude magnitude).holds numerator denominator = true ↔
      (units (magnitude - 1) + units magnitude) * denominator ≤ numerator ∧
      numerator ≤ (units magnitude + units (magnitude + 1)) * denominator ∧
      (magnitude % 2 = 1 → (units (magnitude - 1) + units magnitude) * denominator < numerator ∧
        numerator < (units magnitude + units (magnitude + 1)) * denominator) := by
  rcases Nat.mod_two_eq_zero_or_one magnitude with even | odd
  · simp [Interval.holds, Interval.ofMagnitude, even]
  · have strict : (Interval.ofMagnitude magnitude).holds numerator denominator = true ↔
        (units (magnitude - 1) + units magnitude) * denominator < numerator ∧
          numerator < (units magnitude + units (magnitude + 1)) * denominator := by
      simp [Interval.holds, Interval.ofMagnitude, odd]
    rw [strict]
    omega

theorem Within.of_holds {magnitude : Nat} {number : ℚ} (positive : 0 < denominator)
    (ratio : 2 * number * denominator = numerator)
    (holds : (Interval.ofMagnitude magnitude).holds numerator denominator = true) :
    Within magnitude number := by
  have positive : (0 : ℚ) < denominator := by exact_mod_cast positive
  have above (bound : Nat) : (bound : ℚ) ≤ 2 * number ↔ bound * denominator ≤ numerator := by
    rw [← mul_le_mul_iff_left₀ positive, ratio]
    norm_cast
  have below (bound : Nat) : 2 * number ≤ bound ↔ numerator ≤ bound * denominator := by
    rw [← mul_le_mul_iff_left₀ positive, ratio]
    norm_cast
  obtain ⟨low, high, inner⟩ := holds_iff.mp holds
  refine ⟨?_, ?_, fun odd => ⟨?_, ?_⟩⟩
  · exact_mod_cast (above _).mpr low
  · exact_mod_cast (below _).mpr high
  · exact_mod_cast not_le.mp (mt (below _).mp (not_le.mpr (inner odd).1))
  · exact_mod_cast not_le.mp (mt (above _).mp (not_le.mpr (inner odd).2))

/-- The error of rounding is at most half of the denominator, and less unless the result is even. -/
theorem roundDiv_within (numerator : Nat) (positive : 0 < denominator) :
    2 * (roundDiv numerator denominator * denominator) ≤ 2 * numerator + denominator ∧
      2 * numerator ≤ 2 * (roundDiv numerator denominator * denominator) + denominator ∧
      (roundDiv numerator denominator % 2 = 1 →
        2 * (roundDiv numerator denominator * denominator) < 2 * numerator + denominator ∧
        2 * numerator < 2 * (roundDiv numerator denominator * denominator) + denominator) := by
  have division := Nat.div_add_mod' numerator denominator
  have rest := Nat.mod_lt numerator positive
  have next := Nat.add_one_mul (numerator / denominator) denominator
  unfold roundDiv
  dsimp only
  split
  · next up =>
    simp only [Bool.or_eq_true, Bool.and_eq_true, decide_eq_true_eq, beq_iff_eq] at up
    omega
  · next down =>
    simp only [Bool.or_eq_true, Bool.and_eq_true, decide_eq_true_eq, beq_iff_eq] at down
    omega

/-- The two parts of the nearest magnitude: the binade, and the significand rounded there. -/
theorem nearestMagnitude_binade (numerator denominator : Nat) :
    ∃ shift significand,
      nearestMagnitude numerator denominator = shift * 2 ^ 52 + significand ∧
      roundDiv (numerator * 2 ^ 1074) (denominator * 2 ^ shift) = significand ∧
      significand ≤ 2 ^ 53 ∧
      (shift = 0 ∨ 2 ^ 52 ≤ numerator * 2 ^ 1074 / (denominator * 2 ^ shift)) := by
  refine ⟨_, _, nearestMagnitude_eq numerator denominator, rfl, ?_, ?_⟩
  · refine (roundDiv_le _ _).trans ?_
    rw [div_shift]
    exact shifted_lt _
  · rw [div_shift]
    generalize numerator * 2 ^ 1074 / denominator = quotient
    by_cases long : 52 < quotient.log2
    · have positive : quotient ≠ 0 := by
        rintro rfl
        exact absurd long (by decide)
      exact .inr (le_shifted positive (by omega))
    · exact .inl (by omega)

theorem nearestMagnitude_holds (positive : 0 < denominator) :
    (Interval.ofMagnitude (nearestMagnitude numerator denominator)).holds
      (2 * (numerator * 2 ^ 1074)) denominator = true := by
  obtain ⟨shift, significand, magnitude, rounded, most, normal⟩ :=
    nearestMagnitude_binade numerator denominator
  rw [magnitude]
  generalize numerator * 2 ^ 1074 = scaled at *
  have step : 0 < denominator * 2 ^ shift := Nat.mul_pos positive (Nat.two_pow_pos shift)
  have within := roundDiv_within scaled step
  have floor := le_roundDiv scaled (denominator * 2 ^ shift)
  rw [rounded] at within floor
  have scale (count : Nat) : count * 2 ^ shift * denominator = count * (denominator * 2 ^ shift) := by ring
  have own : units (shift * 2 ^ 52 + significand) * denominator = significand * (denominator * 2 ^ shift) := by
    rw [units_binade (by omega) most, scale]
  have next : (significand + 1) * (denominator * 2 ^ shift) ≤
      units (shift * 2 ^ 52 + significand + 1) * denominator := by
    rw [← scale]
    exact Nat.mul_le_mul_right _ (le_units_next (by omega) most)
  -- Below the beginning of a binade the doubles are closer, but nothing is rounded up to it.
  have previous : units (shift * 2 ^ 52 + significand - 1) * denominator + denominator * 2 ^ shift ≤
        significand * (denominator * 2 ^ shift) ∨
      (shift * 2 ^ 52 + significand) % 2 = 0 ∧ significand * (denominator * 2 ^ shift) ≤ scaled := by
    rcases Nat.eq_zero_or_pos significand with rfl | more
    · exact .inr ⟨by omega, by omega⟩
    by_cases inside : shift = 0 ∨ 2 ^ 52 ≤ significand - 1
    · left
      rw [Nat.add_sub_assoc more, units_binade inside (by omega), scale, ← Nat.add_one_mul,
        Nat.sub_add_cancel more]
    · have least : significand = scaled / (denominator * 2 ^ shift) := by omega
      refine .inr ⟨by omega, ?_⟩
      rw [least]
      exact Nat.div_mul_le_self scaled _
  have below : units (shift * 2 ^ 52 + significand - 1) ≤ units (shift * 2 ^ 52 + significand) :=
    units_strictMono.monotone (Nat.sub_le _ _)
  have below := Nat.mul_le_mul_right denominator below
  rw [Nat.add_one_mul] at next
  rw [holds_iff, Nat.add_mul, Nat.add_mul, own]
  rw [own] at below
  refine ⟨?_, ?_, fun odd => ?_⟩
  · omega
  · omega
  · have odd : significand % 2 = 1 := by omega
    omega

/-- Stated for every power, so that none of them is computed. -/
theorem double_ratio_mul (numerator : Nat) (positive : 0 < denominator) (power : Nat) :
    2 * ((numerator / denominator : ℚ) * 2 ^ power) * denominator = (2 * (numerator * 2 ^ power) : Nat) := by
  have nonzero : (denominator : ℚ) ≠ 0 := by exact_mod_cast positive.ne'
  push_cast
  field_simp

/-- Quotients are rounded to the nearest double, unless that is infinite. -/
theorem ofRatio_nearest {negative : Bool} (positive : 0 < denominator)
    (finite : (ofRatio negative numerator denominator).isFinite = true) :
    (ofRatio negative numerator denominator).Nearest (signed negative (numerator / denominator)) := by
  have magnitude : (ofRatio negative numerator denominator).magnitude =
      nearestMagnitude numerator denominator := by
    have below : min (nearestMagnitude numerator denominator) infinite < infinite :=
      of_decide_eq_true finite
    exact min_eq_left (by omega)
  have nonneg : (0 : ℚ) ≤ numerator / denominator := div_nonneg numerator.cast_nonneg denominator.cast_nonneg
  have within : Within (ofRatio negative numerator denominator).magnitude
      (numerator / denominator * 2 ^ 1074) := by
    have ratio := double_ratio_mul numerator positive 1074
    rw [magnitude]
    exact .of_holds positive ratio (nearestMagnitude_holds positive)
  exact within.nearest finite nonneg

theorem signed_natAbs (value : Int) : signed (value < 0) (value.natAbs : ℚ) = value := by
  by_cases negative : value < 0
  · have size : (value.natAbs : ℤ) = -value := by omega
    rw [signed, decide_eq_true negative, if_pos rfl, ← Int.cast_natCast, size, Int.cast_neg, neg_neg]
  · have size : (value.natAbs : ℤ) = value := by omega
    rw [signed, decide_eq_false negative, if_neg Bool.false_ne_true, ← Int.cast_natCast, size]

/-- Integers of 64 bits are rounded to the nearest double; zero is not negative. -/
theorem ofInt_nearest {value : Int} (small : value.natAbs < 2 ^ 64) : (ofInt value).Nearest value := by
  have nearest : (ofInt value).Nearest (signed (value < 0) (value.natAbs / (1 : Nat))) :=
    ofRatio_nearest Nat.one_pos (ofInt_isFinite small)
  rwa [Nat.cast_one, div_one, signed_natAbs] at nearest

end Rounding

section Bits

theorem toBits_ofBits (bits : UInt64) : (ofBits bits).toBits = bits := by
  have bound := bits.toNat_lt
  unfold toBits ofBits
  dsimp only
  by_cases negative : 2 ^ 63 ≤ bits.toNat
  · have whole : 2 ^ 63 + bits.toNat % 2 ^ 63 = bits.toNat := by omega
    rw [decide_eq_true negative, if_pos rfl, whole, UInt64.ofNat_toNat]
  · have whole : bits.toNat % 2 ^ 63 = bits.toNat := Nat.mod_eq_of_lt (by omega)
    rw [decide_eq_false negative, if_neg Bool.false_ne_true, whole, UInt64.ofNat_toNat]

theorem ofBits_toBits (x : Binary64) : ofBits x.toBits = x := by
  obtain ⟨negative, magnitude, bound⟩ := x
  have word {n : Nat} (small : n < 2 ^ 64) : (UInt64.ofNat n).toNat = n := by
    rw [UInt64.toNat_ofNat', Nat.mod_eq_of_lt small]
  cases negative with
  | false =>
    simp only [ofBits, toBits, Bool.false_eq_true, if_false, word (show magnitude < 2 ^ 64 by omega),
      Nat.mod_eq_of_lt bound, decide_eq_false (Nat.not_le.mpr bound)]
  | true =>
    simp only [ofBits, toBits, if_true, word (show 2 ^ 63 + magnitude < 2 ^ 64 by omega),
      Nat.add_mod_left, Nat.mod_eq_of_lt bound, decide_eq_true (Nat.le_add_right (2 ^ 63) magnitude)]

end Bits

end Binary64

end RubyTree
