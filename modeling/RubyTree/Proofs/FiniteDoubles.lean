import Mathlib
import RubyTree.Json.Number

/-!
Doubles that stay finite. Numbers of a document are reckoned from 64 binary digits by dividing by powers
of ten, so they never come near infinity; only a product can overflow, and it is checked.
-/

namespace RubyTree

namespace Binary64

theorem roundDiv_le (numerator denominator : Nat) :
    roundDiv numerator denominator ≤ numerator / denominator + 1 := by
  unfold roundDiv
  dsimp only
  split <;> omega

theorem le_roundDiv (numerator denominator : Nat) :
    numerator / denominator ≤ roundDiv numerator denominator := by
  unfold roundDiv
  dsimp only
  split <;> omega

/-- The quotient as it is before rounding, cut off to 53 binary digits. -/
theorem div_shift (scaled denominator shift : Nat) :
    scaled / (denominator * 2 ^ shift) = scaled / denominator / 2 ^ shift :=
  (Nat.div_div_eq_div_mul ..).symm

theorem nearestMagnitude_eq (numerator denominator : Nat) :
    nearestMagnitude numerator denominator =
      (Nat.log2 (numerator * 2 ^ 1074 / denominator) - 52) * 2 ^ 52 +
        roundDiv (numerator * 2 ^ 1074)
          (denominator * 2 ^ (Nat.log2 (numerator * 2 ^ 1074 / denominator) - 52)) := by
  unfold nearestMagnitude
  generalize 1074 = digits
  rfl

theorem shifted_lt (quotient : Nat) : quotient / 2 ^ (quotient.log2 - 52) < 2 ^ 53 := by
  have digits : quotient < 2 ^ (quotient.log2 + 1) := Nat.lt_log2_self
  apply Nat.div_lt_of_lt_mul
  rw [← Nat.pow_add]
  exact Nat.lt_of_lt_of_le digits (Nat.pow_le_pow_right (by decide) (by omega))

/-- All 53 binary digits are left if there were as many. -/
theorem le_shifted {quotient : Nat} (positive : quotient ≠ 0) (long : 52 ≤ quotient.log2) :
    2 ^ 52 ≤ quotient / 2 ^ (quotient.log2 - 52) := by
  rw [Nat.le_div_iff_mul_le (Nat.two_pow_pos _), ← Nat.pow_add, Nat.add_sub_cancel' long]
  exact Nat.log2_self_le positive

theorem nearestMagnitude_le {numerator denominator k : Nat}
    (small : numerator * 2 ^ 1074 / denominator < 2 ^ (k + 53)) :
    nearestMagnitude numerator denominator ≤ (k + 2) * 2 ^ 52 := by
  rw [nearestMagnitude_eq]
  generalize numerator * 2 ^ 1074 = scaled at *
  have rounded := roundDiv_le scaled (denominator * 2 ^ (Nat.log2 (scaled / denominator) - 52))
  rw [div_shift] at rounded
  generalize scaled / denominator = quotient at *
  have shift : quotient.log2 - 52 ≤ k := by
    rcases Nat.eq_zero_or_pos quotient with rfl | positive
    · simp
    · have := (Nat.log2_lt (by omega)).mpr small
      omega
  rw [Nat.add_mul]
  exact Nat.add_le_add (Nat.mul_le_mul_right _ shift) (Nat.le_trans rounded (shifted_lt quotient))

theorem le_nearestMagnitude {numerator denominator k : Nat}
    (large : 2 ^ (k + 52) ≤ numerator * 2 ^ 1074 / denominator) :
    (k + 1) * 2 ^ 52 ≤ nearestMagnitude numerator denominator := by
  rw [nearestMagnitude_eq]
  generalize numerator * 2 ^ 1074 = scaled at *
  have rounded := le_roundDiv scaled (denominator * 2 ^ (Nat.log2 (scaled / denominator) - 52))
  rw [div_shift] at rounded
  generalize scaled / denominator = quotient at *
  have positive : quotient ≠ 0 := by
    have := Nat.two_pow_pos (k + 52)
    omega
  have shift : k + 52 ≤ quotient.log2 := (Nat.le_log2 positive).mpr large
  have cut := le_shifted positive (by omega)
  rw [Nat.add_mul, Nat.one_mul]
  exact Nat.add_le_add (Nat.mul_le_mul_right _ (Nat.le_sub_of_add_le shift)) (Nat.le_trans cut rounded)

theorem units_le {m magnitude : Nat} (small : magnitude ≤ m * 2 ^ 52) :
    units magnitude ≤ 2 ^ (m + 52) := by
  unfold units
  split
  · next subnormal =>
    exact Nat.le_trans (Nat.le_of_lt subnormal) (Nat.pow_le_pow_right (by decide) (by omega))
  · next normal =>
    have exponent : magnitude / 2 ^ 52 ≤ m := Nat.div_le_of_le_mul (by omega)
    have positive : 0 < magnitude / 2 ^ 52 := Nat.div_pos (by omega) (by decide)
    calc (2 ^ 52 + magnitude % 2 ^ 52) * 2 ^ (magnitude / 2 ^ 52 - 1)
        ≤ 2 ^ 53 * 2 ^ (m - 1) :=
          Nat.mul_le_mul (by omega) (Nat.pow_le_pow_right (by decide) (by omega))
      _ = 2 ^ (m + 52) := by rw [← Nat.pow_add]; congr 1; omega

theorem le_units {m magnitude : Nat} (large : (m + 1) * 2 ^ 52 ≤ magnitude) :
    2 ^ (m + 52) ≤ units magnitude := by
  have exponent : m + 1 ≤ magnitude / 2 ^ 52 := (Nat.le_div_iff_mul_le (by decide)).mpr large
  unfold units
  rw [if_neg (by omega)]
  calc 2 ^ (m + 52) = 2 ^ 52 * 2 ^ m := by rw [← Nat.pow_add, Nat.add_comm]
    _ ≤ (2 ^ 52 + magnitude % 2 ^ 52) * 2 ^ (magnitude / 2 ^ 52 - 1) :=
      Nat.mul_le_mul (by omega) (Nat.pow_le_pow_right (by decide) (by omega))

theorem ofInt_magnitude_le (bits : Nat) (value : Int) (small : value.natAbs < 2 ^ (bits + 53)) :
    (ofInt value).magnitude ≤ (bits + 1076) * 2 ^ 52 := by
  refine Nat.le_trans (Nat.min_le_left _ _) (nearestMagnitude_le (k := bits + 1074) ?_)
  calc value.natAbs * 2 ^ 1074 / 1 = value.natAbs * 2 ^ 1074 := Nat.div_one _
    _ < 2 ^ (bits + 53) * 2 ^ 1074 := Nat.mul_lt_mul_of_pos_right small (pow_pos Nat.two_pos _)
    _ = 2 ^ (bits + 53 + 1074) := (pow_add 2 (bits + 53) 1074).symm
    _ = 2 ^ (bits + 1074 + 53) := congrArg (2 ^ ·) (Nat.add_right_comm bits 53 1074)

theorem le_units_ofInt {value : Int} {bits : Nat} (large : 2 ^ bits ≤ value.natAbs)
    (bound : bits ≤ 1000) : 2 ^ (bits + 1074) ≤ units (ofInt value).magnitude := by
  have scaled : 2 ^ (bits + 1022 + 52) ≤ value.natAbs * 2 ^ 1074 / 1 :=
    calc 2 ^ (bits + 1022 + 52) = 2 ^ (bits + 1074) := congrArg (2 ^ ·) (Nat.add_assoc bits 1022 52)
      _ = 2 ^ bits * 2 ^ 1074 := pow_add 2 bits 1074
      _ ≤ value.natAbs * 2 ^ 1074 := Nat.mul_le_mul_right _ large
      _ = value.natAbs * 2 ^ 1074 / 1 := (Nat.div_one _).symm
  have capped : (bits + 1022 + 1) * 2 ^ 52 ≤ infinite := Nat.mul_le_mul_right _ (by omega)
  exact le_units (Nat.le_min.mpr ⟨le_nearestMagnitude scaled, capped⟩)

/-- Dividing by `2 ^ bits` or more takes as many powers of two off the bound, up to rounding. -/
theorem div_magnitude_le {x y : Binary64} {m bits : Nat} (small : x.magnitude ≤ m * 2 ^ 52)
    (large : 2 ^ (bits + 1074) ≤ units y.magnitude) :
    (x.div y).magnitude ≤ (m - bits + 2) * 2 ^ 52 := by
  refine Nat.le_trans (Nat.min_le_left _ _) (nearestMagnitude_le ?_)
  have numerator : units x.magnitude * 2 ^ 1074 ≤ 2 ^ (m - bits + 52) * 2 ^ (bits + 1074) :=
    calc units x.magnitude * 2 ^ 1074 ≤ 2 ^ (m + 52) * 2 ^ 1074 :=
          Nat.mul_le_mul_right _ (units_le small)
      _ = 2 ^ (m + 52 + 1074) := (pow_add ..).symm
      _ ≤ 2 ^ (m - bits + 52 + (bits + 1074)) := Nat.pow_le_pow_right (by decide) (by omega)
      _ = 2 ^ (m - bits + 52) * 2 ^ (bits + 1074) := Nat.pow_add ..
  calc units x.magnitude * 2 ^ 1074 / units y.magnitude
      ≤ 2 ^ (m - bits + 52) * 2 ^ (bits + 1074) / 2 ^ (bits + 1074) :=
        Nat.div_le_div numerator large (Nat.ne_of_gt (Nat.two_pow_pos _))
    _ = 2 ^ (m - bits + 52) := Nat.mul_div_cancel _ (Nat.two_pow_pos _)
    _ < 2 ^ (m - bits + 53) := Nat.pow_lt_pow_right (by decide) (by omega)

theorem isFinite_of_magnitude_le {x : Binary64} {m : Nat} (small : x.magnitude ≤ m * 2 ^ 52)
    (bound : m ≤ 2046) : x.isFinite = true := by
  have below : x.magnitude < infinite :=
    Nat.lt_of_le_of_lt (Nat.le_trans small (Nat.mul_le_mul_right _ bound)) (by decide)
  simpa [isFinite] using below

/-- Integers of 64 bits, with or without sign, are far below infinity. -/
theorem ofInt_isFinite {value : Int} (small : value.natAbs < 2 ^ 64) :
    (ofInt value).isFinite = true :=
  isFinite_of_magnitude_le (ofInt_magnitude_le 11 value small) (by decide)

@[simp] theorem withSign_isFinite (negative : Bool) (x : Binary64) :
    (x.withSign negative).isFinite = x.isFinite := rfl

end Binary64

namespace Json

open Binary64

theorem le_units_tenPow {bits power : Nat} (large : 2 ^ bits ≤ 10 ^ power) (bound : bits ≤ 1000) :
    2 ^ (bits + 1074) ≤ units (ofInt (10 ^ power)).magnitude := by
  apply le_units_ofInt _ bound
  rw [Int.natAbs_pow]
  exact large

/-- Division by powers of ten never leads out of the finite doubles: all steps but the last shrink the
number by more than rounding can enlarge it. -/
theorem divPow10_magnitude_le {x : Binary64} {m : Nat} (power : Nat)
    (small : x.magnitude ≤ m * 2 ^ 52) (room : 2 ≤ m) :
    (divPow10 x power).magnitude ≤ (m + 2) * 2 ^ 52 := by
  fun_induction divPow10 x power with
  | case1 x power last =>
    have one : 2 ^ 0 ≤ 10 ^ power := Nat.pow_pos (by decide)
    have step := div_magnitude_le small (le_units_tenPow one (by decide))
    rwa [Nat.sub_zero] at step
  | case2 x power more zero => exact Nat.le_trans small (Nat.mul_le_mul_right _ (by omega))
  | case3 x power more positive ih =>
    have four : 2 ^ 2 ≤ 10 ^ 308 :=
      Nat.le_trans (by decide : 2 ^ 2 ≤ 10 ^ 1)
        (pow_le_pow_right₀ (a := 10) (m := 1) (n := 308) (by decide) (by decide))
    have step := div_magnitude_le small (le_units_tenPow four (by decide))
    rw [Nat.sub_add_cancel room] at step
    exact ih step

theorem scale?_isFinite {x y : Binary64} {exponent : Int} (small : x.magnitude ≤ 1087 * 2 ^ 52)
    (scaled : scale? x exponent = some y) : y.isFinite = true := by
  unfold scale? at scaled
  split at scaled
  · cases scaled
    exact isFinite_of_magnitude_le (divPow10_magnitude_le _ small (by decide)) (by decide)
  split at scaled
  · cases scaled
    exact isFinite_of_magnitude_le small (by decide)
  split at scaled
  · cases scaled
  · dsimp only at scaled
    split at scaled
    · cases scaled
      assumption
    · cases scaled

theorem takeDigits_lt {significand : Nat} (digits : List Char) (small : significand < 2 ^ 64) :
    (takeDigits significand digits).1 < 2 ^ 64 := by
  induction digits generalizing significand with
  | nil => exact small
  | cons digit rest ih =>
    simp only [takeDigits]
    split
    · next fits => exact ih fits
    · exact small

namespace Literal

theorem float?_isFinite {literal : Literal} {significand : Nat} {exponent : Int} {x : Binary64}
    (small : significand < 2 ^ 64) (value : literal.float? significand exponent = some (.float x)) :
    x.isFinite = true := by
  obtain ⟨y, scaled, signed⟩ := Option.map_eq_some_iff.mp value
  cases signed
  rw [withSign_isFinite]
  exact scale?_isFinite (ofInt_magnitude_le 11 significand small) scaled

theorem integer_isFinite {literal : Literal} {value : Nat} {x : Binary64} (small : value < 2 ^ 64)
    (isFloat : literal.integer value = .float x) : x.isFinite = true := by
  unfold integer at isFloat
  split at isFloat
  · cases isFloat
  split at isFloat
  · cases isFloat
    exact ofInt_isFinite (by simpa using small)
  · cases isFloat

/-- Every double that a number of a document is read as is finite. -/
theorem value?_isFinite {literal : Literal} {x : Binary64}
    (value : literal.value? = some (.float x)) : x.isFinite = true := by
  have whole := takeDigits_lt literal.whole (by decide : 0 < 2 ^ 64)
  have all := takeDigits_lt literal.fraction whole
  unfold value? at value
  dsimp only at value
  split at value
  · exact integer_isFinite whole (Option.some.inj value)
  split at value
  · exact float?_isFinite all value
  split at value
  · exact float?_isFinite all value
  split at value
  · exact float?_isFinite (by decide) value
  · cases value

end Literal

end Json

end RubyTree
