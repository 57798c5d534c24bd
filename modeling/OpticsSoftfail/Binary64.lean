import Mathlib.Algebra.Order.Floor.Ring
import Mathlib.Data.Int.Log
import Mathlib.Data.Rat.Floor
import Mathlib.Tactic.Linarith
import Mathlib.Tactic.Ring

namespace OpticsSoftfail

/-!
# Rounding, and the arithmetic of doubles

The finite doubles are elements of an ordered field, and every operation is the
exact one followed by rounding to 53 significant bits.  Exponents are not
bounded: nothing overflows, and the difference of two doubles below the normal
range is exact anyway.  Nothing below mentions the optical services.
-/

section Model

variable {Value : Type} [Field Value] [LinearOrder Value] [FloorRing Value]

/-- The nearest integer; a half goes to the even neighbour. -/
def roundEven (value : Value) : Int :=
  let below := ⌊value⌋
  let rest := value - below
  if rest + rest < 1 then below
  else if 1 < rest + rest then below + 1
  else if below % 2 = 0 then below
  else below + 1

namespace Binary64

/-- The exponent of the leading bit of a positive number. -/
def exponent (value : Value) : Int :=
  if 1 ≤ value then Nat.log 2 ⌊value⌋.toNat
  else -Nat.clog 2 ⌈value⁻¹⌉.toNat

/-- The distance of neighbouring doubles around a positive number. -/
def ulp (value : Value) : Value :=
  ((2 : Nat) : Value) ^ (exponent value - 52)

/-- The double nearest to a number that is not negative. -/
def nearestMagnitude (value : Value) : Value :=
  roundEven (value / ulp value) * ulp value

/-- The double nearest to a number; a tie goes to the even significand. -/
def nearest (value : Value) : Value :=
  if value < 0 then -nearestMagnitude (-value) else nearestMagnitude value

/-- The double of an integer. -/
def ofInt (value : Int) : Value :=
  nearest value

/-- The difference of two doubles. -/
def sub (left right : Value) : Value :=
  nearest (left - right)

/-- The product of two doubles. -/
def mul (left right : Value) : Value :=
  nearest (left * right)

/-- The quotient of two doubles. -/
def div (left right : Value) : Value :=
  nearest (left / right)

/-- The integers from here on have no double, not even after rounding. -/
def overflow : Nat :=
  2 ^ 1024 - 2 ^ 970

end Binary64

end Model

section Integers

/-! ## Rounding to an integer -/

variable {Value : Type} [Field Value] [LinearOrder Value] [FloorRing Value]

theorem floor_le_roundEven (value : Value) : ⌊value⌋ ≤ roundEven value := by
  simp only [roundEven]
  split_ifs <;> omega

theorem roundEven_le_floor_add_one (value : Value) :
    roundEven value ≤ ⌊value⌋ + 1 := by
  simp only [roundEven]
  split_ifs <;> omega

variable [IsStrictOrderedRing Value]

theorem roundEven_mono {low high : Value} (atMost : low ≤ high) :
    roundEven low ≤ roundEven high := by
  rcases (Int.floor_mono atMost).lt_or_eq with below | same
  · calc
      roundEven low ≤ ⌊low⌋ + 1 := roundEven_le_floor_add_one low
      _ ≤ ⌊high⌋ := below
      _ ≤ roundEven high := floor_le_roundEven high
  · -- With one floor between them, the fractional parts decide.
    simp only [roundEven, same]
    have rests :
        low - ⌊high⌋ + (low - ⌊high⌋) ≤ high - ⌊high⌋ + (high - ⌊high⌋) := by
      linarith
    split_ifs with lowSmall highSmall highLarge even lowLarge <;>
      first
        | omega
        | (exfalso; linarith)

/-- An integer is its own nearest integer. -/
theorem roundEven_intCast (value : Int) :
    roundEven (value : Value) = value := by
  simp [roundEven]

/-- The nearest integer to a quotient, by the remainder of the division. -/
theorem roundEven_div (n : Nat) {divisor : Nat} (positive : 0 < divisor) :
    roundEven ((n : Value) / divisor) =
      if divisor < 2 * (n % divisor) ∨
          divisor = 2 * (n % divisor) ∧ n / divisor % 2 = 1 then
        ((n / divisor : Nat) : Int) + 1
      else (n / divisor : Nat) := by
  have below : ⌊(n : Value) / divisor⌋ = ((n / divisor : Nat) : Int) := by
    rw [Int.floor_div_natCast, Int.floor_natCast, Int.natCast_ediv]
  have rest :
      (n : Value) / divisor - ((n / divisor : Nat) : Int) =
        ((n % divisor : Nat) : Value) / divisor := by
    rw [← below]
    exact Int.fract_div_natCast_eq_div_natCast_mod
  have isDivisor : (0 : Value) < divisor := Nat.cast_pos.mpr positive
  simp only [roundEven, below, rest, ← add_div, div_lt_one isDivisor,
    one_lt_div isDivisor]
  norm_cast
  split_ifs <;> omega

end Integers

namespace Binary64

variable {Value : Type} [Field Value] [LinearOrder Value] [FloorRing Value]

theorem ulp_eq (value : Value) : ulp value = 2 ^ (exponent value - 52) := by
  rw [ulp, Nat.cast_ofNat]

variable [IsStrictOrderedRing Value]

section Magnitudes

/-! ## Positive numbers -/

variable {value low high : Value}

theorem two_zpow_exponent_le (positive : 0 < value) :
    2 ^ exponent value ≤ value := by
  have bound : ((2 : Nat) : Value) ^ Int.log 2 value ≤ value :=
    Int.zpow_log_le_self one_lt_two positive
  exact_mod_cast bound

theorem lt_two_zpow_exponent (value : Value) :
    value < 2 ^ (exponent value + 1) := by
  have bound : value < ((2 : Nat) : Value) ^ (Int.log 2 value + 1) :=
    Int.lt_zpow_succ_log_self one_lt_two value
  exact_mod_cast bound

theorem ulp_pos (value : Value) : 0 < ulp value := by
  rw [ulp_eq]
  exact zpow_pos two_pos _

/-- The powers from the leading bit on are multiples of the ulp. -/
theorem two_zpow_div_ulp (value : Value) (power : Nat) :
    (2 : Value) ^ (exponent value + power) / ulp value =
      ((2 ^ (52 + power) : Int) : Value) := by
  have distance :
      exponent value + power - (exponent value - 52) =
        ((52 + power : Nat) : Int) := by
    push_cast
    ring
  rw [ulp_eq, ← zpow_sub₀ two_pos.ne', distance, zpow_natCast]
  push_cast
  ring

/-- A number from the power on is not rounded below it. -/
theorem two_zpow_le_nearestMagnitude
    (power : Nat)
    (atLeast : 2 ^ (exponent value + power) ≤ value) :
    2 ^ (exponent value + power) ≤ nearestMagnitude value := by
  have scaled := div_le_div_of_nonneg_right atLeast (ulp_pos value).le
  rw [two_zpow_div_ulp] at scaled
  have rounded := roundEven_mono scaled
  rw [roundEven_intCast] at rounded
  rw [nearestMagnitude, ← div_le_iff₀ (ulp_pos value), two_zpow_div_ulp]
  exact Int.cast_le.mpr rounded

/-- A number up to the power is not rounded above it. -/
theorem nearestMagnitude_le_two_zpow
    (power : Nat)
    (atMost : value ≤ 2 ^ (exponent value + power)) :
    nearestMagnitude value ≤ 2 ^ (exponent value + power) := by
  have scaled := div_le_div_of_nonneg_right atMost (ulp_pos value).le
  rw [two_zpow_div_ulp] at scaled
  have rounded := roundEven_mono scaled
  rw [roundEven_intCast] at rounded
  rw [nearestMagnitude, ← le_div_iff₀ (ulp_pos value), two_zpow_div_ulp]
  exact Int.cast_le.mpr rounded

/-- Rounding does not fall below the leading bit. -/
theorem two_zpow_exponent_le_nearestMagnitude (positive : 0 < value) :
    2 ^ exponent value ≤ nearestMagnitude value := by
  have leading : 2 ^ (exponent value + (0 : Nat)) ≤ value := by
    simpa using two_zpow_exponent_le positive
  simpa using two_zpow_le_nearestMagnitude 0 leading

theorem nearestMagnitude_pos (positive : 0 < value) :
    0 < nearestMagnitude value :=
  (zpow_pos two_pos _).trans_le
    (two_zpow_exponent_le_nearestMagnitude positive)

theorem nearestMagnitude_mono (positive : 0 < low) (atMost : low ≤ high) :
    nearestMagnitude low ≤ nearestMagnitude high := by
  have exponents : exponent low ≤ exponent high :=
    Int.log_mono_right positive atMost
  rcases exponents.lt_or_eq with below | same
  · -- A power of two lies between them.
    calc
      nearestMagnitude low ≤ 2 ^ (exponent low + 1) :=
        nearestMagnitude_le_two_zpow 1 (lt_two_zpow_exponent low).le
      _ ≤ 2 ^ exponent high :=
        zpow_le_zpow_right₀ one_lt_two.le below
      _ ≤ nearestMagnitude high :=
        two_zpow_exponent_le_nearestMagnitude (positive.trans_le atMost)
  · have sameUlp : ulp low = ulp high := by
      rw [ulp, ulp, same]
    rw [nearestMagnitude, nearestMagnitude, sameUlp]
    refine mul_le_mul_of_nonneg_right (Int.cast_le.mpr (roundEven_mono ?_))
      (ulp_pos high).le
    exact div_le_div_of_nonneg_right atMost (ulp_pos high).le

end Magnitudes

section Integers

/-! ## The doubles of integers -/

theorem exponent_natCast {n : Nat} (positive : 0 < n) :
    exponent (n : Value) = Nat.log2 n := by
  have atLeast : (1 : Value) ≤ n := Nat.one_le_cast.mpr positive
  rw [exponent, if_pos atLeast, Int.floor_natCast, Int.toNat_natCast,
    Nat.log2_eq_log_two]

/-- Below `2 ^ 53` the doubles are closer together than the integers. -/
theorem nearestMagnitude_of_log2_lt
    {n : Nat}
    (positive : 0 < n)
    (small : Nat.log2 n < 52) :
    nearestMagnitude (n : Value) = n := by
  obtain ⟨power, isPower⟩ := Nat.exists_eq_add_of_lt small
  have isUlp : ulp (n : Value) = (2 ^ (power + 1))⁻¹ := by
    have distance : (Nat.log2 n : Int) - 52 = -((power + 1 : Nat) : Int) := by
      omega
    rw [ulp_eq, exponent_natCast positive, distance, zpow_neg,
      zpow_natCast]
  have quotient :
      (n : Value) / ulp (n : Value) =
        ((n * 2 ^ (power + 1) : Int) : Value) := by
    rw [isUlp, div_inv_eq_mul]
    push_cast
    rfl
  rw [nearestMagnitude, quotient, roundEven_intCast, ← quotient]
  exact div_mul_cancel₀ _ (ulp_pos _).ne'

end Integers

section Signs

/-! ## All numbers -/

variable {value low high : Value}

@[simp] theorem nearest_zero : nearest (0 : Value) = 0 := by
  simp [nearest, nearestMagnitude, roundEven]

theorem nearest_pos (positive : 0 < value) : 0 < nearest value := by
  rw [nearest, if_neg positive.not_gt]
  exact nearestMagnitude_pos positive

theorem nearest_neg (negative : value < 0) : nearest value < 0 := by
  rw [nearest, if_pos negative]
  exact neg_neg_of_pos (nearestMagnitude_pos (neg_pos.mpr negative))

/-- Rounding keeps the sign. -/
theorem nearest_nonneg_iff : 0 ≤ nearest value ↔ 0 ≤ value := by
  rcases lt_trichotomy value 0 with negative | rfl | positive
  · exact iff_of_false (nearest_neg negative).not_ge negative.not_ge
  · simp
  · exact iff_of_true (nearest_pos positive).le positive.le

theorem nearest_mono (atMost : low ≤ high) : nearest low ≤ nearest high := by
  rcases lt_or_ge low 0 with lowNegative | lowNonneg
  · rcases lt_or_ge high 0 with highNegative | highNonneg
    · rw [nearest, nearest, if_pos lowNegative, if_pos highNegative,
        neg_le_neg_iff]
      exact nearestMagnitude_mono (neg_pos.mpr highNegative)
        (neg_le_neg atMost)
    · exact (nearest_neg lowNegative).le.trans
        (nearest_nonneg_iff.mpr highNonneg)
  · rcases lowNonneg.eq_or_lt with rfl | lowPositive
    · rw [nearest_zero]
      exact nearest_nonneg_iff.mpr atMost
    · rw [nearest, nearest, if_neg lowPositive.not_gt,
        if_neg (lowPositive.trans_le atMost).not_gt]
      exact nearestMagnitude_mono lowPositive atMost

/-- A difference is negative exactly when the subtrahend is larger. -/
theorem sub_nonneg_iff {left right : Value} :
    0 ≤ sub left right ↔ right ≤ left := by
  rw [sub, nearest_nonneg_iff, sub_nonneg]

/-- A smaller subtrahend gives no smaller difference. -/
theorem sub_anti
    {left smaller larger : Value}
    (atMost : smaller ≤ larger) :
    sub left larger ≤ sub left smaller :=
  nearest_mono (by linarith)

end Signs

/-- Integers of 64 bits have a double. -/
theorem lt_overflow {magnitude : Nat} (small : magnitude ≤ 2 ^ 63) :
    magnitude < overflow :=
  small.trans_lt (by decide +kernel)

/-- Two stamps 300 s apart, whose doubles are a little less apart. -/
example :
    sub (div 512002 1000) (div 212002 1000) < (300 : Rat) := by
  decide +kernel

end Binary64

end OpticsSoftfail
