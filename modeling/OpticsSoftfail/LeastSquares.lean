import Mathlib.Algebra.BigOperators.Field
import Mathlib.Algebra.Order.BigOperators.Ring.Finset
import Mathlib.Tactic.FieldSimp
import Mathlib.Tactic.LinearCombination
import Mathlib.Tactic.Ring

namespace OpticsSoftfail

/-!
# Lines of least squares

Finitely many points with coordinates in an ordered field are compared with
the line through them by the sum of the squared residuals.  A line whose
residuals add up to zero, both as they are and weighted by the abscissas, has a
smaller sum than any other line, as soon as two abscissas differ.
-/

namespace LeastSquares

variable {Point Value : Type}

section Sums

variable [Field Value]

/-- The sum of the squared residuals of the line `a + b * x`. -/
def sumSquares
    (points : Finset Point)
    (x y : Point → Value)
    (a b : Value) : Value :=
  ∑ point ∈ points, (y point - a - b * x point) ^ 2

/-- The mean of a coordinate. -/
def mean (points : Finset Point) (coordinate : Point → Value) : Value :=
  (∑ point ∈ points, coordinate point) / points.card

/-- The sum of the squared deviations from the mean. -/
def squaredDeviations
    (points : Finset Point)
    (x : Point → Value) : Value :=
  ∑ point ∈ points, (x point - mean points x) * (x point - mean points x)

/-- The slope in terms of the deviations from the means. -/
def slope (points : Finset Point) (x y : Point → Value) : Value :=
  (∑ point ∈ points,
      (x point - mean points x) * (y point - mean points y)) /
    squaredDeviations points x

/-- The residuals of a line are orthogonal to the lines. -/
structure NormalEquations
    (points : Finset Point)
    (x y : Point → Value)
    (a b : Value) : Prop where
  sum_residual : ∑ point ∈ points, (y point - a - b * x point) = 0
  sum_mul_residual :
    ∑ point ∈ points, x point * (y point - a - b * x point) = 0

variable
  {points : Finset Point}
  {x y : Point → Value}
  {a b : Value}

/-- Any other line adds the squares of its distance to the first one. -/
theorem sumSquares_eq_add
    (normal : NormalEquations points x y a b)
    (otherA otherB : Value) :
    sumSquares points x y otherA otherB =
      sumSquares points x y a b +
        ∑ point ∈ points, (otherA - a + (otherB - b) * x point) ^ 2 := by
  have expand (point : Point) :
      (y point - otherA - otherB * x point) ^ 2 =
        (y point - a - b * x point) ^ 2 +
          (otherA - a + (otherB - b) * x point) ^ 2 -
            (2 * (otherA - a) * (y point - a - b * x point) +
              2 * (otherB - b) *
                (x point * (y point - a - b * x point))) := by
    ring
  have orthogonal :
      ∑ point ∈ points,
          (2 * (otherA - a) * (y point - a - b * x point) +
            2 * (otherB - b) *
              (x point * (y point - a - b * x point))) = 0 := by
    rw [Finset.sum_add_distrib, ← Finset.mul_sum, ← Finset.mul_sum,
      normal.sum_residual, normal.sum_mul_residual, mul_zero, mul_zero,
      add_zero]
  rw [sumSquares, Finset.sum_congr rfl fun point _ => expand point,
    Finset.sum_sub_distrib, Finset.sum_add_distrib, orthogonal, sub_zero]
  rfl

/-- The deviations from the mean add up to zero. -/
theorem sum_sub_mean
    (coordinate : Point → Value)
    (count : (points.card : Value) ≠ 0) :
    ∑ point ∈ points, (coordinate point - mean points coordinate) = 0 := by
  rw [Finset.sum_sub_distrib, Finset.sum_const, nsmul_eq_mul, mean,
    mul_div_cancel₀ _ count, sub_self]

/-- The line through the means with the slope solves the equations. -/
theorem normalEquations_slope
    (count : (points.card : Value) ≠ 0)
    (spread : squaredDeviations points x ≠ 0) :
    NormalEquations points x y
      (mean points y - slope points x y * mean points x)
      (slope points x y) := by
  have residual (point : Point) :
      y point - (mean points y - slope points x y * mean points x) -
          slope points x y * x point =
        (y point - mean points y) -
          slope points x y * (x point - mean points x) := by
    ring
  have sumsToZero :
      ∑ point ∈ points,
        (y point - (mean points y - slope points x y * mean points x) -
          slope points x y * x point) = 0 := by
    rw [Finset.sum_congr rfl fun point _ => residual point,
      Finset.sum_sub_distrib, ← Finset.mul_sum, sum_sub_mean y count,
      sum_sub_mean x count, mul_zero, sub_zero]
  refine ⟨sumsToZero, ?_⟩
  have weighted (point : Point) :
      x point *
          (y point - (mean points y - slope points x y * mean points x) -
            slope points x y * x point) =
        (x point - mean points x) * (y point - mean points y) -
            slope points x y *
              ((x point - mean points x) * (x point - mean points x)) +
          mean points x *
            (y point -
                (mean points y - slope points x y * mean points x) -
              slope points x y * x point) := by
    ring
  rw [Finset.sum_congr rfl fun point _ => weighted point,
    Finset.sum_add_distrib, Finset.sum_sub_distrib, ← Finset.mul_sum,
    ← Finset.mul_sum, sumsToZero, mul_zero, add_zero]
  have defined :
      slope points x y * squaredDeviations points x =
        ∑ point ∈ points,
          (x point - mean points x) * (y point - mean points y) :=
    div_mul_cancel₀ _ spread
  rw [squaredDeviations] at defined
  rw [defined, sub_self]

end Sums

section Order

variable
  [Field Value] [LinearOrder Value] [IsStrictOrderedRing Value]
  {points : Finset Point}
  {x y : Point → Value}
  {a b : Value}

/-- Two different abscissas are not both at the mean. -/
theorem squaredDeviations_pos
    {first second : Point}
    (isFirst : first ∈ points)
    (isSecond : second ∈ points)
    (differ : x first ≠ x second) :
    0 < squaredDeviations points x := by
  apply Finset.sum_pos'
  · exact fun point _ => mul_self_nonneg _
  · by_cases atMean : x first = mean points x
    · refine ⟨second, isSecond, mul_self_pos.mpr (sub_ne_zero.mpr ?_)⟩
      exact fun alsoAtMean => differ (atMean.trans alsoAtMean.symm)
    · exact ⟨first, isFirst, mul_self_pos.mpr (sub_ne_zero.mpr atMean)⟩

/-- The line that solves the equations is better than any other. -/
theorem sumSquares_lt
    (normal : NormalEquations points x y a b)
    {first second : Point}
    (isFirst : first ∈ points)
    (isSecond : second ∈ points)
    (differ : x first ≠ x second)
    {otherA otherB : Value}
    (isOther : otherA ≠ a ∨ otherB ≠ b) :
    sumSquares points x y a b < sumSquares points x y otherA otherB := by
  rw [sumSquares_eq_add normal otherA otherB, lt_add_iff_pos_right]
  apply Finset.sum_pos'
  · exact fun point _ => sq_nonneg _
  · by_contra noneIsPositive
    have meets {point : Point} (member : point ∈ points) :
        otherA - a + (otherB - b) * x point = 0 := by
      by_contra misses
      exact noneIsPositive ⟨point, member, sq_pos_of_ne_zero misses⟩
    have parallel : (otherB - b) * (x first - x second) = 0 := by
      linear_combination meets isFirst - meets isSecond
    have sameSlope : otherB - b = 0 :=
      (mul_eq_zero.mp parallel).resolve_right (sub_ne_zero.mpr differ)
    have sameHeight : otherA - a = 0 := by
      have met := meets isFirst
      rwa [sameSlope, zero_mul, add_zero] at met
    rcases isOther with differs | differs
    · exact differs (sub_eq_zero.mp sameHeight)
    · exact differs (sub_eq_zero.mp sameSlope)

end Order

end LeastSquares

end OpticsSoftfail
