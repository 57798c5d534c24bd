import Mathlib.Algebra.BigOperators.Fin
import OpticsSoftfail.LeastSquares
import OpticsSoftfail.Statistics

namespace OpticsSoftfail

/-!
# The slope of a window

Both `ols_slope` functions compute the slope of the line of least squares
through the points `(i, values[i])`.  The library speaks about sums over a
finite set of points, here the positions of the list.
-/

namespace OlsSlope

open LeastSquares

variable {Value : Type}

section Positions

variable [Field Value]

/-- The abscissa of a position. -/
def index (values : List Value) (position : Fin values.length) : Value :=
  ((position : Nat) : Value)

/-- The ordinate of a position. -/
def entry (values : List Value) (position : Fin values.length) : Value :=
  values[position]

/-- `denom` of the Python function. -/
def pythonDenom (n : Nat) : Value :=
  let x : List Value := Python.arange n
  let xc := x.map fun value => value - Python.mean x
  (xc.map fun value => value * value).sum

/-- `num` and `den` of the C++ function, after the loop. -/
def cppSums (xMean yMean : Value) (values : List Value) : Value × Value :=
  values.zipIdx.foldl (Cpp.slopeStep xMean yMean) (0, 0)

theorem zipWith_arange_eq_ofFn
    (term : Value → Value → Value)
    (values : List Value) :
    List.zipWith term (Python.arange values.length) values =
      List.ofFn fun position =>
        term (index values position) (entry values position) := by
  apply List.ext_getElem
  · simp [Python.arange]
  · intro position _ inside
    simp [Python.arange, index, entry]

theorem map_arange_eq_ofFn
    (term : Value → Value)
    (values : List Value) :
    (Python.arange values.length).map term =
      List.ofFn fun position => term (index values position) := by
  apply List.ext_getElem
  · simp [Python.arange]
  · intro position _ inside
    simp [Python.arange, index]

theorem mean_entry (values : List Value) :
    LeastSquares.mean Finset.univ (entry values) = Python.mean values := by
  rw [LeastSquares.mean, Finset.card_univ, Fintype.card_fin, Python.mean,
    ← Fin.sum_univ_getElem values]
  rfl

theorem mean_index (values : List Value) :
    LeastSquares.mean Finset.univ (index values) =
      Python.mean (Python.arange values.length : List Value) := by
  have sum : (Python.arange values.length : List Value).sum =
      ∑ position, index values position := by
    have asFn := map_arange_eq_ofFn id values
    rw [List.map_id] at asFn
    rw [asFn, List.sum_ofFn]
    rfl
  rw [LeastSquares.mean, Finset.card_univ, Fintype.card_fin, Python.mean,
    sum]
  simp [Python.arange]

/-- The denominator is the sum of the squared deviations of the indices. -/
theorem pythonDenom_eq (values : List Value) :
    pythonDenom values.length =
      squaredDeviations Finset.univ (index values) := by
  rw [squaredDeviations, mean_index, pythonDenom, List.map_map,
    map_arange_eq_ofFn, List.sum_ofFn]
  rfl

/-- Where the guards do not apply, the quotient is the slope. -/
theorem olsSlope_eq_slope
    [DecidableEq Value]
    {values : List Value}
    (enough : 2 ≤ values.length)
    (spread : (pythonDenom values.length : Value) ≠ 0) :
    Python.olsSlope values =
      LeastSquares.slope Finset.univ (index values) (entry values) := by
  have numerator :
      (List.zipWith
          (fun dx dy =>
            (dx - Python.mean (Python.arange values.length)) *
              (dy - Python.mean values))
          (Python.arange values.length) values).sum =
        ∑ position,
          (index values position -
              LeastSquares.mean Finset.univ (index values)) *
            (entry values position -
              LeastSquares.mean Finset.univ (entry values)) := by
    rw [zipWith_arange_eq_ofFn, List.sum_ofFn, mean_index, mean_entry]
  have quotient :
      Python.olsSlope values =
        (List.zipWith
            (fun dx dy =>
              (dx - Python.mean (Python.arange values.length)) *
                (dy - Python.mean values))
            (Python.arange values.length) values).sum /
          pythonDenom values.length := by
    simp only [pythonDenom] at spread ⊢
    simp only [Python.olsSlope, Nat.not_lt.mpr enough, if_false,
      if_neg spread]
    rw [List.zipWith_map_left, List.zipWith_map_right]
  rw [quotient, numerator, LeastSquares.slope, pythonDenom_eq]

/-- The loop accumulates the same denominator. -/
theorem cppSums_eq
    [CharZero Value]
    {values : List Value}
    (positive : 0 < values.length)
    (yMean : Value) :
    (cppSums (((values.length - 1 : Nat) : Value) / 2) yMean values).2 =
      pythonDenom values.length := by
  have positions := map_zipIdx_eq_map_arange
    (fun x : Value =>
      (x - Python.mean (Python.arange values.length)) *
        (x - Python.mean (Python.arange values.length))) values
  rw [cppSums, foldl_slopeStep, ← mean_arange positive, positions,
    pythonDenom, List.map_map]
  simp only [zero_add, Function.comp_def]

end Positions

section Least

variable [Field Value] [LinearOrder Value] [IsStrictOrderedRing Value]

/-- Two positions are enough for the indices to deviate from their mean. -/
theorem pythonDenom_pos
    {values : List Value}
    (enough : 2 ≤ values.length) :
    (0 : Value) < pythonDenom values.length := by
  have differ :
      index values ⟨0, Nat.zero_lt_of_lt enough⟩ ≠
        index values ⟨1, enough⟩ := by
    simp [index]
  rw [pythonDenom_eq]
  exact squaredDeviations_pos (Finset.mem_univ _) (Finset.mem_univ _) differ

/-- The line with the slope through the means is better than any other. -/
theorem sumSquares_lt_of_ne
    {values : List Value}
    (enough : 2 ≤ values.length)
    {otherA otherB : Value}
    (isOther :
      otherA ≠ Python.mean values -
          Python.olsSlope values * ((values.length - 1 : Nat) : Value) / 2 ∨
        otherB ≠ Python.olsSlope values) :
    sumSquares Finset.univ (index values) (entry values)
        (Python.mean values -
          Python.olsSlope values * ((values.length - 1 : Nat) : Value) / 2)
        (Python.olsSlope values) <
      sumSquares Finset.univ (index values) (entry values)
        otherA otherB := by
  have spread : (pythonDenom values.length : Value) ≠ 0 :=
    (pythonDenom_pos enough).ne'
  have isSlope := olsSlope_eq_slope enough spread
  have positive : 0 < values.length :=
    Nat.zero_lt_of_lt enough
  have count :
      ((Finset.univ : Finset (Fin values.length)).card : Value) ≠ 0 := by
    rw [Finset.card_univ, Fintype.card_fin]
    exact Nat.cast_ne_zero.mpr positive.ne'
  have normal :=
    normalEquations_slope (y := entry values) count
      (pythonDenom_eq values ▸ spread)
  rw [← isSlope, mean_entry, mean_index, mean_arange positive,
    ← mul_div_assoc] at normal
  have differ :
      index values ⟨0, positive⟩ ≠ index values ⟨1, enough⟩ := by
    simp [index]
  exact sumSquares_lt normal (Finset.mem_univ _) (Finset.mem_univ _)
    differ isOther

/--
The two functions return the same number; for two values and more neither
guards a zero denominator, and the number is the slope of the one line that
minimises the sum of the squared residuals.
-/
theorem olsSlope_is_least_squares (values : List Value) :
    Cpp.olsSlope values = Python.olsSlope values ∧
      (2 ≤ values.length →
        (pythonDenom values.length : Value) ≠ 0 ∧
          (cppSums (((values.length - 1 : Nat) : Value) / 2)
            (Cpp.mean values) values).2 ≠ 0 ∧
          let b := Python.olsSlope values
          let a :=
            Python.mean values -
              b * ((values.length - 1 : Nat) : Value) / 2
          ∀ otherA otherB : Value,
            (otherA ≠ a ∨ otherB ≠ b) →
              ∑ i : Fin values.length,
                  (values[i] - a - b * ((i : Nat) : Value)) ^ 2 <
                ∑ i : Fin values.length,
                  (values[i] - otherA - otherB * ((i : Nat) : Value)) ^ 2) := by
  refine ⟨olsSlope_eq values, fun enough => ?_⟩
  have spread : (pythonDenom values.length : Value) ≠ 0 :=
    (pythonDenom_pos enough).ne'
  refine ⟨spread, ?_, fun otherA otherB isOther => ?_⟩
  · rwa [cppSums_eq (Nat.zero_lt_of_lt enough)]
  · exact sumSquares_lt_of_ne enough isOther

end Least

theorem olsSlope_two : Python.olsSlope ([1, 3] : List Rat) = 2 := by
  decide +kernel

/-- The line through two points is better than a steeper one. -/
theorem olsSlope_is_least_squares_two :
    2 ≤ ([1, 3] : List Rat).length ∧
      Cpp.olsSlope ([1, 3] : List Rat) = 2 ∧
      ∑ i : Fin 2,
          (([1, 3] : List Rat)[i] -
            (Python.mean [1, 3] -
              Python.olsSlope [1, 3] * ((1 : Nat) : Rat) / 2) -
            Python.olsSlope [1, 3] * ((i : Nat) : Rat)) ^ 2 <
        ∑ i : Fin 2,
          (([1, 3] : List Rat)[i] - 0 - 3 * ((i : Nat) : Rat)) ^ 2 := by
  have enough : 2 ≤ ([1, 3] : List Rat).length := by
    decide
  obtain ⟨same, least⟩ := olsSlope_is_least_squares ([1, 3] : List Rat)
  refine ⟨enough, same.trans olsSlope_two, ?_⟩
  exact (least enough).2.2 0 3 (Or.inr (by rw [olsSlope_two]; decide))

end OlsSlope

end OpticsSoftfail
