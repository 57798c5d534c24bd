import Mathlib.Algebra.BigOperators.Group.List.Basic
import Mathlib.Algebra.CharZero.Defs
import Mathlib.Algebra.Order.Field.Basic
import Mathlib.Data.List.Range
import Mathlib.Tactic.FieldSimp
import Mathlib.Tactic.Ring

namespace OpticsSoftfail

/-!
# The two implementations of the window statistics

The ingest computes its statistics with accumulating loops over vectors, the
Python reference with whole-array operations.  Both are stated over an ordered
field of exact numbers, in which an accumulation and a sum of an array are the
same; `sqrt` and `log10` are functions shared by both sides.
-/

variable {Value : Type}

namespace Cpp

/-! ## `window.cpp` -/

section Loops

variable [Field Value]

/-- `mean`. -/
def mean (values : List Value) : Value :=
  if values.isEmpty then 0
  else values.foldl (fun sum value => sum + value) 0 / values.length

/-- `stddev`, the population standard deviation. -/
def stddev
    (sqrt : Value → Value)
    (values : List Value) : Value :=
  if values.isEmpty then 0
  else
    let mu := mean values
    let acc :=
      values.foldl
        (fun acc value =>
          let d := value - mu
          acc + d * d) 0
    sqrt (acc / values.length)

/-- One iteration of the loop in `ols_slope`, on `(num, den)`. -/
def slopeStep
    (xMean yMean : Value)
    (sums : Value × Value)
    (entry : Value × Nat) : Value × Value :=
  let dx := (entry.2 : Value) - xMean
  (sums.1 + dx * (entry.1 - yMean), sums.2 + dx * dx)

/-- `ols_slope`, against the index `0..n-1`. -/
def olsSlope
    [DecidableEq Value]
    (values : List Value) : Value :=
  let n := values.length
  if n < 2 then 0
  else
    let xMean := ((n - 1 : Nat) : Value) / 2
    let yMean := mean values
    let sums := values.zipIdx.foldl (slopeStep xMean yMean) (0, 0)
    if sums.2 = 0 then 0 else sums.1 / sums.2

end Loops

/-- `kBerFloor`. -/
def kBerFloor [Field Value] : Value :=
  1 / 10 ^ 15

/-- `log10_ber`. -/
def log10Ber
    [Field Value] [LT Value] [DecidableLT Value]
    (log10 : Value → Value)
    (ber : Value) : Value :=
  log10 (if kBerFloor < ber then ber else kBerFloor)

end Cpp

namespace Python

/-! ## `features.py` -/

section Arrays

variable [Field Value]

/-- `values.mean()` of an array. -/
def mean (values : List Value) : Value :=
  values.sum / values.length

/-- `values.std()` of an array, with numpy's default of no correction. -/
def std
    (sqrt : Value → Value)
    (values : List Value) : Value :=
  sqrt (mean (values.map fun value =>
    (value - mean values) * (value - mean values)))

/-- `np.arange(n, dtype=float)`. -/
def arange (n : Nat) : List Value :=
  (List.range n).map fun index : Nat => (index : Value)

/-- `ols_slope`. -/
def olsSlope
    [DecidableEq Value]
    (values : List Value) : Value :=
  let n := values.length
  if n < 2 then 0
  else
    let x : List Value := arange n
    let xc := x.map fun value => value - mean x
    let denom := (xc.map fun value => value * value).sum
    if denom = 0 then 0
    else
      let yc := values.map fun value => value - mean values
      (List.zipWith (fun dx dy => dx * dy) xc yc).sum / denom

end Arrays

/-- `BER_FLOOR`. -/
def BER_FLOOR [Field Value] : Value :=
  1 / 10 ^ 15

/-- `log10_ber`, applied to a whole array. -/
def log10Ber
    [Field Value] [Max Value]
    (log10 : Value → Value)
    (ber : List Value) : List Value :=
  ber.map fun value => log10 (max value BER_FLOOR)

end Python

section Agreement

/-! ## Both sides compute the same numbers -/

/-- An accumulating loop computes the sum of what it adds. -/
theorem foldl_add_eq_sum
    {Item : Type}
    [AddCommMonoid Value]
    (term : Item → Value)
    (items : List Item)
    (start : Value) :
    items.foldl (fun sum item => sum + term item) start =
      start + (items.map term).sum := by
  induction items generalizing start with
  | nil =>
      simp
  | cons item rest inductionHypothesis =>
      simp [inductionHypothesis, add_assoc]

/-- The loop of the slope accumulates its two sums independently. -/
theorem foldl_slopeStep
    [Field Value]
    (xMean yMean : Value)
    (entries : List (Value × Nat))
    (start : Value × Value) :
    entries.foldl (Cpp.slopeStep xMean yMean) start =
      (start.1 + (entries.map fun entry =>
          ((entry.2 : Value) - xMean) * (entry.1 - yMean)).sum,
        start.2 + (entries.map fun entry =>
          ((entry.2 : Value) - xMean) *
            ((entry.2 : Value) - xMean)).sum) := by
  induction entries generalizing start with
  | nil =>
      simp
  | cons entry rest inductionHypothesis =>
      simp [inductionHypothesis, Cpp.slopeStep, add_assoc]

variable [Field Value]

theorem mean_eq (values : List Value) :
    Cpp.mean values = Python.mean values := by
  cases values with
  | nil =>
      simp [Cpp.mean, Python.mean]
  | cons first rest =>
      have loop := foldl_add_eq_sum id (first :: rest) (0 : Value)
      simp only [id_eq, List.map_id, zero_add] at loop
      simp only [Cpp.mean, Python.mean, List.isEmpty_cons,
        Bool.false_eq_true, if_false, loop]

/-- Both deviations agree on every nonempty list. -/
theorem stddev_eq
    (sqrt : Value → Value)
    {values : List Value}
    (nonempty : values ≠ []) :
    Cpp.stddev sqrt values = Python.std sqrt values := by
  have loop := foldl_add_eq_sum
    (fun value =>
      (value - Cpp.mean values) * (value - Cpp.mean values))
    values 0
  simp only [Cpp.stddev, List.isEmpty_iff, nonempty, if_false,
    loop, zero_add, Python.std, Python.mean, List.length_map]
  rw [mean_eq]
  rfl

/-- Twice the sum of the indices below `n`. -/
theorem two_mul_sum_arange (n : Nat) :
    2 * (Python.arange n : List Value).sum = n * (n - 1) := by
  induction n with
  | zero =>
      simp [Python.arange]
  | succ n inductionHypothesis =>
      simp only [Python.arange] at inductionHypothesis
      simp only [Python.arange, List.range_succ, List.map_append,
        List.sum_append, mul_add, inductionHypothesis]
      push_cast
      simp
      ring

/-- The mean index is the middle of `0..n-1`. -/
theorem mean_arange
    [CharZero Value]
    {n : Nat}
    (positive : 0 < n) :
    Python.mean (Python.arange n : List Value) =
      ((n - 1 : Nat) : Value) / 2 := by
  have doubled : 2 * (Python.arange n : List Value).sum = n * (n - 1) :=
    two_mul_sum_arange n
  have nonzero : (n : Value) ≠ 0 := Nat.cast_ne_zero.mpr positive.ne'
  have asNat : ((n - 1 : Nat) : Value) = n - 1 := by
    rw [Nat.cast_sub positive, Nat.cast_one]
  have length : (Python.arange n : List Value).length = n := by
    simp [Python.arange]
  rw [Python.mean, length, asNat]
  field_simp
  rw [mul_comm, doubled]

/-- Positions and values, taken together, in the loop and in the arrays. -/
theorem map_zipIdx_eq_zipWith_arange
    (term : Value → Value → Value)
    (values : List Value) :
    (values.zipIdx.map fun entry => term entry.2 entry.1) =
      List.zipWith term (Python.arange values.length) values := by
  have entries :
      values.zipIdx = values.zip (List.range values.length) := by
    rw [List.zipIdx_eq_zip_range', List.range_eq_range']
  rw [entries, Python.arange, List.zipWith_map_left,
    List.zipWith_comm, List.zip, List.map_zipWith]

/-- The positions alone. -/
theorem map_zipIdx_eq_map_arange
    (term : Value → Value)
    (values : List Value) :
    (values.zipIdx.map fun entry => term entry.2) =
      (Python.arange values.length).map term := by
  have positions :
      values.zipIdx.map Prod.snd = List.range values.length := by
    rw [List.zipIdx_map_snd, List.range_eq_range']
  rw [Python.arange, ← positions, List.map_map, List.map_map]
  rfl

/-- The slopes agree on every list. -/
theorem olsSlope_eq
    [CharZero Value] [DecidableEq Value]
    (values : List Value) :
    Cpp.olsSlope values = Python.olsSlope values := by
  simp only [Cpp.olsSlope, Python.olsSlope]
  by_cases few : values.length < 2
  · simp [few]
  · have positive : 0 < values.length := by omega
    rw [if_neg few, if_neg few, foldl_slopeStep,
      mean_arange positive, mean_eq]
    generalize ((values.length - 1 : Nat) : Value) / 2 = xMean
    have numerator := map_zipIdx_eq_zipWith_arange
      (fun x y => (x - xMean) * (y - Python.mean values)) values
    have denominator := map_zipIdx_eq_map_arange
      (fun x => (x - xMean) * (x - xMean)) values
    rw [numerator, denominator, List.zipWith_map_left,
      List.zipWith_map_right, List.map_map]
    simp only [zero_add, Function.comp_def]

end Agreement

end OpticsSoftfail
