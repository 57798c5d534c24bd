import Mathlib.Algebra.Order.BigOperators.Group.List
import Mathlib.Data.Rat.Floor
import OpticsSoftfail.FeatureFrame
import OpticsSoftfail.FloatScore

namespace OpticsSoftfail

/-!
# The statistics of a batch of windows

Training computes the eight statistics of all windows at once, with its own
code; a live frame goes through `compute_stats`.  The batch computation is
written for any numbers with the operations it uses.  Its agreement with the
scalar one is about exact numbers, with NaN for the quotient by zero, which
numpy returns where the scalar code would have to raise an exception.
-/

namespace Python

/-- `FEATURE_NAMES`. -/
def FEATURE_NAMES : List String :=
  ["osnr_mean", "osnr_std", "osnr_slope", "log10_ber_mean",
    "log10_ber_std", "log10_ber_slope", "laser_bias_mean",
    "laser_bias_slope"]

/-- One row of a window, over the five channels of `SEQ_CHANNELS`. -/
abbrev SeqRow (Entry : Type) : Type :=
  Vector Entry 5

/-- An array of shape `(N, window_n, 5)`. -/
structure SeqBatch (Entry : Type) where
  windowN : Nat
  windows : List (List (SeqRow Entry))
  shape : ∀ window ∈ windows, window.length = windowN

section Batch

variable {Entry : Type}

/-- `x_seq.size`. -/
def SeqBatch.size (batch : SeqBatch Entry) : Nat :=
  batch.windows.length * batch.windowN * 5

/-- One channel of a window. -/
def column (window : List (SeqRow Entry)) (channel : Fin 5) : List Entry :=
  window.map fun row => row[channel]

variable
  [Zero Entry] [Add Entry] [Sub Entry] [Mul Entry] [Div Entry] [NatCast Entry]

/-- `mean(axis=1)` of one row of an array. -/
def arrayMean (values : List Entry) : Entry :=
  values.sum / values.length

/-- `std(axis=1)` of one row of an array. -/
def arrayStd (sqrt : Entry → Entry) (values : List Entry) : Entry :=
  sqrt (arrayMean (values.map fun value =>
    (value - arrayMean values) * (value - arrayMean values)))

/-- `xc`, the index less its mean. -/
def centredIndex (n : Nat) : List Entry :=
  let x : List Entry := (List.range n).map fun index : Nat => (index : Entry)
  x.map fun value => value - arrayMean x

/-- `denom` of `_slope_axis`. -/
def slopeDenom (n : Nat) : Entry :=
  ((centredIndex n).map fun value : Entry => value * value).sum

/-- `_slope_axis`, on one channel of one window. -/
def slopeAxis (n : Nat) (values : List Entry) : Entry :=
  let yc := values.map fun value => value - arrayMean values
  (List.zipWith (fun dx dy => dx * dy) (centredIndex n) yc).sum /
    slopeDenom n

/-- One row of the result, `np.stack([...], axis=1)`. -/
def windowStats
    (sqrt : Entry → Entry)
    (n : Nat)
    (window : List (SeqRow Entry)) : List Entry :=
  let osnr := column window 0
  let lber := column window 1
  let bias := column window 2
  let slopes := fun channel => slopeAxis n (column window channel)
  [arrayMean osnr, arrayStd sqrt osnr, slopes 0,
    arrayMean lber, arrayStd sqrt lber, slopes 1,
    arrayMean bias, slopes 2]

/-- `stats_from_sequences`. -/
def statsFromSequences
    (sqrt : Entry → Entry)
    (batch : SeqBatch Entry) : List (List Entry) :=
  if batch.size = 0 then []
  else batch.windows.map (windowStats sqrt batch.windowN)

/-- A batch of windows has one row of statistics for each. -/
theorem statsFromSequences_eq_map
    (sqrt : Entry → Entry)
    {batch : SeqBatch Entry}
    (positive : 1 ≤ batch.windowN) :
    statsFromSequences sqrt batch =
      batch.windows.map (windowStats sqrt batch.windowN) := by
  rw [statsFromSequences]
  split
  · next empty =>
      have noWindows : batch.windows = [] := by
        rw [SeqBatch.size] at empty
        rcases Nat.mul_eq_zero.mp empty with product | impossible
        · rcases Nat.mul_eq_zero.mp product with none | none
          · exact List.length_eq_zero_iff.mp none
          · omega
        · cases impossible
      rw [noWindows]
      rfl
  · rfl

end Batch

section Scalar

variable {Value : Type} [Field Value]

theorem slopeDenom_eq_sum (n : Nat) :
    (slopeDenom n : Value) =
      ((List.range n).map fun index : Nat =>
        ((index : Value) - mean (arange n)) *
          ((index : Value) - mean (arange n))).sum := by
  rw [slopeDenom, centredIndex, List.map_map, List.map_map]
  rfl

/-- One row has the index zero only. -/
theorem slopeDenom_one : (slopeDenom 1 : Value) = 0 := by
  simp [slopeDenom_eq_sum, mean, arange]

variable [DecidableEq Value]

/-- `stats_vector`. -/
def statsVector
    (stats : Dict String Value) : Except FeatureError (List Value) :=
  FEATURE_NAMES.mapM (subscript stats)

/-- A window read as the `seq` block of a frame. -/
def seqOf (window : List (SeqRow Value)) : Dict String (List Value) where
  entries := [
    ("osnr_db", column window 0),
    ("log10_ber", column window 1),
    ("laser_bias_ma", column window 2),
    ("edfa_pump_ma", column window 3),
    ("rx_power_dbm", column window 4)]
  keysNodup := by
    simp only [List.map_cons, List.map_nil]
    decide

/-- `stats_vector(compute_stats(seq))`. -/
def scalarStats
    (numpy : Numpy Value)
    (seq : Dict String (List Value)) : Except FeatureError (List Value) := do
  let stats ← computeStats numpy seq
  statsVector stats

/-- The eight statistics of a window in `FEATURE_NAMES` order. -/
def exactRow
    (numpy : Numpy Value)
    (window : List (SeqRow Value)) : List Value :=
  [mean (column window 0), std numpy.sqrt (column window 0),
    olsSlope (column window 0), mean (column window 1),
    std numpy.sqrt (column window 1), olsSlope (column window 1),
    mean (column window 2), olsSlope (column window 2)]

/-- Every lookup of the scalar computation succeeds. -/
theorem scalarStats_seqOf
    (numpy : Numpy Value)
    (window : List (SeqRow Value)) :
    scalarStats numpy (seqOf window) = .ok (exactRow numpy window) :=
  rfl

end Scalar

section Agreement

open FloatScore

theorem column_map_number
    {Value : Type}
    (window : List (SeqRow Value))
    (channel : Fin 5) :
    column (window.map fun row => row.map number) channel =
      (column window channel).map number := by
  simp [column]

variable {Value : Type} [Field Value] [LinearOrder Value]

/-- The exact numbers of a batch as doubles. -/
def SeqBatch.toFloats
    (batch : SeqBatch Value) : SeqBatch (FloatScore Value) where
  windowN := batch.windowN
  windows :=
    batch.windows.map fun window =>
      window.map fun row => row.map number
  shape := by
    intro window member
    obtain ⟨exactWindow, exactMember, rfl⟩ := List.mem_map.mp member
    rw [List.length_map]
    exact batch.shape exactWindow exactMember

/-- Without windows there are no rows. -/
theorem statsFromSequences_of_isEmpty
    (sqrt : FloatScore Value → FloatScore Value)
    {batch : SeqBatch Value}
    (isEmpty : batch.windows = []) :
    statsFromSequences sqrt batch.toFloats = [] := by
  simp [statsFromSequences, SeqBatch.size, SeqBatch.toFloats, isEmpty]

/-- With windows of at least one row there is a row for each. -/
theorem statsFromSequences_of_ne_nil
    (sqrt : FloatScore Value → FloatScore Value)
    {batch : SeqBatch Value}
    (positive : 1 ≤ batch.windowN)
    (nonempty : batch.windows ≠ []) :
    statsFromSequences sqrt batch.toFloats =
      batch.windows.map fun window =>
        windowStats sqrt batch.windowN
          (window.map fun row => row.map number) := by
  have sized : batch.toFloats.size ≠ 0 := by
    have count := List.length_pos_of_ne_nil nonempty
    simp only [SeqBatch.size, SeqBatch.toFloats, List.length_map]
    exact Nat.mul_ne_zero (Nat.mul_ne_zero count.ne' (by omega)) (by decide)
  rw [statsFromSequences, if_neg sized]
  simp [SeqBatch.toFloats, Function.comp_def]

variable [IsStrictOrderedRing Value]

theorem arrayMean_number
    {values : List Value}
    (nonempty : values ≠ []) :
    arrayMean (values.map number) = number (mean values) := by
  have nonzero : (values.length : Value) ≠ 0 :=
    Nat.cast_ne_zero.mpr (List.length_pos_of_ne_nil nonempty).ne'
  rw [arrayMean, sum_map_number, List.length_map, natCast_eq,
    number_div _ nonzero, mean]

theorem map_sub_arrayMean_number
    {values : List Value}
    (nonempty : values ≠ []) :
    ((values.map number).map fun value =>
        value - arrayMean (values.map number)) =
      (values.map fun value => value - mean values).map number := by
  rw [arrayMean_number nonempty, List.map_map, List.map_map]
  rfl

theorem arrayStd_number
    (sqrt : Value → Value)
    {values : List Value}
    (nonempty : values ≠ []) :
    arrayStd (FloatScore.map sqrt) (values.map number) =
      number (std sqrt values) := by
  have squares :
      ((values.map number).map fun value =>
          (value - arrayMean (values.map number)) *
            (value - arrayMean (values.map number))) =
        (values.map fun value =>
          (value - mean values) * (value - mean values)).map number := by
    rw [arrayMean_number nonempty, List.map_map, List.map_map]
    rfl
  rw [arrayStd, squares, arrayMean_number (by simpa using nonempty), std]
  rfl

/-- The centred index is exact. -/
theorem centredIndex_number {n : Nat} (positive : 0 < n) :
    (centredIndex n : List (FloatScore Value)) =
      (centredIndex n).map number := by
  have nonempty : (arange n : List Value) ≠ [] := by
    simp [arange, positive.ne']
  have index :
      ((List.range n).map fun index : Nat => (index : FloatScore Value)) =
        (arange n).map number := by
    rw [arange, List.map_map]
    rfl
  rw [centredIndex, index]
  exact map_sub_arrayMean_number nonempty

theorem slopeDenom_number {n : Nat} (positive : 0 < n) :
    (slopeDenom n : FloatScore Value) = number (slopeDenom n) := by
  rw [slopeDenom, centredIndex_number positive, List.map_map, slopeDenom,
    ← sum_map_number, List.map_map]
  rfl

/-- From two rows on the index varies. -/
theorem slopeDenom_pos {n : Nat} (atLeastTwo : 2 ≤ n) :
    0 < (slopeDenom n : Value) := by
  have middle : 0 < mean (arange n : List Value) := by
    rw [mean_arange (by omega)]
    exact div_pos (by exact_mod_cast Nat.sub_pos_of_lt atLeastTwo) two_pos
  have first : 0 < ((0 : Nat) - mean (arange n) : Value) *
      ((0 : Nat) - mean (arange n)) := by
    rw [Nat.cast_zero]
    exact mul_self_pos.mpr (sub_ne_zero.mpr middle.ne)
  rw [slopeDenom_eq_sum]
  refine first.trans_le (List.single_le_sum ?_ _ ?_)
  · intro square member
    obtain ⟨index, _, rfl⟩ := List.mem_map.mp member
    exact mul_self_nonneg _
  · exact List.mem_map.mpr ⟨0, List.mem_range.mpr (by omega), rfl⟩

/-- From two rows on both paths compute the same slope. -/
theorem slopeAxis_number
    {values : List Value}
    (atLeastTwo : 2 ≤ values.length) :
    slopeAxis values.length (values.map number) =
      number (olsSlope values) := by
  have positive : 0 < values.length := by omega
  have nonzero : (slopeDenom values.length : Value) ≠ 0 :=
    (slopeDenom_pos atLeastTwo).ne'
  have products :
      List.zipWith (fun dx dy : FloatScore Value => dx * dy)
          ((centredIndex values.length).map number)
          ((values.map fun value => value - mean values).map number) =
        (List.zipWith (fun dx dy => dx * dy) (centredIndex values.length)
          (values.map fun value => value - mean values)).map number := by
    rw [List.zipWith_map, List.map_zipWith]
    rfl
  rw [slopeAxis, map_sub_arrayMean_number (List.ne_nil_of_length_pos positive),
    centredIndex_number positive, products, sum_map_number,
    slopeDenom_number positive, number_div _ nonzero, olsSlope,
    if_neg (by omega)]
  exact congrArg number (if_neg nonzero).symm

/-- With one row the slope is the quotient of zero by zero. -/
theorem slopeAxis_one (values : List (FloatScore Value)) :
    slopeAxis 1 values = nan := by
  rw [slopeAxis, slopeDenom_number Nat.one_pos, slopeDenom_one,
    div_zero_eq_nan]

/-- From two rows on, a row of the batch is that of the scalar path. -/
theorem windowStats_number
    (numpy : Numpy Value)
    {window : List (SeqRow Value)}
    (atLeastTwo : 2 ≤ window.length) :
    windowStats (FloatScore.map numpy.sqrt) window.length
        (window.map fun row => row.map number) =
      (exactRow numpy window).map number := by
  have length (channel : Fin 5) :
      (column window channel).length = window.length := by
    simp [column]
  have nonempty (channel : Fin 5) : column window channel ≠ [] := by
    apply List.ne_nil_of_length_pos
    rw [length]
    omega
  have slope (channel : Fin 5) :
      slopeAxis window.length ((column window channel).map number) =
        number (olsSlope (column window channel)) := by
    rw [← length channel] at atLeastTwo ⊢
    exact slopeAxis_number atLeastTwo
  simp only [windowStats, exactRow, column_map_number, slope,
    arrayMean_number (nonempty _), arrayStd_number _ (nonempty _),
    List.map_cons, List.map_nil]

/-- Row `i` of the batch is the scalar result for window `i`. -/
def RowsAgree (numpy : Numpy Value) (batch : SeqBatch Value) : Prop :=
  List.Forall₂
    (fun window floats =>
      ∃ row,
        scalarStats numpy (seqOf window) = .ok row ∧
          floats = row.map number)
    batch.windows
    (statsFromSequences (FloatScore.map numpy.sqrt) batch.toFloats)

/-- No divisor is zero where there is a window to divide for. -/
def SeqBatch.NoZeroDivisor (batch : SeqBatch Value) : Prop :=
  batch.windows ≠ [] →
    (batch.windowN : Value) ≠ 0 ∧ (slopeDenom batch.windowN : Value) ≠ 0

theorem rowsAgree_iff
    {numpy : Numpy Value}
    {batch : SeqBatch Value}
    (positive : 1 ≤ batch.windowN) :
    RowsAgree numpy batch ↔ 2 ≤ batch.windowN ∨ batch.windows = [] := by
  by_cases isEmpty : batch.windows = []
  · simp [RowsAgree, statsFromSequences_of_isEmpty _ isEmpty, isEmpty]
  rw [RowsAgree, statsFromSequences_of_ne_nil _ positive isEmpty,
    List.forall₂_map_right_iff, List.forall₂_same]
  constructor
  · intro agree
    left
    by_contra tooFew
    have isOne : batch.windowN = 1 := by omega
    obtain ⟨window, member⟩ := List.exists_mem_of_ne_nil _ isEmpty
    obtain ⟨row, isRow, same⟩ := agree window member
    rw [scalarStats_seqOf] at isRow
    cases isRow
    rw [isOne] at same
    simp [windowStats, exactRow, slopeAxis_one] at same
  · rintro (atLeastTwo | none) window member
    · have length := batch.shape window member
      rw [← length] at atLeastTwo ⊢
      exact ⟨_, scalarStats_seqOf numpy window,
        windowStats_number numpy atLeastTwo⟩
    · exact absurd none isEmpty

theorem SeqBatch.noZeroDivisor_iff
    {batch : SeqBatch Value}
    (positive : 1 ≤ batch.windowN) :
    batch.NoZeroDivisor ↔ 2 ≤ batch.windowN ∨ batch.windows = [] := by
  constructor
  · intro defined
    by_contra other
    push Not at other
    have isOne : batch.windowN = 1 := by omega
    rw [SeqBatch.NoZeroDivisor, isOne] at defined
    exact (defined other.2).2 slopeDenom_one
  · rintro (atLeastTwo | isEmpty) nonempty
    · exact ⟨Nat.cast_ne_zero.mpr (by omega), (slopeDenom_pos atLeastTwo).ne'⟩
    · exact absurd isEmpty nonempty

/-- The batch agrees with the scalar path unless its windows have one row. -/
theorem statsFromSequences_agree_iff
    (numpy : Numpy Value)
    {batch : SeqBatch Value}
    (positive : 1 ≤ batch.windowN) :
    (RowsAgree numpy batch ∧ batch.NoZeroDivisor) ↔
      2 ≤ batch.windowN ∨ batch.windows = [] := by
  rw [rowsAgree_iff positive, SeqBatch.noZeroDivisor_iff positive, and_self]

end Agreement

section OneRow

/-! A window of one row, and a window of two. -/

/-- The functions at the numbers these windows lead to. -/
def exactNumpy : Numpy Rat where
  log10 _ := -6
  sqrt value := if value = 1 / 4 then 1 / 2 else value

def steadyRow (osnr : Rat) : SeqRow Rat :=
  #v[osnr, -6, 40, 180, -12]

def oneRow : SeqBatch Rat where
  windowN := 1
  windows := [[steadyRow 18]]
  shape := by simp

def twoRows : SeqBatch Rat where
  windowN := 2
  windows := [[steadyRow 18, steadyRow 19]]
  shape := by simp

theorem statsFromSequences_agree_iff_twoRows :
    RowsAgree exactNumpy twoRows ∧ twoRows.NoZeroDivisor :=
  (statsFromSequences_agree_iff exactNumpy (by decide)).mpr
    (Or.inl (by decide))

/-- The slopes of a window of one row are NaN in the batch, and 0.0 else. -/
theorem one_row_divides_by_zero :
    ¬ ∀ batch : SeqBatch Rat,
      1 ≤ batch.windowN →
        RowsAgree exactNumpy batch ∧ batch.NoZeroDivisor := by
  intro agree
  have rows := (agree oneRow (by decide)).1
  rw [rowsAgree_iff (by decide)] at rows
  simp [oneRow] at rows

end OneRow

end Python

end OpticsSoftfail
