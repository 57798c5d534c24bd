import OpticsSoftfail.AnomalyScores
import OpticsSoftfail.GenerateCommand

namespace OpticsSoftfail

/-!
# Fitting the models

Each anomaly model is fitted on one part of the nominal windows and calibrated
on the rest, its holdout.  The horizon head is fitted on the scores of all
windows.  The random generator, the forest, the scaler, the optimiser and the
regression are libraries; what the fits do with their results is computed here.
-/

namespace Python

open FloatScore OrderStatistics

variable {Value : Type}

/-- What the fits take from numpy, scikit-learn and torch. -/
structure TrainingLibrary (Value : Type) where
  features : Numpy Value
  scoring : ScoringNumpy Value
  /-- `default_rng(RANDOM_STATE).permutation(n)`. -/
  permutation : Nat → List Nat
  /-- `IsolationForest.fit`, with the `decision_function` that it leaves. -/
  isolationForest :
    List (List (FloatScore Value)) →
      Option (List (List (FloatScore Value)) → List (FloatScore Value))
  /-- `StandardScaler.fit`. -/
  standardScaler : List (SeqRow (FloatScore Value)) → StandardScaler Value
  /-- The epochs of Adam over the shuffled batches. -/
  optimise :
    (inputDim epochs : Nat) → List (List (FloatScore Value)) →
      MLPAutoencoder Value inputDim
  /-- `coef_` and `intercept_` of `LogisticRegression.fit`. -/
  logisticRegression : List Value → List Int → Value × Value

/-- `x[idx]`. -/
def takeRows {Row : Type} (rows : List Row) (idx : List Nat) : List Row :=
  idx.filterMap fun position => rows[position]?

/-- `holdout_frac`. -/
def HOLDOUT_FRAC : Rat := 2 / 10

/-- The two parts of the permutation of the windows. -/
structure HoldoutSplit where
  holdIdx : List Nat
  fitIdx : List Nat
  deriving Repr, DecidableEq

/-- `idx[:n_hold]` and `idx[n_hold:]`. -/
def HoldoutSplit.of (idx : List Nat) : HoldoutSplit :=
  let nHold :=
    max 1 (Corpus.roundHalfEven (HOLDOUT_FRAC * idx.length)).toNat
  -- A tiny dataset is fitted and calibrated as a whole.
  if (idx.drop nHold).length = 0 then ⟨idx, idx⟩
  else ⟨idx.take nHold, idx.drop nHold⟩

/-- `x_nominal[hold_idx]`. -/
def holdoutRows
    {Row : Type}
    (library : TrainingLibrary Value)
    (rows : List Row) : List Row :=
  takeRows rows (HoldoutSplit.of (library.permutation rows.length)).holdIdx

/-- `x_nominal[fit_idx]`. -/
def fitRows
    {Row : Type}
    (library : TrainingLibrary Value)
    (rows : List Row) : List Row :=
  takeRows rows (HoldoutSplit.of (library.permutation rows.length)).fitIdx

section Model

variable [Field Value] [LinearOrder Value] [FloorRing Value]

/-- `np.percentile`, which is NaN as soon as one of the scores is. -/
def percentile
    (scores : List (FloatScore Value))
    (q : Value) : FloatScore Value :=
  match scores.mapM number? with
  | some values => number (quantile values (q / (100 : Nat)))
  | none => nan

/-- `np.median`. -/
def median (scores : List (FloatScore Value)) : FloatScore Value :=
  percentile scores (50 : Nat)

def IsolationForestScorer.CALIB_PERCENTILE : Value :=
  (995 : Nat) / (10 : Nat)

/-- What is added to `lo`, `1e-6`. -/
def leastSpan : Value :=
  1 / (10 ^ 6 : Nat)

/-- `IsolationForestScorer.fit`. -/
def IsolationForestScorer.fit
    (library : TrainingLibrary Value)
    (xNominal : List (List (FloatScore Value))) :
    Option (IsolationForestScorer Value) := do
  let decisionFunction ← library.isolationForest (fitRows library xNominal)
  let holdoutRaw :=
    (decisionFunction (holdoutRows library xNominal)).map
      (FloatScore.map fun score => -score)
  let lo := median holdoutRaw
  let hi := percentile holdoutRaw IsolationForestScorer.CALIB_PERCENTILE
  let hi := if hi ≤ lo then lo + number leastSpan else hi
  return { decisionFunction, lo, hi }

/-- `fit_scaler`. -/
def fitScaler
    (library : TrainingLibrary Value)
    (xSeq : List (List (SeqRow (FloatScore Value)))) : StandardScaler Value :=
  let scaler := library.standardScaler xSeq.flatten
  { scaler with
    scale := scaler.scale.map fun scale =>
      if scale < number tinyDivisor then number tinyDivisor else scale }

def AutoencoderScorer.CALIB_PERCENTILE : Value := (98 : Nat)

/-- The autoencoder as it is trained, before its calibration. -/
def AutoencoderScorer.trained
    (library : TrainingLibrary Value)
    (epochs : Nat)
    (xSeq : List (List (SeqRow (FloatScore Value)))) :
    AutoencoderScorer Value :=
  let scaler := fitScaler library xSeq
  let trainX :=
    xSeq.map fun window =>
      (transform scaler window).map (FloatScore.map library.scoring.float32)
  let inputDim := (trainX.head?.map List.length).getD 0
  let model := library.optimise inputDim epochs trainX
  { inputDim, model, scaler, errP98 := number 1 }

/-- `AutoencoderScorer.fit`. -/
def AutoencoderScorer.fit
    (library : TrainingLibrary Value)
    (epochs : Nat)
    (xSeqNominal : List (List (SeqRow (FloatScore Value)))) :
    Option (AutoencoderScorer Value) := do
  let scorer :=
    AutoencoderScorer.trained library epochs (fitRows library xSeqNominal)
  let holdoutErr ←
    scorer.errors library.scoring.float32 (holdoutRows library xSeqNominal)
  let errP98 := percentile holdoutErr AutoencoderScorer.CALIB_PERCENTILE
  return { scorer with
    errP98 := if 0 < errP98 then errP98 else number tinyDivisor }

/-- `HorizonHead.fit`; the regression refuses NaN. -/
def HorizonHead.fit
    (library : TrainingLibrary Value)
    (s : List (FloatScore Value))
    (y : List Int) : Option (HorizonHead Value) :=
  if y.dedup.length < 2 then some {}
  else do
    let values ← s.mapM number?
    let fitted := library.logisticRegression values y
    if |fitted.1| < tinyDivisor then return {}
    return { k := fitted.1, s0 := -fitted.2 / fitted.1 }

/-- `calibrate_threshold`; a quantile that is NaN does not shift anything. -/
def HorizonHead.calibrateScores
    (numpy : LogisticNumpy Value)
    (head : HorizonHead Value)
    (nominalS : List (FloatScore Value)) : HorizonHead Value :=
  match nominalS.mapM number? with
  | some values => head.calibrateThreshold numpy values
  | none => head

/-- `false_positive_rate`, where NaN does not reach the threshold. -/
def falsePositiveRateOf
    (pFail : List (FloatScore Value))
    (threshold : Value := P_FAIL_THRESHOLD) : Value :=
  if pFail.length = 0 then 0
  else pFail.countP (fun p => number threshold ≤ p) / pFail.length

end Model

section Holdout

/-! ## The holdout -/

variable {Row : Type} {rows : List Row} {idx : List Nat}

/--
The generator gives every position once, and a forest gives every row a number
that depends on no other row.
-/
structure TrainingLibrary.Lawful (library : TrainingLibrary Value) : Prop where
  permutes : ∀ n, (library.permutation n).Perm (List.range n)
  decides :
    ∀ fitted decisionFunction,
      library.isolationForest fitted = some decisionFunction →
        ∃ decision : List (FloatScore Value) → Value,
          ∀ rows, decisionFunction rows =
            rows.map fun row => number (decision row)

theorem mem_of_mem_takeRows
    {row : Row}
    (member : row ∈ takeRows rows idx) :
    row ∈ rows := by
  obtain ⟨position, _, isRow⟩ := List.mem_filterMap.mp member
  exact List.mem_of_getElem? isRow

theorem takeRows_ne_nil
    (nonempty : idx ≠ [])
    (inside : ∀ position ∈ idx, position < rows.length) :
    takeRows rows idx ≠ [] := by
  obtain ⟨position, rest, rfl⟩ := List.exists_cons_of_ne_nil nonempty
  have bound := inside position List.mem_cons_self
  exact List.ne_nil_of_mem (List.mem_filterMap.mpr
    ⟨position, List.mem_cons_self, List.getElem?_eq_getElem bound⟩)

/-- Neither part is empty, and both are parts of the permutation. -/
theorem HoldoutSplit.of_parts (nonempty : idx ≠ []) :
    (HoldoutSplit.of idx).holdIdx ≠ [] ∧ (HoldoutSplit.of idx).fitIdx ≠ [] ∧
      (HoldoutSplit.of idx).holdIdx ⊆ idx ∧
      (HoldoutSplit.of idx).fitIdx ⊆ idx := by
  simp only [HoldoutSplit.of]
  split
  · exact ⟨nonempty, nonempty, List.Subset.refl _, List.Subset.refl _⟩
  · next someLeft =>
      have someTaken :
          max 1 (Corpus.roundHalfEven (HOLDOUT_FRAC * idx.length)).toNat ≠ 0 :=
        (Nat.lt_of_lt_of_le Nat.one_pos (Nat.le_max_left _ _)).ne'
      refine ⟨?_, List.ne_nil_of_length_pos (Nat.pos_of_ne_zero someLeft),
        List.take_subset _ _, List.drop_subset _ _⟩
      rw [Ne, List.take_eq_nil_iff]
      exact fun either => either.elim someTaken nonempty

/-- Both parts of some windows hold windows. -/
theorem holdoutRows_fitRows_ne_nil
    {library : TrainingLibrary Value}
    (lawful : library.Lawful)
    (nonempty : rows ≠ []) :
    holdoutRows library rows ≠ [] ∧ fitRows library rows ≠ [] := by
  have perm := lawful.permutes rows.length
  have somePosition : library.permutation rows.length ≠ [] := by
    intro isEmpty
    rw [isEmpty] at perm
    exact nonempty (List.length_eq_zero_iff.mp
      (List.range_eq_nil.mp perm.nil_eq.symm))
  have inside (position : Nat)
      (member : position ∈ library.permutation rows.length) :
      position < rows.length :=
    List.mem_range.mp (perm.mem_iff.mp member)
  obtain ⟨someHeld, someFitted, held, fitted⟩ :=
    HoldoutSplit.of_parts somePosition
  exact ⟨
    takeRows_ne_nil someHeld fun position member =>
      inside position (held member),
    takeRows_ne_nil someFitted fun position member =>
      inside position (fitted member)⟩

end Holdout

section Percentiles

variable [Field Value] [LinearOrder Value] [FloorRing Value]

/-- The scores are numbers when these are the numbers. -/
theorem mapM_number?_eq_some_iff
    {Value : Type}
    {scores : List (FloatScore Value)}
    {values : List Value} :
    scores.mapM number? = some values ↔ scores = values.map number := by
  constructor
  · intro mapped
    have same : values.map number = scores.map id := by
      refine map_eq_of_mapM_eq_some (fun score value isNumber => ?_) mapped
      cases score with
      | number _ =>
          exact congrArg number (Option.some.inj isNumber).symm
      | nan =>
          cases isNumber
    rw [same, List.map_id]
  · rintro rfl
    refine mapM_eq_some_of_forall₂ ?_
    rw [List.forall₂_map_left_iff, List.forall₂_same]
    exact fun _ _ => rfl

theorem percentile_map_number (values : List Value) (q : Value) :
    percentile (values.map number) q =
      number (quantile values (q / (100 : Nat))) := by
  rw [percentile, mapM_number?_eq_some_iff.mpr rfl]

theorem HorizonHead.calibrateScores_map_number
    (numpy : LogisticNumpy Value)
    (head : HorizonHead Value)
    (values : List Value) :
    head.calibrateScores numpy (values.map number) =
      head.calibrateThreshold numpy values := by
  rw [HorizonHead.calibrateScores, mapM_number?_eq_some_iff.mpr rfl]

variable [IsStrictOrderedRing Value]

/-- At least half of the values are not above the median. -/
theorem length_le_countP_le_median {values : List Value} :
    values.length ≤
      2 * values.countP fun value => number value ≤ median (values.map number)
        := by
  rcases eq_or_ne values [] with rfl | nonempty
  · exact Nat.zero_le _
  have half : (50 : Nat) / (100 : Nat) = (1 / 2 : Value) := by
    norm_num
  have isMedian (value : Value) :
      number value ≤ median (values.map number) ↔
        value ≤ quantile values (1 / 2) := by
    rw [median, percentile_map_number, half]
    rfl
  simp only [isMedian]
  have enough :=
    floor_lt_countP_le_quantile (q := (1 / 2 : Value)) (by norm_num)
      (by norm_num) nonempty
  have position :
      ((values.length : Int) - 1) / 2 ≤ ⌊virtualIndex values (1 / 2)⌋ := by
    refine Int.le_floor.mpr ?_
    have halved : 2 * (((values.length : Int) - 1) / 2) ≤ values.length - 1 :=
      Int.mul_ediv_self_le (by decide)
    have asValue :
        (2 : Value) * ((((values.length : Int) - 1) / 2 : Int) : Value) ≤
          values.length - 1 := by
      exact_mod_cast halved
    rw [virtualIndex]
    linarith
  omega

end Percentiles

section Fits

/-! ## What the fits leave -/

variable [Field Value] [LinearOrder Value]
variable {library : TrainingLibrary Value}

/-- The model takes as many numbers as the windows have. -/
theorem AutoencoderScorer.inputDim_trained
    {epochs : Nat}
    {first : List (SeqRow (FloatScore Value))}
    {rest : List (List (SeqRow (FloatScore Value)))} :
    (AutoencoderScorer.trained library epochs (first :: rest)).inputDim =
      first.length * 5 := by
  simp [AutoencoderScorer.trained, transform, List.length_flatMap]

/-- The scores are numbers when none of them is NaN. -/
theorem exists_mapM_number?_iff
    {Value : Type}
    {scores : List (FloatScore Value)} :
    (∃ values, scores.mapM number? = some values) ↔
      ∀ score ∈ scores, score ≠ nan := by
  constructor
  · rintro ⟨values, mapped⟩ score member rfl
    rw [mapM_number?_eq_some_iff.mp mapped] at member
    obtain ⟨_, _, isNan⟩ := List.mem_map.mp member
    cases isNan
  · intro areNumbers
    refine exists_mapM_eq_some fun score member => ?_
    cases score with
    | number value =>
        exact ⟨value, rfl⟩
    | nan =>
        exact absurd rfl (areNumbers nan member)

/-- The regression is fitted on numbers, and on both classes. -/
theorem HorizonHead.exists_fit_iff
    {s : List (FloatScore Value)}
    {y : List Int} :
    (∃ head, HorizonHead.fit library s y = some head) ↔
      y.dedup.length < 2 ∨ ∀ score ∈ s, score ≠ nan := by
  rw [HorizonHead.fit]
  split
  · next oneClass =>
      exact ⟨fun _ => Or.inl oneClass, fun _ => ⟨{}, rfl⟩⟩
  · next twoClasses =>
      rw [or_iff_right twoClasses, ← exists_mapM_number?_iff]
      cases s.mapM number? with
      | none =>
          simp
      | some values =>
          by_cases flat :
              |(library.logisticRegression values y).1| < tinyDivisor <;>
            simp [flat]

variable [FloorRing Value]

/-- Only the library can refuse to fit a forest. -/
theorem IsolationForestScorer.exists_fit_iff
    {xNominal : List (List (FloatScore Value))} :
    (∃ scorer, IsolationForestScorer.fit library xNominal = some scorer) ↔
      library.isolationForest (fitRows library xNominal) ≠ none := by
  rw [IsolationForestScorer.fit]
  cases library.isolationForest (fitRows library xNominal) <;> simp

/-- The calibration of the autoencoder is positive, also after NaN. -/
theorem AutoencoderScorer.errP98_pos_of_fit
    [IsStrictOrderedRing Value]
    {epochs : Nat}
    {xSeqNominal : List (List (SeqRow (FloatScore Value)))}
    {scorer : AutoencoderScorer Value}
    (fitted :
      AutoencoderScorer.fit library epochs xSeqNominal = some scorer) :
    0 < scorer.errP98 := by
  obtain ⟨errors, _, isScorer⟩ := Option.bind_eq_some_iff.mp fitted
  obtain rfl := Option.some.inj isScorer
  dsimp only
  split
  · next positive =>
      exact positive
  · have tiny : (0 : Value) < tinyDivisor := by
      rw [tinyDivisor]
      positivity
    exact tiny

/-- The autoencoder is fitted on windows of any common length. -/
theorem AutoencoderScorer.exists_fit
    (epochs : Nat)
    {windowN : Nat}
    {xSeqNominal : List (List (SeqRow (FloatScore Value)))}
    (lawful : library.Lawful)
    (nonempty : xSeqNominal ≠ [])
    (shape : ∀ window ∈ xSeqNominal, window.length = windowN) :
    ∃ scorer,
      AutoencoderScorer.fit library epochs xSeqNominal = some scorer ∧
        scorer.inputDim = windowN * 5 := by
  obtain ⟨someHeld, someFitted⟩ := holdoutRows_fitRows_ne_nil lawful nonempty
  obtain ⟨first, rest, isFitted⟩ := List.exists_cons_of_ne_nil someFitted
  have isFirst : first.length = windowN :=
    shape first (mem_of_mem_takeRows
      (isFitted ▸ List.mem_cons_self : first ∈ fitRows library xSeqNominal))
  have inputDim :
      (AutoencoderScorer.trained library epochs
        (fitRows library xSeqNominal)).inputDim = windowN * 5 := by
    rw [isFitted, AutoencoderScorer.inputDim_trained, isFirst]
  have fits :
      ∀ window ∈ holdoutRows library xSeqNominal,
        ∃ err,
          (AutoencoderScorer.trained library epochs
              (fitRows library xSeqNominal)).error? library.scoring.float32
            window = some err := by
    intro window member
    rw [AutoencoderScorer.exists_error?_iff, inputDim,
      shape window (mem_of_mem_takeRows member)]
  obtain ⟨errors, areErrors⟩ := exists_mapM_eq_some fits
  refine ⟨_, Option.bind_eq_some_iff.mpr ⟨errors, ?_, rfl⟩, inputDim⟩
  rw [AutoencoderScorer.errors, if_neg (by simpa using someHeld)]
  exact areErrors

section Forest

variable [IsStrictOrderedRing Value]
variable {xNominal : List (List (FloatScore Value))}
variable {scorer : IsolationForestScorer Value}

/-- A raw score that is not above `lo` is calibrated to zero. -/
theorem IsolationForestScorer.calibrated_of_le
    {lo hi raw : Value}
    (isLo : scorer.lo = number lo)
    (isHi : scorer.hi = number hi)
    (ordered : lo < hi)
    (atMost : raw ≤ lo) :
    scorer.calibrated (number raw) = number 0 := by
  have span : 0 < hi - lo := sub_pos.mpr ordered
  have isSpan : ¬ (number (hi - lo) : FloatScore Value) ≤ 0 := not_le.mpr span
  have quotient : (raw - lo) / (hi - lo) ≤ 0 :=
    div_nonpos_of_nonpos_of_nonneg (sub_nonpos.mpr atMost) span.le
  simp only [IsolationForestScorer.calibrated, isLo, isHi, number_sub]
  rw [if_neg isSpan, number_div _ span.ne']
  refine congrArg number ?_
  calc
    min (max ((raw - lo) / (hi - lo)) 0) 1 = min 0 1 := by
      rw [max_eq_right quotient]
    _ = 0 :=
      min_eq_left zero_le_one

/-- What the calibration makes of the holdout. -/
structure IsolationForestScorer.Calibrated
    (scorer : IsolationForestScorer Value)
    (holdout : List (List (FloatScore Value))) : Prop where
  ordered : scorer.lo < scorer.hi
  /-- At least half of the scores are zero. -/
  half :
    ∀ scores,
      scorer.score holdout = some scores →
        scores.length ≤ 2 * scores.count (number 0)

/-- The bounds are numbers, and the lower one is the median. -/
theorem IsolationForestScorer.exists_bounds_of_fit
    (fitted : IsolationForestScorer.fit library xNominal = some scorer)
    {raw : List Value}
    (isRaw :
      (scorer.decisionFunction (holdoutRows library xNominal)).map
          (FloatScore.map fun score => -score) =
        raw.map number) :
    ∃ lo hi,
      scorer.lo = number lo ∧ scorer.hi = number hi ∧ lo < hi ∧
        median (raw.map number) = number lo := by
  obtain ⟨decisionFunction, _, isScorer⟩ := Option.bind_eq_some_iff.mp fitted
  obtain rfl := Option.some.inj isScorer
  dsimp only at isRaw ⊢
  rw [isRaw]
  have positive : (0 : Value) < leastSpan := by
    rw [leastSpan]
    positivity
  rw [median, percentile_map_number, percentile_map_number]
  split
  · exact ⟨_, _, rfl, rfl, lt_add_of_pos_right _ positive, rfl⟩
  · next above =>
      exact ⟨_, _, rfl, rfl, not_le.mp above, rfl⟩

/-- A forest that gives numbers is calibrated. -/
theorem IsolationForestScorer.calibrated_of_fit
    (fitted : IsolationForestScorer.fit library xNominal = some scorer)
    {decisions : List Value}
    (areNumbers :
      scorer.decisionFunction (holdoutRows library xNominal) =
        decisions.map number) :
    scorer.Calibrated (holdoutRows library xNominal) := by
  obtain ⟨raw, isRaw⟩ :
      ∃ raw : List Value,
        (scorer.decisionFunction (holdoutRows library xNominal)).map
            (FloatScore.map fun score => -score) =
          raw.map number := by
    refine ⟨decisions.map fun decision => -decision, ?_⟩
    rw [areNumbers, List.map_map, List.map_map]
    rfl
  obtain ⟨lo, hi, isLo, isHi, ordered, isMedian⟩ :=
    IsolationForestScorer.exists_bounds_of_fit fitted isRaw
  refine ⟨by rw [isLo, isHi]; exact ordered, ?_⟩
  intro scores scored
  obtain ⟨rawScores, isRawScores, rfl⟩ := Option.map_eq_some_iff.mp scored
  rw [IsolationForestScorer.rawScores] at isRawScores
  split at isRawScores
  · cases isRawScores
  obtain rfl := Option.some.inj isRawScores
  have zeros :
      (raw.countP fun value => number value ≤ median (raw.map number)) ≤
        ((raw.map number).map scorer.calibrated).count (number 0) := by
    rw [List.count, List.map_map, List.countP_map]
    refine List.countP_mono_left fun value _ atMost => ?_
    rw [isMedian, decide_eq_true_iff] at atMost
    exact beq_iff_eq.mpr
      (IsolationForestScorer.calibrated_of_le isLo isHi ordered atMost)
  have enough := @length_le_countP_le_median _ _ _ _ _ raw
  rw [isRaw, List.length_map, List.length_map]
  omega

end Forest

end Fits

section Numbers

/-! ## Libraries that do not learn NaN -/

variable [Field Value] [LinearOrder Value]
variable {library : TrainingLibrary Value}

/-- The scaler and the optimiser return numbers. -/
structure TrainingLibrary.Numeric (library : TrainingLibrary Value) : Prop where
  mean : ∀ rows, Python.Numeric (library.standardScaler rows).mean
  scale : ∀ rows, Python.Numeric (library.standardScaler rows).scale
  model : ∀ inputDim epochs rows,
    (library.optimise inputDim epochs rows).Numeric

variable [IsStrictOrderedRing Value]

/-- A scale that is too small is replaced. -/
theorem numeric_fitScaler
    (numeric : library.Numeric)
    (xSeq : List (List (SeqRow (FloatScore Value)))) :
    (fitScaler library xSeq).Numeric where
  mean := numeric.mean _
  scale := by
    intro channel inside
    simp only [fitScaler, Vector.getElem_map]
    split
    · nofun
    · exact numeric.scale _ channel inside
  nonzero := by
    intro channel inside
    simp only [fitScaler, Vector.getElem_map]
    split
    · exact fun isZero => tinyDivisor_pos.ne' (number.inj isZero)
    · next notSmall =>
        intro isZero
        rw [isZero] at notSmall
        exact notSmall tinyDivisor_pos

variable [FloorRing Value]

theorem AutoencoderScorer.numeric_of_fit
    {epochs : Nat}
    {xSeqNominal : List (List (SeqRow (FloatScore Value)))}
    {scorer : AutoencoderScorer Value}
    (numeric : library.Numeric)
    (fitted :
      AutoencoderScorer.fit library epochs xSeqNominal = some scorer) :
    scorer.model.Numeric ∧ scorer.scaler.Numeric := by
  obtain ⟨errors, _, isScorer⟩ := Option.bind_eq_some_iff.mp fitted
  obtain rfl := Option.some.inj isScorer
  exact ⟨numeric.model _ _ _, numeric_fitScaler numeric _⟩

end Numbers

section Calibration

/-! ## The calibration of the head, with ties -/

variable {head : HorizonHead ℝ} {nominalS : List ℝ} {targetFpr threshold : ℝ}

/-- The calibration keeps the slope. -/
theorem HorizonHead.k_calibrateScores
    (head : HorizonHead ℝ)
    (scores : List (FloatScore ℝ)) :
    (head.calibrateScores realNumpy scores).k = head.k := by
  rw [calibrateScores]
  split
  · exact calibrateThreshold_k_s0.1
  · rfl

/-- Few scores reach the operating point, apart from those that tie with it. -/
theorem HorizonHead.countP_calibrated_le_ties
    (positive : 0 < head.k)
    (thresholdPos : 0 < threshold)
    (thresholdLt : threshold < 1)
    (fprNonneg : 0 ≤ targetFpr)
    (fprLe : targetFpr ≤ 1)
    (nonempty : nominalS ≠ []) :
    let calibrated :=
      head.calibrateThreshold realNumpy nominalS targetFpr threshold
    ((nominalS.map (calibrated.predict realNumpy)).countP
          (fun p => threshold ≤ p) : Int) ≤
      ⌈targetFpr * (nominalS.length - 1)⌉ +
        nominalS.count (calibrated.operatingPoint threshold) := by
  intro calibrated
  have sameK : 0 < calibrated.k := by
    rw [calibrateThreshold_k_s0.1]
    exact positive
  have point := @operatingPoint_calibrateThreshold head threshold nominalS
    targetFpr positive nonempty
  have atMost :
      nominalS.countP (fun s => calibrated.operatingPoint threshold < s) ≤
        nominalS.countP fun s => quantile nominalS (1 - targetFpr) < s := by
    refine List.countP_mono_left fun s _ above => ?_
    rw [decide_eq_true_iff] at above ⊢
    exact lt_of_le_of_lt (point ▸ le_max_right _ _) above
  have few := countP_quantile_lt_le fprNonneg fprLe nonempty
  rw [countP_predict sameK thresholdPos thresholdLt, countP_le_eq_add_count]
  omega

end Calibration

end Python

end OpticsSoftfail
