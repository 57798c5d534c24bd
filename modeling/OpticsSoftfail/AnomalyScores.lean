import Mathlib.Tactic.IntervalCases
import OpticsSoftfail.HorizonHead
import OpticsSoftfail.PartialMaps
import OpticsSoftfail.PipelineCache
import OpticsSoftfail.SequenceStats

namespace OpticsSoftfail

/-!
# The anomaly scores of a window

Two frozen models score a window, the isolation forest its eight statistics and
the autoencoder its rows, and the horizon head maps their mean to a probability.
The trainer scores all windows as one batch, infer one frame as a batch of one.
The forest itself is a library, the autoencoder is computed here.  The numbers
are exact, but for the rounding to `float32`; those that were fitted may be NaN.
-/

namespace Python

open FloatScore

variable {Value : Type}

/-- What the scorers take from numpy and torch. -/
structure ScoringNumpy (Value : Type) where
  logistic : LogisticNumpy Value
  /-- `astype(np.float32)`. -/
  float32 : Value → Value

/-- Isolation Forest and its calibration. -/
structure IsolationForestScorer (Value : Type) where
  /-- `decision_function` of the fitted model. -/
  decisionFunction :
    List (List (FloatScore Value)) → List (FloatScore Value)
  lo : FloatScore Value
  hi : FloatScore Value

/-- `nn.Linear`. -/
structure Linear (Value : Type) (inputs outputs : Nat) where
  weight : Vector (Vector (FloatScore Value) inputs) outputs
  bias : Vector (FloatScore Value) outputs

def HIDDEN_1 : Nat := 64

def LATENT : Nat := 16

/-- `MLPAutoencoder`; the numbers are those of the layers in `Sequential`. -/
structure MLPAutoencoder (Value : Type) (inputDim : Nat) where
  encoder0 : Linear Value inputDim HIDDEN_1
  encoder2 : Linear Value HIDDEN_1 LATENT
  decoder0 : Linear Value LATENT HIDDEN_1
  decoder2 : Linear Value HIDDEN_1 inputDim

/-- `StandardScaler`, fitted on the five channels. -/
structure StandardScaler (Value : Type) where
  mean : Vector (FloatScore Value) 5
  scale : Vector (FloatScore Value) 5

/-- The autoencoder, its scaler and its calibration. -/
structure AutoencoderScorer (Value : Type) where
  inputDim : Nat
  model : MLPAutoencoder Value inputDim
  scaler : StandardScaler Value
  errP98 : FloatScore Value

/-- The frozen artifacts. -/
abbrev Pipeline (Value : Type) [Field Value] : Type :=
  PipelineCache.ScoringPipeline (IsolationForestScorer Value)
    (AutoencoderScorer Value) (HorizonHead Value)

/-- What `score_batch` returns. -/
structure BatchScores (Value : Type) where
  sIf : List (FloatScore Value)
  sAe : List (FloatScore Value)
  s : List (FloatScore Value)
  pFail10m : List (FloatScore Value)
  deriving Repr, DecidableEq

/-- The part of a frame that the pipeline reads. -/
structure FrameDict (Value : Type) where
  seq : Dict String (List Value)
  stats : Option (Dict String Value)
  deriving Repr, DecidableEq

/-- The frame as infer reads it. -/
def frameDict (frame : Frame Value) : FrameDict Value :=
  ⟨frame.seq, some frame.stats⟩

section Frames

variable [Field Value] [DecidableEq Value]

/-- `frame_stats_vector`; a missing or empty `stats` is computed again. -/
def frameStatsVector
    (numpy : Numpy Value)
    (frame : FrameDict Value) : Except FeatureError (List Value) := do
  let stats ←
    match frame.stats with
    | none => computeStats numpy frame.seq
    | some stats =>
        if stats.entries.isEmpty then computeStats numpy frame.seq
        else .ok stats
  statsVector stats

end Frames

section Matrix

variable [Field Value]

/-- `frame_matrix`; `np.stack` refuses columns of different lengths. -/
def frameMatrix
    (frame : FrameDict Value) : Except FeatureError (List (SeqRow Value)) := do
  let osnr ← subscript frame.seq "osnr_db"
  let lber ← subscript frame.seq "log10_ber"
  let bias ← subscript frame.seq "laser_bias_ma"
  let pump ← subscript frame.seq "edfa_pump_ma"
  let rx ← subscript frame.seq "rx_power_dbm"
  if [lber, bias, pump, rx].all (fun series => series.length = osnr.length) then
    .ok ((List.range osnr.length).map fun position =>
      #v[osnr.getD position 0, lber.getD position 0, bias.getD position 0,
        pump.getD position 0, rx.getD position 0])
  else
    .error (.valueError "all input arrays must have the same shape")

/-- The columns of a window are put together again. -/
theorem frameMatrix_seqOf
    (window : List (SeqRow Value))
    (stats : Option (Dict String Value)) :
    frameMatrix ⟨seqOf window, stats⟩ = .ok window := by
  have lengths (channel : Fin 5) :
      (column window channel).length = window.length := by
    rw [column, List.length_map]
  have rows :
      ((List.range window.length).map fun position =>
        (#v[(column window 0).getD position 0,
          (column window 1).getD position 0,
          (column window 2).getD position 0,
          (column window 3).getD position 0,
          (column window 4).getD position 0] : SeqRow Value)) = window := by
    apply List.ext_getElem
    · simp
    · intro position inside within
      ext channel bound
      simp only [List.getElem_map, List.getElem_range, column]
      interval_cases channel <;> simp [within]
  have sameShape :
      [column window 1, column window 2, column window 3,
          column window 4].all
        (fun series => series.length = (column window 0).length) := by
    simp [lengths]
  refine (if_pos sameShape).trans (congrArg Except.ok ?_)
  rw [lengths]
  exact rows

end Matrix

section Forest

variable [Field Value] [LinearOrder Value]

/-- `np.clip(score, 0.0, 1.0)`; NaN stays NaN. -/
def clipUnit : FloatScore Value → FloatScore Value :=
  FloatScore.map fun score => min (max score 0) 1

/-- The least divisor, `1e-9`. -/
def tinyDivisor : Value :=
  1 / (10 ^ 9 : Nat)

/-- `raw_scores`; a batch without rows is refused. -/
def IsolationForestScorer.rawScores
    (scorer : IsolationForestScorer Value)
    (x : List (List (FloatScore Value))) : Option (List (FloatScore Value)) :=
  if x.isEmpty then none
  else
    some ((scorer.decisionFunction x).map (FloatScore.map fun score => -score))

/-- The calibration of one raw score in `score`. -/
def IsolationForestScorer.calibrated
    (scorer : IsolationForestScorer Value)
    (raw : FloatScore Value) : FloatScore Value :=
  let span := scorer.hi - scorer.lo
  let span := if span ≤ 0 then number tinyDivisor else span
  clipUnit ((raw - scorer.lo) / span)

/-- `IsolationForestScorer.score`. -/
def IsolationForestScorer.score
    (scorer : IsolationForestScorer Value)
    (x : List (List (FloatScore Value))) : Option (List (FloatScore Value)) :=
  (scorer.rawScores x).map fun raw => raw.map scorer.calibrated

end Forest

section Autoencoder

variable [Field Value] [LinearOrder Value]

/-- `nn.Linear.forward`, on one row of the batch. -/
def Linear.forward
    {inputs outputs : Nat}
    (layer : Linear Value inputs outputs)
    (x : Vector (FloatScore Value) inputs) :
    Vector (FloatScore Value) outputs :=
  layer.weight.zipWith
    (fun row bias =>
      (row.zipWith (fun weight value => weight * value) x).toList.sum + bias)
    layer.bias

/-- `nn.ReLU`, which passes NaN on. -/
def relu
    {size : Nat}
    (x : Vector (FloatScore Value) size) : Vector (FloatScore Value) size :=
  x.map (FloatScore.map fun value => max value 0)

/-- `MLPAutoencoder.forward`, on one row of the batch. -/
def MLPAutoencoder.forward
    {inputDim : Nat}
    (model : MLPAutoencoder Value inputDim)
    (x : Vector (FloatScore Value) inputDim) :
    Vector (FloatScore Value) inputDim :=
  let latent := relu (model.encoder2.forward (relu (model.encoder0.forward x)))
  model.decoder2.forward (relu (model.decoder0.forward latent))

/-- `transform`, on one window. -/
def transform
    (scaler : StandardScaler Value)
    (window : List (SeqRow (FloatScore Value))) : List (FloatScore Value) :=
  window.flatMap fun row =>
    (Vector.ofFn fun channel : Fin 5 =>
      (row.get channel - scaler.mean.get channel) /
        scaler.scale.get channel).toList

/-- The error of one window; a window of another size does not fit the model. -/
def AutoencoderScorer.error?
    (float32 : Value → Value)
    (scorer : AutoencoderScorer Value)
    (window : List (SeqRow (FloatScore Value))) : Option (FloatScore Value) :=
  let flat := (transform scorer.scaler window).map (FloatScore.map float32)
  if fits : flat.length = scorer.inputDim then
    let tensor : Vector (FloatScore Value) scorer.inputDim :=
      ⟨flat.toArray, by rw [List.size_toArray, fits]⟩
    let recon := scorer.model.forward tensor
    some (arrayMean
      (tensor.zipWith (fun value again => (value - again) * (value - again))
        recon).toList)
  else none

/-- `errors`; a batch without windows is refused. -/
def AutoencoderScorer.errors
    (float32 : Value → Value)
    (scorer : AutoencoderScorer Value)
    (xSeq : List (List (SeqRow (FloatScore Value)))) :
    Option (List (FloatScore Value)) :=
  if xSeq.isEmpty then none else xSeq.mapM (scorer.error? float32)

/-- The calibration of one error in `score`. -/
def AutoencoderScorer.calibrated
    (scorer : AutoencoderScorer Value)
    (err : FloatScore Value) : FloatScore Value :=
  let denom :=
    if 0 < scorer.errP98 then scorer.errP98 else number tinyDivisor
  clipUnit (err / denom)

/-- `AutoencoderScorer.score`. -/
def AutoencoderScorer.score
    (float32 : Value → Value)
    (scorer : AutoencoderScorer Value)
    (xSeq : List (List (SeqRow (FloatScore Value)))) :
    Option (List (FloatScore Value)) :=
  (scorer.errors float32 xSeq).map fun errors => errors.map scorer.calibrated

end Autoencoder

section Pipeline

variable [Field Value] [LinearOrder Value]

def IF_WEIGHT : Value := (5 : Nat) / (10 : Nat)

def AE_WEIGHT : Value := (5 : Nat) / (10 : Nat)

/-- `combine_scores`, on one element of the arrays. -/
def combineScores (sIf sAe : FloatScore Value) : FloatScore Value :=
  number IF_WEIGHT * sIf + number AE_WEIGHT * sAe

/-- `score_batch`, for as many rows of statistics as windows. -/
def scoreBatch
    (numpy : ScoringNumpy Value)
    (pipeline : Pipeline Value)
    (xStats : List (List (FloatScore Value)))
    (xSeq : List (List (SeqRow (FloatScore Value)))) :
    Option (BatchScores Value) := do
  let sIf ← pipeline.iforest.score xStats
  let sAe ← pipeline.autoencoder.score numpy.float32 xSeq
  let s := List.zipWith combineScores sIf sAe
  return {
    sIf, sAe, s
    pFail10m :=
      s.map (FloatScore.map (pipeline.horizon.predict numpy.logistic)) }

/-- The scores of one row, `out["s_if"][row]` and so on. -/
def BatchScores.row?
    (out : BatchScores Value)
    (row : Nat) : Option (PipelineCache.PipelineScores (FloatScore Value)) := do
  let sIf ← out.sIf[row]?
  let sAe ← out.sAe[row]?
  let pFail10m ← out.pFail10m[row]?
  return ⟨sIf, sAe, pFail10m⟩

/-- `ScoringPipeline.score_frame`. -/
def scorePipelineFrame
    (features : Numpy Value)
    (numpy : ScoringNumpy Value)
    (pipeline : Pipeline Value)
    (frame : FrameDict Value) :
    Option (PipelineCache.PipelineScores (FloatScore Value)) := do
  let xStats ← (frameStatsVector features frame).toOption
  let xSeq ← (frameMatrix frame).toOption
  let out ←
    scoreBatch numpy pipeline [xStats.map number]
      [xSeq.map fun row => row.map number]
  out.row? 0

end Pipeline

section Rows

/-! ## A window is scored alone as in a batch -/

/-- The score of a row has the row's probability. -/
theorem pFail10m_of_row?
    {Value : Type}
    {out : BatchScores Value}
    {position : Nat}
    {scores : PipelineCache.PipelineScores (FloatScore Value)}
    (isRow : out.row? position = some scores) :
    out.pFail10m[position]? = some scores.pFail10m := by
  obtain ⟨_, _, isRow⟩ := Option.bind_eq_some_iff.mp isRow
  obtain ⟨_, _, isRow⟩ := Option.bind_eq_some_iff.mp isRow
  obtain ⟨pFail10m, isProbability, isRow⟩ := Option.bind_eq_some_iff.mp isRow
  obtain rfl := Option.some.inj isRow
  exact isProbability

variable [Field Value] [LinearOrder Value]

/-- The forest scores every row by itself, whatever the other rows. -/
def IsolationForestScorer.Rowwise
    (scorer : IsolationForestScorer Value)
    (one : List (FloatScore Value) → FloatScore Value) : Prop :=
  ∀ rows, scorer.decisionFunction rows = rows.map one

/-- A window fits when the model takes as many numbers as it has. -/
theorem AutoencoderScorer.exists_error?_iff
    (float32 : Value → Value)
    (scorer : AutoencoderScorer Value)
    (window : List (SeqRow (FloatScore Value))) :
    (∃ err, scorer.error? float32 window = some err) ↔
      window.length * 5 = scorer.inputDim := by
  have length :
      ((transform scorer.scaler window).map (FloatScore.map float32)).length =
        window.length * 5 := by
    simp [transform, List.length_flatMap]
  rw [AutoencoderScorer.error?]
  simp only [length]
  split <;> simp_all

/-- The scores of one window, without the batch. -/
def scoreWindow
    (numpy : ScoringNumpy Value)
    (pipeline : Pipeline Value)
    (one : List (FloatScore Value) → FloatScore Value)
    (stats : List (FloatScore Value))
    (window : List (SeqRow (FloatScore Value))) :
    Option (PipelineCache.PipelineScores (FloatScore Value)) :=
  (pipeline.autoencoder.error? numpy.float32 window).map fun err =>
    let sIf :=
      pipeline.iforest.calibrated ((one stats).map fun score => -score)
    let sAe := pipeline.autoencoder.calibrated err
    { sIf, sAe
      pFail10m :=
        (combineScores sIf sAe).map
          (pipeline.horizon.predict numpy.logistic) }

variable {numpy : ScoringNumpy Value} {pipeline : Pipeline Value}
variable {one : List (FloatScore Value) → FloatScore Value}
variable {xStats : List (List (FloatScore Value))}
variable {xSeq : List (List (SeqRow (FloatScore Value)))}
variable {out : BatchScores Value}

/-- A batch is scored when it has rows and every window fits. -/
theorem exists_scoreBatch_iff
    (someStats : xStats ≠ [])
    (someWindow : xSeq ≠ []) :
    (∃ out, scoreBatch numpy pipeline xStats xSeq = some out) ↔
      ∃ errors,
        xSeq.mapM (pipeline.autoencoder.error? numpy.float32) =
          some errors := by
  have statsScored :
      pipeline.iforest.score xStats =
        some (((pipeline.iforest.decisionFunction xStats).map
          (FloatScore.map fun score => -score)).map
            pipeline.iforest.calibrated) := by
    rw [IsolationForestScorer.score, IsolationForestScorer.rawScores,
      if_neg (by simpa using someStats)]
    rfl
  rw [scoreBatch, statsScored, AutoencoderScorer.score,
    AutoencoderScorer.errors, if_neg (by simpa using someWindow)]
  cases xSeq.mapM (pipeline.autoencoder.error? numpy.float32) <;> simp

/-- Each row of the result is that of the row alone. -/
theorem row?_scoreBatch
    (rowwise : pipeline.iforest.Rowwise one)
    (scored : scoreBatch numpy pipeline xStats xSeq = some out)
    (row : Nat) :
    out.row? row =
      xStats[row]?.bind fun stats =>
        xSeq[row]?.bind fun window =>
          scoreWindow numpy pipeline one stats window := by
  obtain ⟨sIf, isIf, scored⟩ := Option.bind_eq_some_iff.mp scored
  obtain ⟨sAe, isAe, scored⟩ := Option.bind_eq_some_iff.mp scored
  obtain rfl := Option.some.inj scored
  obtain ⟨raw, isRaw, rfl⟩ := Option.map_eq_some_iff.mp isIf
  obtain ⟨errors, areErrors, rfl⟩ := Option.map_eq_some_iff.mp isAe
  rw [IsolationForestScorer.rawScores, rowwise] at isRaw
  rw [AutoencoderScorer.errors] at areErrors
  split at isRaw
  · cases isRaw
  split at areErrors
  · cases areErrors
  obtain rfl := Option.some.inj isRaw
  have error := getElem?_of_mapM_eq_some areErrors row
  simp only [BatchScores.row?, List.getElem?_map, List.getElem?_zipWith, error,
    Option.map_map]
  cases xStats[row]? with
  | none =>
      rfl
  | some stats =>
      cases xSeq[row]? with
      | none =>
          rfl
      | some window =>
          simp only [scoreWindow, Option.bind_some]
          cases pipeline.autoencoder.error? numpy.float32 window <;> rfl

/-- The probabilities are those of the combined scores. -/
theorem pFail10m_of_scoreBatch
    (scored : scoreBatch numpy pipeline xStats xSeq = some out) :
    out.pFail10m =
      out.s.map (FloatScore.map (pipeline.horizon.predict numpy.logistic)) := by
  obtain ⟨sIf, _, scored⟩ := Option.bind_eq_some_iff.mp scored
  obtain ⟨sAe, _, scored⟩ := Option.bind_eq_some_iff.mp scored
  obtain rfl := Option.some.inj scored
  rfl

/-- A batch has a score for every window. -/
theorem length_s_scoreBatch
    (rowwise : pipeline.iforest.Rowwise one)
    (sameLength : xStats.length = xSeq.length)
    (scored : scoreBatch numpy pipeline xStats xSeq = some out) :
    out.s.length = xSeq.length := by
  obtain ⟨sIf, isIf, scored⟩ := Option.bind_eq_some_iff.mp scored
  obtain ⟨sAe, isAe, scored⟩ := Option.bind_eq_some_iff.mp scored
  obtain rfl := Option.some.inj scored
  obtain ⟨raw, isRaw, rfl⟩ := Option.map_eq_some_iff.mp isIf
  obtain ⟨errors, areErrors, rfl⟩ := Option.map_eq_some_iff.mp isAe
  rw [IsolationForestScorer.rawScores, rowwise] at isRaw
  rw [AutoencoderScorer.errors] at areErrors
  split at isRaw
  · cases isRaw
  split at areErrors
  · cases areErrors
  obtain rfl := Option.some.inj isRaw
  have errorCount := (forall₂_of_mapM_eq_some areErrors).length_eq
  simp only [List.length_zipWith, List.length_map]
  rw [sameLength, errorCount, Nat.min_self]

/-- A batch of one window gives the scores of that window. -/
theorem scoreBatch_single
    (rowwise : pipeline.iforest.Rowwise one)
    (stats : List (FloatScore Value))
    (window : List (SeqRow (FloatScore Value))) :
    (scoreBatch numpy pipeline [stats] [window]).bind
        (fun out => out.row? 0) =
      scoreWindow numpy pipeline one stats window := by
  cases scored : scoreBatch numpy pipeline [stats] [window] with
  | some out =>
      exact row?_scoreBatch rowwise scored 0
  | none =>
      cases isError : pipeline.autoencoder.error? numpy.float32 window with
      | none =>
          rw [scoreWindow, isError]
          rfl
      | some error =>
          have mapped :
              [window].mapM (pipeline.autoencoder.error? numpy.float32) =
                some [error] :=
            mapM_eq_some_of_forall₂
              (List.Forall₂.cons isError List.Forall₂.nil)
          obtain ⟨out, isOut⟩ :=
            (exists_scoreBatch_iff (List.cons_ne_nil stats [])
              (List.cons_ne_nil window [])).mpr ⟨_, mapped⟩
          rw [isOut] at scored
          cases scored

end Rows

section Range

/-! ## The range of the scores -/

variable [Field Value] [LinearOrder Value] [IsStrictOrderedRing Value]

/-- The score is NaN or lies between the bounds. -/
def Within (low high : Value) (score : FloatScore Value) : Prop :=
  ∀ value, score = number value → low ≤ value ∧ value ≤ high

theorem within_clipUnit (score : FloatScore Value) :
    Within 0 1 (clipUnit score) := by
  intro value isValue
  cases score with
  | nan =>
      cases isValue
  | number raw =>
      obtain rfl := number.inj isValue
      exact ⟨le_min (le_max_right _ _) zero_le_one, min_le_right _ _⟩

/-- What is scored has anomaly scores in the unit interval. -/
theorem exists_combined_of_row?
    {numpy : ScoringNumpy Value}
    {pipeline : Pipeline Value}
    {xStats : List (List (FloatScore Value))}
    {xSeq : List (List (SeqRow (FloatScore Value)))}
    {out : BatchScores Value}
    (scored : scoreBatch numpy pipeline xStats xSeq = some out)
    {row : Nat}
    {scores : PipelineCache.PipelineScores (FloatScore Value)}
    (isRow : out.row? row = some scores) :
    Within 0 1 scores.sIf ∧ Within 0 1 scores.sAe ∧
      scores.pFail10m =
        (combineScores scores.sIf scores.sAe).map
          (pipeline.horizon.predict numpy.logistic) := by
  obtain ⟨sIf, isIf, scored⟩ := Option.bind_eq_some_iff.mp scored
  obtain ⟨sAe, isAe, scored⟩ := Option.bind_eq_some_iff.mp scored
  obtain rfl := Option.some.inj scored
  obtain ⟨raw, _, rfl⟩ := Option.map_eq_some_iff.mp isIf
  obtain ⟨errors, _, rfl⟩ := Option.map_eq_some_iff.mp isAe
  obtain ⟨first, isFirst, isRow⟩ := Option.bind_eq_some_iff.mp isRow
  obtain ⟨second, isSecond, isRow⟩ := Option.bind_eq_some_iff.mp isRow
  obtain ⟨third, isThird, isRow⟩ := Option.bind_eq_some_iff.mp isRow
  obtain rfl := Option.some.inj isRow
  rw [List.getElem?_map] at isFirst isSecond
  rw [List.getElem?_map, List.getElem?_zipWith] at isThird
  obtain ⟨forest, isForest, rfl⟩ := Option.map_eq_some_iff.mp isFirst
  obtain ⟨encoder, isEncoder, rfl⟩ := Option.map_eq_some_iff.mp isSecond
  refine ⟨within_clipUnit _, within_clipUnit _, ?_⟩
  simpa [isForest, isEncoder] using isThird.symm

end Range

section Numbers

/-! ## Artifacts without NaN -/

variable [Field Value]

/-- None of the components is NaN. -/
def Numeric {size : Nat} (x : Vector (FloatScore Value) size) : Prop :=
  ∀ (position : Nat) (inside : position < size), x[position] ≠ nan

structure Linear.Numeric
    {inputs outputs : Nat}
    (layer : Linear Value inputs outputs) : Prop where
  weight :
    ∀ (output : Nat) (inside : output < outputs),
      Python.Numeric layer.weight[output]
  bias : Python.Numeric layer.bias

structure MLPAutoencoder.Numeric
    {inputDim : Nat}
    (model : MLPAutoencoder Value inputDim) : Prop where
  encoder0 : model.encoder0.Numeric
  encoder2 : model.encoder2.Numeric
  decoder0 : model.decoder0.Numeric
  decoder2 : model.decoder2.Numeric

/-- No channel is divided by zero. -/
structure StandardScaler.Numeric (scaler : StandardScaler Value) : Prop where
  mean : Python.Numeric scaler.mean
  scale : Python.Numeric scaler.scale
  nonzero :
    ∀ (channel : Nat) (inside : channel < 5),
      scaler.scale[channel] ≠ number 0

theorem Linear.Numeric.forward
    {inputs outputs : Nat}
    {layer : Linear Value inputs outputs}
    {x : Vector (FloatScore Value) inputs}
    (numeric : layer.Numeric)
    (ofInput : Python.Numeric x) :
    Python.Numeric (layer.forward x) := by
  intro output inside
  rw [Linear.forward, Vector.getElem_zipWith]
  refine add_ne_nan (sum_ne_nan ?_) (numeric.bias output inside)
  intro product member
  rw [Vector.mem_toList_iff, Vector.mem_iff_getElem] at member
  obtain ⟨position, within, rfl⟩ := member
  rw [Vector.getElem_zipWith]
  exact mul_ne_nan (numeric.weight output inside position within)
    (ofInput position within)

theorem combineScores_ne_nan
    {sIf sAe : FloatScore Value}
    (forest : sIf ≠ nan)
    (encoder : sAe ≠ nan) :
    combineScores sIf sAe ≠ nan :=
  add_ne_nan (mul_ne_nan (number_ne_nan _) forest)
    (mul_ne_nan (number_ne_nan _) encoder)

variable [LinearOrder Value]

theorem numeric_relu
    {size : Nat}
    {x : Vector (FloatScore Value) size}
    (numeric : Numeric x) :
    Numeric (relu x) := by
  intro position inside
  rw [relu, Vector.getElem_map]
  exact map_ne_nan _ (numeric position inside)

theorem MLPAutoencoder.Numeric.forward
    {inputDim : Nat}
    {model : MLPAutoencoder Value inputDim}
    {x : Vector (FloatScore Value) inputDim}
    (numeric : model.Numeric)
    (ofInput : Python.Numeric x) :
    Python.Numeric (model.forward x) :=
  numeric.decoder2.forward
    (numeric_relu (numeric.decoder0.forward
      (numeric_relu (numeric.encoder2.forward
        (numeric_relu (numeric.encoder0.forward ofInput))))))

/-- Rows without NaN are scaled to numbers. -/
theorem transform_ne_nan
    {scaler : StandardScaler Value}
    (numeric : scaler.Numeric)
    {window : List (SeqRow (FloatScore Value))}
    (ofRows : ∀ row ∈ window, Numeric row)
    {value : FloatScore Value}
    (member : value ∈ transform scaler window) :
    value ≠ nan := by
  obtain ⟨row, isRow, inRow⟩ := List.mem_flatMap.mp member
  rw [Vector.mem_toList_iff, Vector.mem_ofFn] at inRow
  obtain ⟨⟨channel, inside⟩, rfl⟩ := inRow
  exact div_ne_nan
    (sub_ne_nan (ofRows row isRow channel inside)
      (numeric.mean channel inside))
    (numeric.scale channel inside) (numeric.nonzero channel inside)

variable [IsStrictOrderedRing Value]

theorem arrayMean_ne_nan
    {values : List (FloatScore Value)}
    (nonempty : values ≠ [])
    (areNumbers : ∀ value ∈ values, value ≠ nan) :
    arrayMean values ≠ nan := by
  refine div_ne_nan (sum_ne_nan areNumbers) (number_ne_nan _) ?_
  intro isZero
  have noLength : (values.length : Value) = 0 := number.inj isZero
  exact nonempty (List.length_eq_zero_iff.mp (Nat.cast_eq_zero.mp noLength))

/-- The error of a window without NaN is a number. -/
theorem AutoencoderScorer.error?_ne_nan
    {float32 : Value → Value}
    {scorer : AutoencoderScorer Value}
    (model : scorer.model.Numeric)
    (scaler : scorer.scaler.Numeric)
    {window : List (SeqRow (FloatScore Value))}
    (nonempty : window ≠ [])
    (ofRows : ∀ row ∈ window, Python.Numeric row)
    {err : FloatScore Value}
    (isError : scorer.error? float32 window = some err) :
    err ≠ nan := by
  have someInput : scorer.inputDim ≠ 0 := by
    rw [← (exists_error?_iff float32 scorer window).mp ⟨err, isError⟩]
    simpa using nonempty
  rw [error?] at isError
  dsimp only at isError
  split at isError
  · next fits =>
      obtain rfl := Option.some.inj isError
      have ofTensor :
          Python.Numeric (⟨((transform scorer.scaler window).map
            (FloatScore.map float32)).toArray,
              by rw [List.size_toArray, fits]⟩ :
            Vector (FloatScore Value) scorer.inputDim) := by
        intro position inside
        rw [Vector.getElem_mk, List.getElem_toArray, List.getElem_map]
        exact map_ne_nan _ (transform_ne_nan scaler ofRows
          (List.getElem_mem _))
      refine arrayMean_ne_nan ?_ ?_
      · refine List.ne_nil_of_length_pos ?_
        rw [Vector.length_toList]
        exact Nat.pos_of_ne_zero someInput
      · intro square member
        rw [Vector.mem_toList_iff, Vector.mem_iff_getElem] at member
        obtain ⟨position, inside, rfl⟩ := member
        rw [Vector.getElem_zipWith]
        have difference :=
          sub_ne_nan (ofTensor position inside)
            (model.forward ofTensor position inside)
        exact mul_ne_nan difference difference
  · cases isError

theorem tinyDivisor_pos : (0 : Value) < tinyDivisor := by
  rw [tinyDivisor]
  positivity

theorem AutoencoderScorer.calibrated_ne_nan
    (scorer : AutoencoderScorer Value)
    {err : FloatScore Value}
    (isNumber : err ≠ nan) :
    scorer.calibrated err ≠ nan := by
  rw [calibrated]
  refine map_ne_nan _ ?_
  split
  · next positive =>
      exact div_ne_nan isNumber (ne_nan_of_lt positive)
        (ne_of_zero_lt positive)
  · exact div_ne_nan isNumber (number_ne_nan _)
      fun isZero => tinyDivisor_pos.ne' (number.inj isZero)

theorem IsolationForestScorer.calibrated_ne_nan
    {scorer : IsolationForestScorer Value}
    (lo : scorer.lo ≠ nan)
    (hi : scorer.hi ≠ nan)
    {raw : FloatScore Value}
    (isNumber : raw ≠ nan) :
    scorer.calibrated raw ≠ nan := by
  rw [calibrated]
  refine map_ne_nan _ ?_
  split
  · exact div_ne_nan (sub_ne_nan isNumber lo) (number_ne_nan _)
      fun isZero => tinyDivisor_pos.ne' (number.inj isZero)
  · next above =>
      refine div_ne_nan (sub_ne_nan isNumber lo) (sub_ne_nan hi lo) ?_
      intro isZero
      rw [isZero] at above
      exact above (le_refl (0 : Value))

end Numbers

end Python

end OpticsSoftfail
