import OpticsSoftfail.CorpusWindows
import OpticsSoftfail.ModelFitting

namespace OpticsSoftfail

namespace Corpus

/-!
# The trainer

`train` fits the models on the nominal windows, scores all windows with them,
fits the horizon head on these scores and calibrates it on the nominal ones.
What it reports about the detector is read off the scores of the same batch.
-/

open Python FloatScore OrderStatistics

variable {Value : Type}

/-- What `train` reports, the paths of the artifacts apart. -/
structure TrainReport (Value : Type) where
  source : String
  windows : Nat
  nominalWindows : Nat
  horizonPositives : Int
  k : Value
  s0 : Value
  nominalFpr : Value
  horizonRecall : FloatScore Value
  meanPFailNominal : FloatScore Value
  meanPFailPositive : FloatScore Value
  deriving Repr, DecidableEq

section Model

variable [Field Value] [LinearOrder Value]

/-- `meta["y_horizon"]`. -/
def yHorizon (metaRows : List MetaRow) : List Int :=
  metaRows.map fun row => row.yHorizon.getD 0

/-- `np.mean(x) if mask.any() else nan`, for the selected scores. -/
def meanOrNan (selected : List (FloatScore Value)) : FloatScore Value :=
  if selected.isEmpty then nan else arrayMean selected

variable [FloorRing Value]

/--
`train` on the corpus that was loaded: the report and the artifacts.  `none` is
`SystemExit` or an exception of a library.
-/
def train
    {Index : Type}
    [DecidableEq Index]
    (library : TrainingLibrary Value)
    (stride : Option Nat)
    (epochs : Nat)
    (source : String)
    (df : RawTable Index Value) :
    Option (TrainReport Value × Pipeline Value) := do
  let (windows, mask) ← selectWindows library.features stride source df
  let iforest ←
    IsolationForestScorer.fit library (select mask windows.xStats)
  let autoencoder ←
    AutoencoderScorer.fit library epochs (select mask windows.xSeq.windows)
  let sIf ← iforest.score windows.xStats
  let sAe ←
    autoencoder.score library.scoring.float32 windows.xSeq.windows
  let s := List.zipWith combineScores sIf sAe
  let y := yHorizon windows.metaRows
  let fitted ← HorizonHead.fit library s y
  let horizon :=
    fitted.calibrateScores library.scoring.logistic (select mask s)
  let pFail :=
    s.map (FloatScore.map (horizon.predict library.scoring.logistic))
  let pos := y.map fun label => decide (label = 1)
  let alarms :=
    (select pos pFail).countP fun p => number P_FAIL_THRESHOLD ≤ p
  let report : TrainReport Value := {
    source
    windows := windows.metaRows.length
    nominalWindows := mask.count true
    horizonPositives := y.sum
    k := horizon.k
    s0 := horizon.s0
    nominalFpr := falsePositiveRateOf (select mask pFail)
    horizonRecall :=
      if (select pos pFail).isEmpty then nan
      else number (alarms / (select pos pFail).length)
    meanPFailNominal := arrayMean (select mask pFail)
    meanPFailPositive := meanOrNan (select pos pFail) }
  return (report, ⟨iforest, autoencoder, horizon⟩)

end Model

section Selection

/-! ## The selected windows -/

variable {Item Image : Type} {mask : List Bool} {items : List Item}

theorem select_map (function : Item → Image) :
    select mask (items.map function) = (select mask items).map function := by
  rw [select, List.zip_map_left, List.filter_map, List.map_map, select,
    List.map_map]
  rfl

theorem length_select (sameLength : mask.length = items.length) :
    (select mask items).length = mask.count true := by
  have flags : (items.zip mask).map Prod.snd = mask :=
    List.map_snd_zip sameLength.le
  conv_rhs => rw [← flags]
  rw [select, List.length_map, List.count, List.countP_map,
    List.countP_eq_length_filter]
  congr 1
  exact List.filter_congr fun pair _ => by simp

theorem countP_select (property : Item → Bool) :
    (select mask items).countP property =
      (items.zip mask).countP fun pair => pair.2 && property pair.1 := by
  rw [select, List.countP_map, List.countP_filter]
  exact List.countP_congr fun pair _ => by simp [and_comm]

variable [Field Value] [LinearOrder Value]
variable {Index : Type} [DecidableEq Index]
variable {numpy : Numpy Value} {stride : Option Nat} {source : String}
variable {df : RawTable Index Value}
variable {windows : TrainingWindows (FloatScore Value)}

/-- The labels are added to the table, and nothing else is changed. -/
theorem exists_labels_of_buildWindows
    {stride : Nat}
    (built : buildWindows numpy df stride = some windows) :
    ∃ yHorizon hardFail,
      windows =
        windowsFromDataframe numpy { df with yHorizon, hardFail } WINDOW_N
          stride := by
  have ofTable
      {table : RawTable Index Value}
      (isTable : ∃ yHorizon hardFail, table = { df with yHorizon, hardFail })
      (cut :
        (if (windowsFromDataframe numpy table WINDOW_N
              stride).metaRows.length = 0 then none
          else some (windowsFromDataframe numpy table WINDOW_N stride)) =
          some windows) :
      ∃ yHorizon hardFail,
        windows =
          windowsFromDataframe numpy { df with yHorizon, hardFail } WINDOW_N
            stride := by
    obtain ⟨yHorizon, hardFail, rfl⟩ := isTable
    split at cut
    · cases cut
    · exact ⟨yHorizon, hardFail, (Option.some.inj cut).symm⟩
  rw [buildWindows] at built
  split at built
  · exact ofTable ⟨_, _, rfl⟩ built
  · obtain ⟨labelled, isLabelled, cut⟩ := Option.bind_eq_some_iff.mp built
    refine ofTable ?_ cut
    obtain ⟨channelId, _, isLabelled⟩ := Option.bind_eq_some_iff.mp isLabelled
    obtain ⟨parts, _, isLabelled⟩ := Option.bind_eq_some_iff.mp isLabelled
    obtain ⟨series, _, isLabelled⟩ := Option.bind_eq_some_iff.mp isLabelled
    obtain ⟨yHorizon, _, isLabelled⟩ := Option.bind_eq_some_iff.mp isLabelled
    exact ⟨_, _, (Option.some.inj isLabelled).symm⟩

/-- A table that has its labels keeps them. -/
theorem buildWindows_of_labels
    {stride : Nat}
    (labelled : df.yHorizon.isSome = true) :
    buildWindows numpy df stride =
      if (windowsFromDataframe numpy df WINDOW_N stride).metaRows.length = 0
      then none
      else some (windowsFromDataframe numpy df WINDOW_N stride) := by
  rw [buildWindows, if_pos labelled]
  rfl

/-- The windows are those of the table with its labels. -/
theorem labelled_of_selectWindows
    (selected : selectWindows numpy stride source df = some (windows, mask)) :
    (∃ yHorizon hardFail,
      windows =
        windowsFromDataframe numpy { df with yHorizon, hardFail } WINDOW_N
          (strideOf stride source)) ∧
      mask = nominalMask windows.metaRows ∧ 50 ≤ mask.count true := by
  obtain ⟨built, isBuilt, isSelected⟩ := Option.bind_eq_some_iff.mp selected
  dsimp only at isSelected
  split at isSelected
  · cases isSelected
  · next enough =>
      obtain ⟨rfl, rfl⟩ := Prod.mk.inj (Option.some.inj isSelected)
      exact ⟨exists_labels_of_buildWindows isBuilt, rfl, by omega⟩

/-- Statistics, windows and mask have the same length. -/
theorem lengths_of_selectWindows
    (stridePos : 1 ≤ strideOf stride source)
    (selected : selectWindows numpy stride source df = some (windows, mask)) :
    windows.xStats.length = windows.xSeq.windows.length ∧
      mask.length = windows.xSeq.windows.length ∧
      windows.xSeq.windowN = WINDOW_N := by
  obtain ⟨⟨yHorizon, hardFail, rfl⟩, rfl, _⟩ :=
    labelled_of_selectWindows selected
  obtain ⟨isWindows, isMeta⟩ :=
    windowsFromDataframe_rows numpy { df with yHorizon, hardFail }
      (show 1 ≤ WINDOW_N by decide) stridePos
  obtain ⟨windowN, _, _, isStats⟩ :=
    windowsFromDataframe_spec numpy { df with yHorizon, hardFail } WINDOW_N
      (strideOf stride source)
  have sameLength := congrArg List.length isMeta
  rw [List.length_map, List.length_map] at sameLength
  refine ⟨?_, ?_, windowN⟩
  · rw [isStats, statsFromSequences_eq_map _ (by rw [windowN]; decide),
      List.length_map]
  · rw [nominalMask, List.length_map, sameLength, isWindows, List.length_map]

end Selection

section Runs

/-! ## What a run of the trainer leaves -/

variable [Field Value] [LinearOrder Value] [FloorRing Value]
variable {Index : Type} [DecidableEq Index]
variable {library : TrainingLibrary Value} {stride : Option Nat}
variable {epochs : Nat} {source : String} {df : RawTable Index Value}
variable {report : TrainReport Value} {pipeline : Pipeline Value}

/-- How the report and the artifacts come from the windows. -/
structure TrainedOn
    (library : TrainingLibrary Value)
    (windows : TrainingWindows (FloatScore Value))
    (mask : List Bool)
    (out : BatchScores Value)
    (report : TrainReport Value)
    (pipeline : Pipeline Value) : Prop where
  forest :
    IsolationForestScorer.fit library (select mask windows.xStats) =
      some pipeline.iforest
  encoder :
    ∃ epochs,
      AutoencoderScorer.fit library epochs
          (select mask windows.xSeq.windows) =
        some pipeline.autoencoder
  head :
    ∃ fitted,
      HorizonHead.fit library out.s (yHorizon windows.metaRows) =
          some fitted ∧
        pipeline.horizon =
          fitted.calibrateScores library.scoring.logistic (select mask out.s)
  scored :
    scoreBatch library.scoring pipeline windows.xStats
        windows.xSeq.windows =
      some out
  nominalWindows : report.nominalWindows = mask.count true
  nominalFpr :
    report.nominalFpr = falsePositiveRateOf (select mask out.pFail10m)
  k : report.k = pipeline.horizon.k
  s0 : report.s0 = pipeline.horizon.s0

/-- The report speaks of the scores that the saved pipeline gives. -/
theorem trainedOn_of_train
    (trained :
      train library stride epochs source df = some (report, pipeline)) :
    ∃ windows mask out,
      selectWindows library.features stride source df =
          some (windows, mask) ∧
        TrainedOn library windows mask out report pipeline := by
  obtain ⟨⟨windows, mask⟩, selected, trained⟩ :=
    Option.bind_eq_some_iff.mp trained
  obtain ⟨iforest, forest, trained⟩ := Option.bind_eq_some_iff.mp trained
  obtain ⟨autoencoder, encoder, trained⟩ :=
    Option.bind_eq_some_iff.mp trained
  obtain ⟨sIf, isIf, trained⟩ := Option.bind_eq_some_iff.mp trained
  obtain ⟨sAe, isAe, trained⟩ := Option.bind_eq_some_iff.mp trained
  obtain ⟨fitted, isFitted, trained⟩ := Option.bind_eq_some_iff.mp trained
  obtain ⟨isReport, isPipeline⟩ := Prod.mk.inj (Option.some.inj trained)
  obtain ⟨out, scored, isS, isPFail⟩ :
      ∃ out,
        scoreBatch library.scoring pipeline windows.xStats
            windows.xSeq.windows =
          some out ∧
        out.s = List.zipWith combineScores sIf sAe ∧
        out.pFail10m =
          out.s.map
            (FloatScore.map
              (pipeline.horizon.predict library.scoring.logistic)) := by
    rw [← isPipeline, scoreBatch, isIf, isAe]
    exact ⟨_, rfl, rfl, rfl⟩
  refine ⟨windows, mask, out, selected, ?_⟩
  rw [← isS] at isFitted
  subst isReport isPipeline
  exact {
    forest
    encoder := ⟨epochs, encoder⟩
    head := ⟨fitted, isFitted, by rw [isS]⟩
    scored
    nominalWindows := rfl
    nominalFpr := by
      rw [isPFail, isS]
    k := rfl
    s0 := rfl }

/-- The trainer goes on after the selection unless a library refuses. -/
theorem exists_train
    (lawful : library.Lawful)
    (stridePos : 1 ≤ strideOf stride source)
    {windows : TrainingWindows (FloatScore Value)}
    {mask : List Bool}
    (selected :
      selectWindows library.features stride source df = some (windows, mask))
    (forest :
      library.isolationForest
        (fitRows library (select mask windows.xStats)) ≠ none)
    (oneClass : (yHorizon windows.metaRows).dedup.length < 2) :
    ∃ report pipeline,
      train library stride epochs source df = some (report, pipeline) := by
  obtain ⟨sameStats, sameMask, windowN⟩ :=
    lengths_of_selectWindows stridePos selected
  obtain ⟨_, _, enough⟩ := labelled_of_selectWindows selected
  have shape (window) (member : window ∈ windows.xSeq.windows) :
      window.length = WINDOW_N :=
    (windows.xSeq.shape window member).trans windowN
  have among : select mask windows.xSeq.windows ⊆ windows.xSeq.windows := by
    intro window member
    obtain ⟨pair, inZip, rfl⟩ := List.mem_map.mp member
    exact (List.of_mem_zip (List.mem_of_mem_filter inZip)).1
  have someNominal : select mask windows.xSeq.windows ≠ [] := by
    refine List.ne_nil_of_length_pos ?_
    rw [length_select sameMask]
    omega
  have someWindow : windows.xSeq.windows ≠ [] :=
    fun isEmpty => someNominal (List.subset_nil.mp (isEmpty ▸ among))
  have someStats : windows.xStats ≠ [] := by
    rw [← List.length_pos_iff, sameStats, List.length_pos_iff]
    exact someWindow
  obtain ⟨iforest, isForest⟩ :=
    IsolationForestScorer.exists_fit_iff.mpr forest
  obtain ⟨autoencoder, isEncoder, inputDim⟩ :=
    AutoencoderScorer.exists_fit epochs lawful someNominal
      fun window member => shape window (among member)
  obtain ⟨sIf, isIf⟩ : ∃ sIf, iforest.score windows.xStats = some sIf := by
    rw [IsolationForestScorer.score, IsolationForestScorer.rawScores,
      if_neg (by simpa using someStats)]
    exact ⟨_, rfl⟩
  obtain ⟨errors, areErrors⟩ :
      ∃ errors,
        windows.xSeq.windows.mapM
            (autoencoder.error? library.scoring.float32) =
          some errors := by
    refine exists_mapM_eq_some fun window member => ?_
    rw [AutoencoderScorer.exists_error?_iff, inputDim, shape window member]
  have isAe :
      autoencoder.score library.scoring.float32 windows.xSeq.windows =
        some (errors.map autoencoder.calibrated) := by
    rw [AutoencoderScorer.score, AutoencoderScorer.errors,
      if_neg (by simpa using someWindow), areErrors]
    rfl
  obtain ⟨fitted, isFitted⟩ :
      ∃ fitted,
        HorizonHead.fit library
            (List.zipWith combineScores sIf
              (errors.map autoencoder.calibrated))
            (yHorizon windows.metaRows) =
          some fitted :=
    HorizonHead.exists_fit_iff.mpr (Or.inl oneClass)
  simp only [train, selected, isForest, isEncoder, isIf, isAe, isFitted,
    Option.bind_eq_bind, Option.bind_some]
  exact ⟨_, _, rfl⟩

section Rates

variable {windows : TrainingWindows (FloatScore Value)} {mask : List Bool}
variable {out : BatchScores Value}

/-- The fitted forest scores row by row. -/
theorem TrainedOn.exists_decision
    (lawful : library.Lawful)
    (trainedOn : TrainedOn library windows mask out report pipeline) :
    ∃ decision : List (FloatScore Value) → Value,
      pipeline.iforest.Rowwise fun row => number (decision row) := by
  obtain ⟨decisionFunction, isFitted, isForest⟩ :=
    Option.bind_eq_some_iff.mp trainedOn.forest
  obtain ⟨decision, isDecision⟩ :=
    lawful.decides _ decisionFunction isFitted
  refine ⟨decision, ?_⟩
  rw [← Option.some.inj isForest]
  exact isDecision

/-- The reported rate is that of the nominal windows at the threshold. -/
theorem TrainedOn.nominalFpr_mul
    (lawful : library.Lawful)
    (stridePos : 1 ≤ strideOf stride source)
    (selected :
      selectWindows library.features stride source df = some (windows, mask))
    (trainedOn : TrainedOn library windows mask out report pipeline) :
    report.nominalFpr * report.nominalWindows =
      ((select mask out.pFail10m).countP
        fun p => number P_FAIL_THRESHOLD ≤ p : Nat) := by
  obtain ⟨sameStats, sameMask, _⟩ := lengths_of_selectWindows stridePos selected
  obtain ⟨_, _, enough⟩ := labelled_of_selectWindows selected
  obtain ⟨decision, rowwise⟩ := trainedOn.exists_decision lawful
  have scores := length_s_scoreBatch rowwise sameStats trainedOn.scored
  have length :
      (select mask out.pFail10m).length = report.nominalWindows := by
    rw [trainedOn.nominalWindows, length_select]
    rw [pFail10m_of_scoreBatch trainedOn.scored, List.length_map, scores,
      sameMask]
  have some : report.nominalWindows ≠ 0 := by
    rw [trainedOn.nominalWindows]
    omega
  rw [trainedOn.nominalFpr, falsePositiveRateOf, length, if_neg some]
  exact div_mul_cancel₀ _ (Nat.cast_ne_zero.mpr some)

/-- Learned numbers score rows without NaN with numbers. -/
theorem TrainedOn.s_ne_nan
    [IsStrictOrderedRing Value]
    (lawful : library.Lawful)
    (numeric : library.Numeric)
    (ofRows :
      ∀ window ∈ windows.xSeq.windows,
        window ≠ [] ∧ ∀ row ∈ window, Numeric row)
    (trainedOn : TrainedOn library windows mask out report pipeline)
    {s : FloatScore Value}
    (member : s ∈ out.s) :
    s ≠ nan := by
  obtain ⟨decision, rowwise⟩ := trainedOn.exists_decision lawful
  obtain ⟨epochs, encoder⟩ := trainedOn.encoder
  obtain ⟨model, scaler⟩ := AutoencoderScorer.numeric_of_fit numeric encoder
  obtain ⟨lo, hi, isLo, isHi, _, _⟩ :=
    @IsolationForestScorer.exists_bounds_of_fit _ _ _ _ _ _ _ _
      trainedOn.forest
      ((holdoutRows library (select mask windows.xStats)).map
        fun row => -decision row)
      (by rw [rowwise, List.map_map, List.map_map]; rfl)
  obtain ⟨sIf, isIf, scored⟩ := Option.bind_eq_some_iff.mp trainedOn.scored
  obtain ⟨sAe, isAe, scored⟩ := Option.bind_eq_some_iff.mp scored
  obtain rfl := Option.some.inj scored
  obtain ⟨raw, isRaw, rfl⟩ := Option.map_eq_some_iff.mp isIf
  obtain ⟨errors, areErrors, rfl⟩ := Option.map_eq_some_iff.mp isAe
  rw [IsolationForestScorer.rawScores, rowwise] at isRaw
  rw [AutoencoderScorer.errors] at areErrors
  split at isRaw
  · cases isRaw
  split at areErrors
  · cases areErrors
  obtain rfl := Option.some.inj isRaw
  obtain ⟨position, inside, rfl⟩ := List.mem_iff_getElem.mp member
  simp only [List.getElem_zipWith, List.getElem_map]
  refine combineScores_ne_nan ?_ ?_
  · refine IsolationForestScorer.calibrated_ne_nan ?_ ?_ (number_ne_nan _)
    · exact isLo ▸ number_ne_nan lo
    · exact isHi ▸ number_ne_nan hi
  · obtain ⟨window, isWindow, isError⟩ :=
      exists_of_mem_of_mapM_eq_some areErrors (List.getElem_mem _)
    obtain ⟨nonempty, numericRows⟩ := ofRows window isWindow
    exact AutoencoderScorer.calibrated_ne_nan _
      (AutoencoderScorer.error?_ne_nan model scaler nonempty numericRows
        isError)

end Rates

end Runs

section Gate

/-! ## The nominal windows at the threshold -/

variable {Index : Type} [DecidableEq Index]
variable {library : TrainingLibrary ℝ} {stride : Option Nat}
variable {epochs : Nat} {source : String} {df : RawTable Index ℝ}
variable {report : TrainReport ℝ} {pipeline : Pipeline ℝ}
variable {windows : TrainingWindows (FloatScore ℝ)} {mask : List Bool}
variable {out : BatchScores ℝ}

/-- Few nominal windows reach the threshold, apart from ties. -/
theorem TrainedOn.alarms_le
    (real : library.scoring.logistic = realNumpy)
    (trainedOn : TrainedOn library windows mask out report pipeline)
    (positive : 0 < pipeline.horizon.k)
    (nonempty : select mask out.s ≠ [])
    (areNumbers : ∀ s ∈ select mask out.s, s ≠ nan) :
    ((select mask out.pFail10m).countP
        (fun p => number P_FAIL_THRESHOLD ≤ p) : Int) ≤
      ⌈TARGET_NOMINAL_FPR * (((select mask out.s).length : ℝ) - 1)⌉ +
        (select mask out.s).count
          (number (pipeline.horizon.operatingPoint P_FAIL_THRESHOLD)) := by
  obtain ⟨nominalS, mapped⟩ := exists_mapM_number?_iff.mpr areNumbers
  have isNominal := mapM_number?_eq_some_iff.mp mapped
  obtain ⟨fitted, _, isHorizon⟩ := trainedOn.head
  rw [isNominal, HorizonHead.calibrateScores_map_number, real] at isHorizon
  have sameK : 0 < fitted.k := by
    rw [isHorizon, HorizonHead.calibrateThreshold_k_s0.1] at positive
    exact positive
  have few :=
    @HorizonHead.countP_calibrated_le_ties fitted nominalS TARGET_NOMINAL_FPR
      P_FAIL_THRESHOLD sameK (by norm_num [P_FAIL_THRESHOLD])
      (by norm_num [P_FAIL_THRESHOLD]) (by norm_num [TARGET_NOMINAL_FPR])
      (by norm_num [TARGET_NOMINAL_FPR])
      (by rintro rfl; exact nonempty isNominal)
  rw [← isHorizon] at few
  rw [pFail10m_of_scoreBatch trainedOn.scored, real, select_map, isNominal,
    List.length_map, List.map_map, List.countP_map,
    List.count_map_of_injective _ _ fun _ _ => number.inj]
  dsimp only at few
  rw [List.countP_map] at few
  exact few

/--
Whatever the random generator, the forest, the optimiser and the regression do,
the saved detector is calibrated: its bounds are in order, at least half of the
forest's holdout scores zero, and the reported rate exceeds the target only by
the nominal windows that tie with the operating point.
-/
theorem train_saves_calibrated
    (lawful : library.Lawful)
    (real : library.scoring.logistic = realNumpy)
    (stridePos : 1 ≤ strideOf stride source)
    (trained :
      train library stride epochs source df = some (report, pipeline)) :
    ∃ windows mask out,
      selectWindows library.features stride source df =
          some (windows, mask) ∧
        scoreBatch library.scoring pipeline windows.xStats
            windows.xSeq.windows = some out ∧
        pipeline.iforest.Calibrated
          (holdoutRows library (select mask windows.xStats)) ∧
        0 < pipeline.autoencoder.errP98 ∧
        (0 < report.k →
          (∀ s ∈ select mask out.s, s ≠ nan) →
            report.nominalFpr * report.nominalWindows ≤
              ⌈TARGET_NOMINAL_FPR * ((report.nominalWindows : ℝ) - 1)⌉ +
                (select mask out.s).count
                  (number
                    (pipeline.horizon.operatingPoint P_FAIL_THRESHOLD))) := by
  obtain ⟨windows, mask, out, selected, trainedOn⟩ :=
    trainedOn_of_train trained
  obtain ⟨decision, rowwise⟩ := trainedOn.exists_decision lawful
  obtain ⟨epochs, encoder⟩ := trainedOn.encoder
  obtain ⟨sameStats, sameMask, _⟩ :=
    lengths_of_selectWindows stridePos selected
  obtain ⟨_, _, enough⟩ := labelled_of_selectWindows selected
  refine ⟨windows, mask, out, selected, trainedOn.scored, ?_,
    AutoencoderScorer.errP98_pos_of_fit encoder, ?_⟩
  · have decided :
        pipeline.iforest.decisionFunction
            (holdoutRows library (select mask windows.xStats)) =
          ((holdoutRows library (select mask windows.xStats)).map
            decision).map number := by
      rw [rowwise, List.map_map]
      rfl
    exact IsolationForestScorer.calibrated_of_fit trainedOn.forest decided
  · intro positive areNumbers
    have scores := length_s_scoreBatch rowwise sameStats trainedOn.scored
    have length : (select mask out.s).length = report.nominalWindows := by
      rw [trainedOn.nominalWindows, length_select (sameMask.trans scores.symm)]
    have nonempty : select mask out.s ≠ [] := by
      refine List.ne_nil_of_length_pos ?_
      rw [length, trainedOn.nominalWindows]
      omega
    have few := trainedOn.alarms_le real (trainedOn.k ▸ positive) nonempty
      areNumbers
    rw [length] at few
    rw [trainedOn.nominalFpr_mul lawful stridePos selected]
    exact_mod_cast few

end Gate

section SteadyLink

/-! A nominal link of 109 seconds, which makes fifty windows. -/

/-- The rows of the link are equal, their timestamps apart. -/
noncomputable def steadyTable : RawTable (Fin 109) ℝ where
  index := List.finRange 109
  indexNodup := List.nodup_finRange 109
  tsUnixMs row := 1000 * (row : Nat)
  linkId _ := "L1"
  channelId := some fun _ => "C1"
  osnrDb _ := .number 1
  ber _ := .number 1
  laserBiasMa _ := .number 1
  edfaPumpMa := some fun _ => .number 1
  rxPowerDbm := some fun _ => .number 1
  label := some fun _ => "nominal"
  yHorizon := some fun _ => 0
  hardFail := some fun _ => false

/-- Libraries that learn nothing. -/
noncomputable def steadyLibrary : TrainingLibrary ℝ where
  features := realFeatures
  scoring := ⟨realNumpy, id⟩
  permutation := List.range
  isolationForest _ := some fun rows => rows.map fun _ => .number 0
  standardScaler _ := ⟨.replicate _ 0, .replicate _ (.number 1)⟩
  optimise _ _ _ := {
    encoder0 := ⟨.replicate _ (.replicate _ 0), .replicate _ 0⟩
    encoder2 := ⟨.replicate _ (.replicate _ 0), .replicate _ 0⟩
    decoder0 := ⟨.replicate _ (.replicate _ 0), .replicate _ 0⟩
    decoder2 := ⟨.replicate _ (.replicate _ 0), .replicate _ 0⟩ }
  logisticRegression _ _ := (1, 0)

theorem steadyLibrary_lawful : steadyLibrary.Lawful where
  permutes _ := List.Perm.refl _
  decides fitted decisionFunction isFitted := by
    obtain rfl := Option.some.inj isFitted
    exact ⟨fun _ => 0, fun _ => rfl⟩

theorem numeric_zeroLayer (inputs outputs : Nat) :
    (⟨.replicate _ (.replicate _ 0), .replicate _ 0⟩ :
      Linear ℝ inputs outputs).Numeric where
  weight output inside position within := by simp
  bias position inside := by simp

theorem steadyLibrary_numeric : steadyLibrary.Numeric where
  mean rows position inside := by simp [steadyLibrary]
  scale rows position inside := by simp [steadyLibrary]
  model inputDim epochs rows := {
    encoder0 := numeric_zeroLayer _ _
    encoder2 := numeric_zeroLayer _ _
    decoder0 := numeric_zeroLayer _ _
    decoder2 := numeric_zeroLayer _ _ }

theorem numeric_steadyRow (row : Fin 109) :
    Numeric (steadyTable.seqRow steadyLibrary.features row) := by
  intro channel inside
  interval_cases channel <;>
    simp [RawTable.seqRow, steadyTable, log10BerCell, FloatScore.combine,
      FloatScore.map, filledColumn, fillna]

theorem numeric_steadyWindows
    (window : List (SeqRow (FloatScore ℝ)))
    (member :
      window ∈
        (windowsFromDataframe steadyLibrary.features
          steadyTable).xSeq.windows) :
    window ≠ [] ∧ ∀ row ∈ window, Numeric row := by
  obtain ⟨isWindows, _⟩ :=
    windowsFromDataframe_rows steadyLibrary.features steadyTable
      (show 1 ≤ WINDOW_N by decide) (Nat.le_refl 1)
  rw [isWindows] at member
  obtain ⟨stretch, inSlices, rfl⟩ := List.mem_map.mp member
  obtain ⟨_, _, inSlices⟩ := List.mem_flatMap.mp inSlices
  obtain ⟨length, _⟩ := mem_of_mem_stridedSlices (Nat.le_refl 1) inSlices
  constructor
  · refine List.ne_nil_of_length_pos ?_
    rw [List.length_map, length]
    decide
  · intro row inWindow
    obtain ⟨index, _, rfl⟩ := List.mem_map.mp inWindow
    exact numeric_steadyRow index

/-- The windows of the link, all of them nominal. -/
theorem steadyTable_selected :
    ∃ windows mask,
      selectWindows steadyLibrary.features (some 1) "steady.csv" steadyTable =
          some (windows, mask) ∧
        yHorizon windows.metaRows = List.replicate 50 0 ∧
        ∀ window ∈ windows.xSeq.windows,
          window ≠ [] ∧ ∀ row ∈ window, Numeric row := by
  obtain ⟨_, isMeta⟩ :=
    windowsFromDataframe_rows steadyLibrary.features steadyTable
      (show 1 ≤ WINDOW_N by decide) (Nat.le_refl 1)
  let windows := windowsFromDataframe steadyLibrary.features steadyTable
  have count : windows.metaRows.length = 50 := by
    have lengths := congrArg List.length isMeta
    rw [List.length_map, List.length_map] at lengths
    refine lengths.trans ?_
    decide +kernel
  have rows (row : MetaRow) (member : row ∈ windows.metaRows) :
      row.label = some "nominal" ∧ row.yHorizon = some 0 := by
    obtain ⟨index, rfl⟩ :=
      exists_row_of_mem_metaRows (by decide) (Nat.le_refl 1) member
    exact ⟨rfl, rfl⟩
  have allNominal : (nominalMask windows.metaRows).count true = 50 := by
    rw [← count, ← List.length_map (f := fun row : MetaRow =>
      decide (row.label = some "nominal")), ← nominalMask]
    refine List.count_eq_length.mpr fun flag member => ?_
    obtain ⟨row, inRows, rfl⟩ := List.mem_map.mp member
    exact (decide_eq_true (rows row inRows).1).symm
  have isBuilt :
      buildWindows steadyLibrary.features steadyTable 1 = some windows := by
    rw [buildWindows_of_labels rfl]
    exact if_neg (by rw [count]; decide)
  refine ⟨windows, nominalMask windows.metaRows, ?_, ?_, ?_⟩
  · have chosen :
        selectWindows steadyLibrary.features (some 1) "steady.csv"
            steadyTable =
          (buildWindows steadyLibrary.features steadyTable 1).bind
            fun windows =>
              if (nominalMask windows.metaRows).count true < 50 then none
              else some (windows, nominalMask windows.metaRows) :=
      rfl
    rw [chosen, isBuilt, Option.bind_some, allNominal]
    exact if_neg (by decide)
  · refine List.eq_replicate_iff.mpr ⟨?_, fun label member => ?_⟩
    · rw [yHorizon, List.length_map, count]
    · obtain ⟨row, inRows, rfl⟩ := List.mem_map.mp member
      rw [(rows row inRows).2]
      rfl
  · have isWindows :
        windows = windowsFromDataframe steadyLibrary.features steadyTable :=
      rfl
    rw [isWindows]
    exact numeric_steadyWindows

/-- The detector trained on the link is calibrated, on a holdout. -/
theorem train_saves_calibrated_steady :
    ∃ windows mask, ∃ out : BatchScores ℝ, ∃ report pipeline,
      selectWindows steadyLibrary.features (some 1) "steady.csv" steadyTable =
          some (windows, mask) ∧
        train steadyLibrary (some 1) 20 "steady.csv" steadyTable =
          some (report, pipeline) ∧
        holdoutRows steadyLibrary (select mask windows.xStats) ≠ [] ∧
        pipeline.iforest.Calibrated
          (holdoutRows steadyLibrary (select mask windows.xStats)) ∧
        0 < pipeline.autoencoder.errP98 ∧
        report.nominalFpr * report.nominalWindows ≤
          ⌈TARGET_NOMINAL_FPR * ((report.nominalWindows : ℝ) - 1)⌉ +
            (select mask out.s).count
              (number
                (pipeline.horizon.operatingPoint P_FAIL_THRESHOLD)) := by
  have everyWindow : 1 ≤ strideOf (some 1) "steady.csv" := Nat.le_refl 1
  obtain ⟨windows, mask, selected, labels, ofRows⟩ := steadyTable_selected
  obtain ⟨sameStats, sameMask, _⟩ :=
    lengths_of_selectWindows everyWindow selected
  obtain ⟨_, _, enough⟩ := labelled_of_selectWindows selected
  have oneClass : (yHorizon windows.metaRows).dedup.length < 2 := by
    rw [labels]
    decide
  obtain ⟨report, pipeline, trained⟩ :=
    @exists_train _ _ _ _ _ _ steadyLibrary (some 1) 20 "steady.csv"
      steadyTable steadyLibrary_lawful everyWindow _ _ selected
      (Option.some_ne_none _) oneClass
  obtain ⟨_, _, out, same, trainedOn⟩ := trainedOn_of_train trained
  obtain ⟨rfl, rfl⟩ :=
    Prod.mk.inj (Option.some.inj (selected.symm.trans same))
  obtain ⟨_, _, _, same, scored, calibrated, positive, rate⟩ :=
    train_saves_calibrated steadyLibrary_lawful rfl everyWindow trained
  obtain ⟨rfl, rfl⟩ :=
    Prod.mk.inj (Option.some.inj (selected.symm.trans same))
  obtain rfl := Option.some.inj (trainedOn.scored.symm.trans scored)
  have held : holdoutRows steadyLibrary (select mask windows.xStats) ≠ [] := by
    refine (holdoutRows_fitRows_ne_nil steadyLibrary_lawful ?_).1
    refine List.ne_nil_of_length_pos ?_
    rw [length_select (sameMask.trans sameStats.symm)]
    omega
  have rising : 0 < report.k := by
    obtain ⟨fitted, isFitted, isHorizon⟩ := trainedOn.head
    rw [HorizonHead.fit, if_pos oneClass] at isFitted
    have real : steadyLibrary.scoring.logistic = realNumpy := rfl
    rw [trainedOn.k, isHorizon, real, HorizonHead.k_calibrateScores,
      ← Option.some.inj isFitted]
    norm_num [DEFAULT_K]
  have numbers : ∀ s ∈ select mask out.s, s ≠ nan := by
    intro s member
    obtain ⟨pair, inZip, rfl⟩ := List.mem_map.mp member
    exact trainedOn.s_ne_nan steadyLibrary_lawful steadyLibrary_numeric
      ofRows (List.of_mem_zip (List.mem_of_mem_filter inZip)).1
  exact ⟨windows, mask, out, report, pipeline, selected, trained, held,
    calibrated, positive, rate rising numbers⟩

end SteadyLink

end Corpus

end OpticsSoftfail
