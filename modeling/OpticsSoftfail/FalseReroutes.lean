import OpticsSoftfail.DetectionPath
import OpticsSoftfail.TrainCommand

namespace OpticsSoftfail

namespace DetectionPath

/-!
# False reroutes of a replayed training table

`train` reports which share of the nominal windows reaches the threshold.  When
the table that it was trained on is replayed through the services, every reroute
of a nominal link needs a nominal window at the threshold, and no two reroutes
the same one.  So the report bounds the reroutes that ought not to happen.
-/

open Corpus InferTasks Producer Python RowGroups

section Charging

/-! ## Every reroute is charged to an observation -/

variable {Score Time : Type} [LT Score] [DecidableLT Score]
variable [Field Time] [LinearOrder Time] [FloorRing Time]
variable {healer : Healer Score Time}

/-- An emitted reroute answers an observation that is not below. -/
theorem reaches_of_mem_trace
    {links : Links Time}
    {calls : List (ObserveCall Score Time)}
    {entry : ObserveCall Score Time × ObserveResult Score}
    (member : entry ∈ healer.trace links calls)
    (emitted : entry.2.action = .rerouteEmitted) :
    ¬ entry.1.observation.pFail10m < healer.thresholds.pFailThreshold := by
  induction calls generalizing links with
  | nil =>
      cases member
  | cons call rest inductionHypothesis =>
      rcases List.mem_cons.mp member with rfl | inRest
      · exact (Healer.observe_emitted_iff.mp emitted).1
      · exact inductionHypothesis inRest

/-- The reroutes of some links in a run that starts without history. -/
def reroutesOf
    (healer : Healer Score Time)
    (linkIds : List String)
    (calls : List (ObserveCall Score Time)) : Nat :=
  (healer.trace Dict.empty calls).countP fun entry =>
    decide (entry.1.observation.linkId ∈ linkIds) &&
      decide (entry.2.action = .rerouteEmitted)

/-- The observation is of one of the links and not below the threshold. -/
def alarms
    (healer : Healer Score Time)
    (linkIds : List String)
    (observation : Observation Score) : Bool :=
  decide (observation.linkId ∈ linkIds) &&
    !decide (observation.pFail10m < healer.thresholds.pFailThreshold)

theorem reroutesOf_le_countP_alarms
    (linkIds : List String)
    (calls : List (ObserveCall Score Time)) :
    reroutesOf healer linkIds calls ≤
      (calls.map ObserveCall.observation).countP
        (alarms healer linkIds) := by
  have entries := Healer.map_fst_trace healer Dict.empty calls
  conv_rhs => rw [← entries]
  rw [List.map_map, List.countP_map]
  refine List.countP_mono_left fun entry member counted => ?_
  rw [Bool.and_eq_true, decide_eq_true_iff, decide_eq_true_iff] at counted
  simpa [alarms, counted.1] using reaches_of_mem_trace member counted.2

end Charging

section Frames

/-! ## Every observation is charged to a frame -/

variable {Value Time : Type} [Field Value] [LinearOrder Value]
variable {detector : Detector Value} {healer : Healer (FloatScore Value) Time}

/-- The frame is scored, and its observation is an alarm. -/
def frameAlarms
    (healer : Healer (FloatScore Value) Time)
    (linkIds : List String)
    (detector : Detector Value)
    (frame : Frame Value) : Bool :=
  (Option.map (alarms healer linkIds) <| detector.observe? frame).getD false

/-- A frame alarms by its link and by its probability. -/
theorem frameAlarms_iff
    {linkIds : List String}
    {frame : Frame Value}
    {scores : PipelineCache.PipelineScores (FloatScore Value)}
    (isFrame :
      scorePipelineFrame detector.features detector.numpy detector.pipeline
          (frameDict frame) =
        some scores) :
    frameAlarms healer linkIds detector frame = true ↔
      frame.linkId ∈ linkIds ∧
        ¬ scores.pFail10m < healer.thresholds.pFailThreshold := by
  rw [frameAlarms, Detector.observe?, Detector.score?, isFrame,
    Option.map_some, Option.map_some, Option.map_some, Option.getD_some]
  simp [alarms]

variable [FloorRing Value]
variable {library : IngestLibrary Value} {ingested : List Bytes}

/-- No two posted alarms are of the same frame. -/
theorem countP_posted_le
    (link : LinkRun library detector ingested)
    {frames : List (Frame Value)}
    (built :
      ((ingestEmissions library ingested).map fun emission =>
        buildFrame library emission.window).Perm (frames.map some))
    (linkIds : List String) :
    link.posted.countP (alarms healer linkIds) ≤
      frames.countP (frameAlarms healer linkIds detector) := by
  have observations :
      (ingestEmissions library ingested).filterMap
          (observed? library detector) =
        ((ingestEmissions library ingested).map fun emission =>
          buildFrame library emission.window).filterMap
            (fun frame? => frame?.bind detector.observe?) := by
    rw [List.filterMap_map]
    rfl
  have perm := built.filterMap fun frame? => frame?.bind detector.observe?
  rw [← observations, List.filterMap_map] at perm
  refine ((posted_subperm link).countP_le _).trans ?_
  rw [perm.countP_eq, List.countP_filterMap]
  rfl

variable {Index : Type} {table : RawTable Index Value} {offset : Int}
variable {lines : List Bytes} {frames : List (Frame Value)}
variable {windows : TrainingWindows (FloatScore Value)}
variable {out : BatchScores Value}

/-- Every alarm of a nominal link is one of a nominal window. -/
theorem countP_frameAlarms_le
    (serves : ServesWindows library table offset lines frames windows)
    (alike : ScoredAlike detector.numpy detector.pipeline out frames)
    (scored :
      scoreBatch detector.numpy detector.pipeline windows.xStats
          windows.xSeq.windows =
        some out)
    {linkIds : List String}
    (areNominal :
      ∀ row ∈ windows.metaRows, row.linkId ∈ linkIds →
        row.label = some "nominal") :
    frames.countP (frameAlarms healer linkIds detector) ≤
      (select (nominalMask windows.metaRows) out.pFail10m).countP
        fun p => !decide (p < healer.thresholds.pFailThreshold) := by
  have scoreCount := alike.length_eq
  have rowCount := serves.metaRows.length_eq
  have probabilities :
      out.pFail10m.length = frames.length := by
    rw [pFail10m_of_scoreBatch scored, List.length_map, scoreCount,
      List.length_range]
  rw [countP_select]
  refine countP_le_of_forall₂ (List.forall₂_of_length_eq_of_get ?_ ?_)
  · rw [List.length_zip, probabilities, nominalMask, List.length_map,
      ← rowCount, Nat.min_self]
  · intro position inside within alarmed
    obtain ⟨scores, isRow, isFrame⟩ :=
      alike.get inside (scoreCount ▸ inside) detector.features
    have insideRows := rowCount ▸ inside
    obtain ⟨sameLink, _⟩ := serves.metaRows.get inside insideRows
    obtain ⟨ofLinks, reaches⟩ := (frameAlarms_iff isFrame).mp alarmed
    have isNominal :=
      areNominal _ (List.get_mem windows.metaRows ⟨position, insideRows⟩)
        (sameLink ▸ ofLinks)
    have insideMask : position < (nominalMask windows.metaRows).length := by
      rwa [nominalMask, List.length_map]
    have inMask : (nominalMask windows.metaRows)[position] = true := by
      simpa [nominalMask] using isNominal
    have isProbability := pFail10m_of_row? isRow
    rw [List.get_eq_getElem, List.getElem_range] at isProbability
    obtain ⟨_, isProbability⟩ := List.getElem?_eq_some_iff.mp isProbability
    rw [List.get_eq_getElem, List.getElem_zip, inMask, isProbability]
    simpa using reaches

end Frames

section Replays

/-! ## The false reroutes of a replay -/

variable {Value Index Time : Type}
variable [Field Value] [LinearOrder Value] [FloorRing Value]
variable [IsStrictOrderedRing Value]
variable [Field Time] [LinearOrder Time] [FloorRing Time]
variable {python : Interpreter Value} {dumps : Dumps Value}
variable {library : IngestLibrary Value}
variable {table : RawTable Index Value} {offset : Int}
variable {recordOf : Index → CompleteRecord Value}
variable {detector : Detector Value}
variable {healer : Healer (FloatScore Value) Time}

/--
A table is replayed to the services, over streams that break anywhere.  Links
whose rows are all nominal are rerouted at most as often as the batch has
nominal windows that are not below the threshold.
-/
theorem false_reroutes_of_replay
    (dumpsObjects : DumpsObjects dumps)
    (parsesJson : ParsesJson library)
    (carry : LinesCarry dumps library recordOf)
    (holds : HoldsRecords table offset recordOf)
    (distinct : DistinctStamps table.groupKey table.tsUnixMs table.index)
    (separate : PairsSeparate table)
    {connection : Connection Value}
    {accepts : List JsonlServer.AcceptResult}
    (replayed :
      ReplayedOnce python dumps table offset recordOf connection accepts)
    (link : LinkRun library detector (JsonlServer.serveForever accepts))
    {calls : List (ObserveCall (FloatScore Value) Time)}
    (received : (calls.map ObserveCall.observation).Subperm link.posted)
    {one : List (FloatScore Value) → FloatScore Value}
    (rowwise : detector.pipeline.iforest.Rowwise one)
    {out : BatchScores Value}
    (scored :
      scoreBatch detector.numpy detector.pipeline
          (windowsFromDataframe library.numpy table).xStats
          (windowsFromDataframe library.numpy table).xSeq.windows =
        some out)
    {linkIds : List String}
    (areNominal :
      ∀ row, table.linkId row ∈ linkIds →
        (table.metaRow row).label = some "nominal") :
    reroutesOf healer linkIds calls ≤
      (select
          (nominalMask (windowsFromDataframe library.numpy table).metaRows)
          out.pFail10m).countP
        fun p => !decide (p < healer.thresholds.pFailThreshold) := by
  obtain ⟨frames, serves⟩ :=
    exists_servesWindows dumpsObjects parsesJson carry holds distinct separate
      replayed
  have ofNominal (row) (member :
      row ∈ (windowsFromDataframe library.numpy table).metaRows)
      (ofLinks : row.linkId ∈ linkIds) :
      row.label = some "nominal" := by
    obtain ⟨index, rfl⟩ :=
      exists_row_of_mem_metaRows (by decide) (Nat.le_refl 1) member
    exact areNominal index ofLinks
  calc
    reroutesOf healer linkIds calls ≤
        (calls.map ObserveCall.observation).countP (alarms healer linkIds) :=
      reroutesOf_le_countP_alarms linkIds calls
    _ ≤ link.posted.countP (alarms healer linkIds) :=
      received.countP_le _
    _ ≤ frames.countP (frameAlarms healer linkIds detector) :=
      countP_posted_le link serves.all linkIds
    _ ≤ _ :=
      countP_frameAlarms_le serves (serves.scoredAlike rowwise scored) scored
        ofNominal

end Replays

section SixtyRows

/-! The sixty rows, all of them nominal, which are rerouted nevertheless. -/

def nominalRows : RawTable (Fin 60) Rat :=
  { rowTable with label := some fun _ => "nominal" }

/-- The detector that knows nothing, behind the ingest of the rows. -/
def rowDetector : Detector Rat where
  features := rowLibrary.numpy
  numpy := blankNumpy
  pipeline := blankPipeline

/-- A replay that makes one frame has its observation posted. -/
theorem exists_linkRun_of_oneFrame
    {table : RawTable (Fin 60) Rat}
    {lines : List Bytes}
    {frame : Frame Rat}
    {out : BatchScores Rat}
    (serves :
      ServesWindows rowLibrary table 0 lines [frame]
        (windowsFromDataframe rowLibrary.numpy table))
    (scored :
      scoreBatch blankNumpy blankPipeline
          (windowsFromDataframe rowLibrary.numpy table).xStats
          (windowsFromDataframe rowLibrary.numpy table).xSeq.windows =
        some out)
    (ofLink : ∀ row, table.linkId row = "L1") :
    ∃ link : LinkRun rowLibrary rowDetector lines,
      ∃ observation,
        link.posted = [observation] ∧ observation.linkId = "L1" ∧
          (∃ row, observation.tsUnixMs = table.tsUnixMs row) ∧
          ¬ observation.pFail10m < .number (1 / 2) := by
  have alike : ScoredAlike blankNumpy blankPipeline out [frame] :=
    serves.scoredAlike (fun _ => rfl) scored
  have scoreCount : 1 = (List.range out.s.length).length := alike.length_eq
  obtain ⟨scores, inBatch, isScored⟩ :=
    alike.get Nat.one_pos (scoreCount ▸ Nat.one_pos) rowLibrary.numpy
  obtain ⟨_, _, isProbability⟩ := exists_combined_of_row? scored inBatch
  have isOnly : builtFrames rowLibrary lines = [frame] := by
    have perm := serves.all.filterMap id
    rw [List.filterMap_map, List.filterMap_map] at perm
    exact List.perm_singleton.mp perm
  obtain ⟨index, isLink, isStamp⟩ :
      ∃ index, frame.linkId = table.linkId index ∧
        frame.tsUnixMs = table.tsUnixMs index := by
    obtain ⟨row, isRow⟩ :=
      List.length_eq_one_iff.mp serves.metaRows.length_eq.symm
    have related := serves.metaRows
    rw [isRow, List.forall₂_cons] at related
    obtain ⟨index, rfl⟩ :=
      exists_row_of_mem_metaRows (by decide) (Nat.le_refl 1)
        (isRow ▸ List.mem_singleton_self row)
    exact ⟨index, related.1.1, related.1.2.2.trans (Int.add_zero _)⟩
  obtain ⟨link, observation, isPosted, sameLink, sameStamp, sameScore⟩ :=
    @exists_linkRun_of_frame rowLibrary rowDetector lines frame _ isOnly
      (congrArg (Option.map _) isScored)
  refine ⟨link, observation, isPosted,
    sameLink.trans (isLink.trans (ofLink index)),
    ⟨index, sameStamp.trans isStamp⟩, ?_⟩
  rw [sameScore.trans isProbability]
  exact blankPipeline_not_below _

/-- The one reroute is the one nominal window that is not below. -/
theorem false_reroutes_of_replay_sixty :
    ∃ calls out,
      scoreBatch blankNumpy blankPipeline
          (windowsFromDataframe rowLibrary.numpy nominalRows).xStats
          (windowsFromDataframe rowLibrary.numpy nominalRows).xSeq.windows =
          some out ∧
        reroutesOf promptHealer ["L1"] calls = 1 ∧
        1 ≤ (select
              (nominalMask
                (windowsFromDataframe rowLibrary.numpy nominalRows).metaRows)
              out.pFail10m).countP
            fun p => !decide (p < .number (1 / 2)) := by
  have holds : HoldsRecords nominalRows 0 rowRecord :=
    { rowTable_holds with }
  have distinct : DistinctStamps nominalRows.groupKey nominalRows.tsUnixMs
      nominalRows.index :=
    fun row _ other _ _ same => rowStamp_injective same
  have separate : PairsSeparate nominalRows :=
    fun _ _ _ => rfl
  have replayed : ReplayedOnce plainInterpreter rowDumps nominalRows 0
      rowRecord sixtyRows [.accepted sixtyRows.received] :=
    { sixtyRows_replayed with }
  obtain ⟨frames, serves⟩ :=
    exists_servesWindows rowDumps_objects rowLibrary_parsesJson
      rowLines_carry holds distinct separate replayed
  obtain ⟨rows, isWindow, sixty⟩ := windowRows_rowTable
  have isRow : windowRows nominalRows = [rows] := isWindow
  obtain ⟨oneWindow, out, scored⟩ := exists_scored_of_oneWindow isRow sixty
  obtain ⟨frame, rfl⟩ :=
    List.length_eq_one_iff.mp (serves.matrices.length_eq.trans oneWindow)
  obtain ⟨link, observation, isPosted, isLink, ⟨row, isStamp⟩, reaches⟩ :=
    exists_linkRun_of_oneFrame serves scored fun _ => rfl
  have inRange : observation.tsUnixMs.natAbs < Binary64.overflow := by
    have stampNonneg := rowStamp_nonneg row
    have stampSmall := rowStamp_le row
    rw [isStamp]
    refine Binary64.lt_overflow ?_
    change (rowStamp row).natAbs ≤ 2 ^ 63
    omega
  let call := promptCall observation inRange
  have received :
      ([call].map ObserveCall.observation).Subperm link.posted := by
    rw [isPosted]
    exact List.Subperm.refl _
  have emitted := promptHealer_emits inRange isLink reaches
  have once : reroutesOf promptHealer ["L1"] [call] = 1 := by
    have isTrace :
        promptHealer.trace Dict.empty [call] =
          [(call, (promptHealer.observe Dict.empty call).2)] :=
      rfl
    have ofLink : call.observation.linkId = "L1" :=
      isLink
    rw [reroutesOf, isTrace]
    simp [call, ofLink, emitted]
  refine ⟨[call], out, scored, once, ?_⟩
  rw [← once]
  exact false_reroutes_of_replay rowDumps_objects rowLibrary_parsesJson
    rowLines_carry holds distinct separate replayed link received
    (fun _ => rfl) scored fun _ _ => rfl

end SixtyRows

section Reports

/-! ## What the report says about them -/

/-- NaN is never below, and a number that is not below reaches. -/
theorem countP_not_lt
    {Value : Type}
    [LinearOrder Value]
    (threshold : Value)
    (scores : List (FloatScore Value)) :
    scores.countP (fun p => !decide (p < .number threshold)) =
      scores.countP (fun p => .number threshold ≤ p) + scores.count .nan := by
  induction scores with
  | nil =>
      rfl
  | cons p rest inductionHypothesis =>
      rw [List.countP_cons, List.countP_cons, List.count_cons,
        inductionHypothesis]
      cases p with
      | nan =>
          have notBelow : ¬ (.nan : FloatScore Value) < .number threshold := id
          have notReached : ¬ .number threshold ≤ (.nan : FloatScore Value) :=
            id
          simp [notBelow, notReached, Nat.add_assoc]
      | number value =>
          have below :
              FloatScore.number value < .number threshold ↔
                value < threshold :=
            Iff.rfl
          have reached :
              FloatScore.number threshold ≤ .number value ↔
                threshold ≤ value :=
            Iff.rfl
          simp [below, reached, ← not_le, Nat.add_right_comm]

variable {Value Index Time : Type}
variable [Field Value] [LinearOrder Value] [FloorRing Value]
variable [IsStrictOrderedRing Value] [DecidableEq Index]
variable [Field Time] [LinearOrder Time] [FloorRing Time]
variable {python : Interpreter Value} {dumps : Dumps Value}
variable {library : IngestLibrary Value}
variable {table : RawTable Index Value} {offset : Int}
variable {recordOf : Index → CompleteRecord Value}
variable {healer : Healer (FloatScore Value) Time}

/--
The detector is trained on every window of the table that is replayed, and the
healer asks for the threshold that the trainer calibrates.  Then the trainer's
report bounds the reroutes of nominal links: what it does not count are scores
that are not numbers.
-/
theorem false_reroutes_le_report
    (dumpsObjects : DumpsObjects dumps)
    (parsesJson : ParsesJson library)
    (carry : LinesCarry dumps library recordOf)
    (holds : HoldsRecords table offset recordOf)
    (distinct : DistinctStamps table.groupKey table.tsUnixMs table.index)
    (separate : PairsSeparate table)
    {connection : Connection Value}
    {accepts : List JsonlServer.AcceptResult}
    (replayed :
      ReplayedOnce python dumps table offset recordOf connection accepts)
    {training : TrainingLibrary Value}
    (lawful : training.Lawful)
    (sameFeatures : training.features = library.numpy)
    {stride : Option Nat}
    {epochs : Nat}
    {source : String}
    (everyWindow : strideOf stride source = 1)
    {report : TrainReport Value}
    {pipeline : Pipeline Value}
    (trained :
      train training stride epochs source table = some (report, pipeline))
    (link :
      LinkRun library ⟨training.features, training.scoring, pipeline⟩
        (JsonlServer.serveForever accepts))
    {calls : List (ObserveCall (FloatScore Value) Time)}
    (received : (calls.map ObserveCall.observation).Subperm link.posted)
    (calibrated :
      healer.thresholds.pFailThreshold = .number P_FAIL_THRESHOLD)
    {linkIds : List String}
    (areNominal :
      ∀ row, table.linkId row ∈ linkIds →
        (table.metaRow row).label = some "nominal") :
    ∃ windows mask out,
      selectWindows training.features stride source table =
          some (windows, mask) ∧
        scoreBatch training.scoring pipeline windows.xStats
            windows.xSeq.windows = some out ∧
        (reroutesOf healer linkIds calls : Value) ≤
          report.nominalFpr * report.nominalWindows +
            ((select mask out.pFail10m).count .nan : Nat) := by
  obtain ⟨windows, mask, out, selected, trainedOn⟩ :=
    trainedOn_of_train trained
  obtain ⟨decision, rowwise⟩ := trainedOn.exists_decision lawful
  refine ⟨windows, mask, out, selected, trainedOn.scored, ?_⟩
  have reported :=
    trainedOn.nominalFpr_mul lawful everyWindow.ge selected
  obtain ⟨⟨yHorizon, hardFail, isCut⟩, isMask, _⟩ :=
    labelled_of_selectWindows selected
  rw [everyWindow, sameFeatures] at isCut
  -- The labels are not replayed, so that the labelled table holds the same
  -- records and is replayed by the same lines.
  have labelledHolds :
      HoldsRecords { table with yHorizon, hardFail } offset recordOf :=
    { holds with }
  have labelledReplayed :
      ReplayedOnce python dumps { table with yHorizon, hardFail } offset
        recordOf connection accepts :=
    { replayed with }
  have scored := trainedOn.scored
  rw [isCut] at scored
  have few : reroutesOf healer linkIds calls ≤ _ :=
    false_reroutes_of_replay dumpsObjects parsesJson carry
      labelledHolds distinct separate labelledReplayed link received rowwise
      scored areNominal
  rw [← isCut, ← isMask, calibrated, countP_not_lt] at few
  rw [reported]
  exact_mod_cast few

end Reports

end DetectionPath

end OpticsSoftfail
