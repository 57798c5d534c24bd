import OpticsSoftfail.AnomalyScores
import OpticsSoftfail.IngestReference
import OpticsSoftfail.ProducerStream
import OpticsSoftfail.TrainingWindows

namespace OpticsSoftfail

namespace Producer

/-!
# A table that is replayed, and a table that is trained on

`cmd_replay` streams the rows of a table through the ingest, the trainer slices
the same table into windows.  Both see a row through different code: gaps are
filled by `fillna` or by the defaults of `validate.cpp`, rows are grouped by the
pair or by a joined text, statistics are computed for a batch or for a window.
The frames that reach infer are the windows of the trainer all the same.
-/

open Python RowGroups

variable {Index Value : Type}

/-- A record whose ids and required numbers are present. -/
structure CompleteRecord (Value : Type) [Zero Value] [LT Value] [IntCast Value]
    where
  tsUnixMs : Int
  ts_nonneg : 0 ≤ tsUnixMs
  ts_le : tsUnixMs ≤ 2 ^ 53
  linkId : ProperText
  channelId : ProperText
  osnrDb : Reading Value
  ber : Reading Value
  berPositive : 0 < ber.value
  laserBiasMa : Reading Value
  edfaPumpMa : Option (Reading Value)
  rxPowerDbm : Option (Reading Value)
  label : Option ProperText

section Records

variable [Ring Value] [LinearOrder Value]

/-- The record as pandas hands it over. -/
def CompleteRecord.record
    (complete : CompleteRecord Value) : TelemetryRecord Value where
  tsUnixMs := complete.tsUnixMs
  ts_nonneg := complete.ts_nonneg
  ts_le := complete.ts_le
  linkId := some complete.linkId
  channelId := some complete.channelId
  osnrDb := some complete.osnrDb
  ber := some complete.ber
  laserBiasMa := some complete.laserBiasMa
  edfaPumpMa := complete.edfaPumpMa
  rxPowerDbm := complete.rxPowerDbm
  label := complete.label

/-- The sample that the ingest makes of it. -/
def CompleteRecord.sample
    (complete : CompleteRecord Value) : Sample Value where
  tsUnixMs := complete.tsUnixMs
  linkId := complete.linkId.val
  channelId := complete.channelId.val
  osnrDb := complete.osnrDb.value
  ber := complete.ber.value
  laserBiasMa := complete.laserBiasMa.value
  edfaPumpMa :=
    (complete.edfaPumpMa.map Reading.value).getD kEdfaPumpDefault
  rxPowerDbm :=
    (complete.rxPowerDbm.map Reading.value).getD kRxPowerDefault

theorem CompleteRecord.sampleOf_record (complete : CompleteRecord Value) :
    complete.record.sampleOf
        (TelemetryRecord.sentText complete.record.linkId)
        (TelemetryRecord.sentText complete.record.channelId) =
      some complete.sample :=
  if_pos complete.berPositive

/-- A cell of a column of numbers. -/
def readingCell : Option (Reading Value) → FloatScore Value
  | some reading => .number reading.value
  | none => .nan

/--
The rows of the table hold these records, up to the offset that `--retime` adds
to the timestamps.
-/
structure HoldsRecords
    (table : RawTable Index Value)
    (offset : Int)
    (recordOf : Index → CompleteRecord Value) : Prop where
  tsUnixMs : ∀ row, (recordOf row).tsUnixMs = table.tsUnixMs row + offset
  linkId : ∀ row, (recordOf row).linkId.val = table.linkId row
  channelId :
    table.channelId = some fun row => (recordOf row).channelId.val
  osnrDb : ∀ row, table.osnrDb row = .number (recordOf row).osnrDb.value
  ber : ∀ row, table.ber row = .number (recordOf row).ber.value
  laserBiasMa :
    ∀ row, table.laserBiasMa row = .number (recordOf row).laserBiasMa.value
  edfaPumpMa :
    table.edfaPumpMa = some fun row => readingCell (recordOf row).edfaPumpMa
  rxPowerDbm :
    table.rxPowerDbm = some fun row => readingCell (recordOf row).rxPowerDbm

/-- The rows in the order in which `cmd_replay` sends them. -/
def replayRows
    (table : RawTable Index Value)
    (offset : Int) : List Index :=
  ordered
    (fun row => toLex (table.tsUnixMs row + offset, table.linkId row))
    table.index

/-- The records that `cmd_replay` hands to `stream_frames`. -/
def replayRecords
    (table : RawTable Index Value)
    (offset : Int)
    (recordOf : Index → CompleteRecord Value) : List (Record Value) :=
  (replayRows table offset).map fun row => (recordOf row).record.toDict

end Records

section Windows

/-! ## One window on both sides -/

variable [Field Value] [LinearOrder Value]

/-- A sample over the five channels. -/
def seqRowOf
    (log10 : Value → Value)
    (sample : Sample Value) : SeqRow Value :=
  #v[sample.osnrDb, Cpp.log10Ber log10 sample.ber, sample.laserBiasMa,
    sample.edfaPumpMa, sample.rxPowerDbm]

variable {library : IngestLibrary Value}

/-- The series of a frame are the columns of its window. -/
theorem sequencesFromSamples_eq_seqOf (samples : List (Sample Value)) :
    sequencesFromSamples library.numpy (samples.map Sample.toRecord) =
      seqOf (samples.map (seqRowOf library.log10)) := by
  apply Dict.eq_of_entries
  simp only [sequencesFromSamples, ← log10Ber_eq]
  simp [seqOf, column, seqRowOf, Sample.toRecord, IngestLibrary.numpy]

/-- What infer reads of a frame, and of whom the frame speaks. -/
structure ReadsBack
    (library : IngestLibrary Value)
    (samples : List (Sample Value))
    (frame : Frame Value) : Prop where
  length : samples.length = WINDOW_N
  matrix :
    frameMatrix (frameDict frame) =
      .ok (samples.map (seqRowOf library.log10))
  stats :
    ∀ features,
      frameStatsVector features (frameDict frame) =
        .ok (exactRow library.numpy
          (samples.map (seqRowOf library.log10)))
  newest :
    ∃ last,
      samples.getLast? = some last ∧ frame.tsUnixMs = last.tsUnixMs ∧
        frame.linkId = last.linkId ∧ frame.channelId = last.channelId

/-- Infer reads the window back from its frame. -/
theorem readsBack_buildFrame
    [CharZero Value]
    {window : Window Value}
    (length : window.samples.length = WINDOW_N) :
    ∃ frame,
      buildFrame library window = some frame ∧
        ReadsBack library window.samples frame := by
  have nonempty : window.samples ≠ [] :=
    List.ne_nil_of_length_pos (length ▸ by decide)
  obtain ⟨last, isLast⟩ :
      ∃ last, window.samples.getLast? = some last :=
    ⟨_, List.getLast?_eq_some_getLast nonempty⟩
  simp only [buildFrame, Window.back, isLast]
  refine ⟨_, rfl, ?_⟩
  exact {
    length
    matrix := by
      rw [frameDict, series_eq_sequences, sequencesFromSamples_eq_seqOf,
        frameMatrix_seqOf]
    stats := by
      intro features
      have computed := stats_eq_computeStats library window nonempty
      rw [sequencesFromSamples_eq_seqOf] at computed
      have scalar :=
        scalarStats_seqOf library.numpy
          (window.samples.map (seqRowOf library.log10))
      rw [scalarStats, computed] at scalar
      exact scalar
    newest := ⟨last, isLast, rfl, rfl, rfl⟩ }

/-- Every emission of a full window becomes a frame. -/
theorem exists_frames
    [CharZero Value]
    {emissions : List (Emission Value)}
    (full :
      ∀ emission ∈ emissions, emission.window.samples.length = WINDOW_N) :
    ∃ frames,
      emissions.map (fun emission => buildFrame library emission.window) =
          frames.map some ∧
        List.Forall₂ (ReadsBack library)
          (emissions.map fun emission => emission.window.samples) frames := by
  induction emissions with
  | nil =>
      exact ⟨[], rfl, List.Forall₂.nil⟩
  | cons emission rest inductionHypothesis =>
      obtain ⟨first, others⟩ := List.forall_mem_cons.mp full
      obtain ⟨frame, built, reads⟩ :=
        @readsBack_buildFrame _ _ _ library _ emission.window first
      obtain ⟨frames, builtRest, readsRest⟩ := inductionHypothesis others
      exact ⟨frame :: frames, by rw [List.map_cons, built, builtRest]; rfl,
        List.Forall₂.cons reads readsRest⟩

/-- A frame is scored as the window that it is. -/
theorem score_eq_scoreWindow
    {scoring : ScoringNumpy Value}
    {pipeline : Pipeline Value}
    {one : List (FloatScore Value) → FloatScore Value}
    (rowwise : pipeline.iforest.Rowwise one)
    (features : Numpy Value)
    {frame : Frame Value}
    {stats : List Value}
    {matrix : List (SeqRow Value)}
    (isStats : frameStatsVector features (frameDict frame) = .ok stats)
    (isMatrix : frameMatrix (frameDict frame) = .ok matrix) :
    scorePipelineFrame features scoring pipeline (frameDict frame) =
      scoreWindow scoring pipeline one (stats.map .number)
        (matrix.map fun row => row.map .number) := by
  rw [scorePipelineFrame, isStats, isMatrix, ← scoreBatch_single rowwise]
  rfl

/-- The trainer reads the row of a record as the ingest reads its sample. -/
theorem HoldsRecords.seqRow
    {table : RawTable Index Value}
    {offset : Int}
    {recordOf : Index → CompleteRecord Value}
    (holds : HoldsRecords table offset recordOf)
    (row : Index) :
    table.seqRow library.numpy row =
      (seqRowOf library.log10 (recordOf row).sample).map .number := by
  have filled
      {filler default : Value}
      (same : filler = default)
      {column : Option (Index → FloatScore Value)}
      {reading : Index → Option (Reading Value)}
      (isColumn : column = some fun row => readingCell (reading row)) :
      filledColumn filler column row =
        .number (((reading row).map Reading.value).getD default) := by
    rw [filledColumn, isColumn, same, Option.getD_some]
    cases reading row <;> rfl
  have measured :
      log10BerCell library.numpy (table.ber row) =
        .number (Cpp.log10Ber library.log10 (recordOf row).ber.value) := by
    have same :=
      log10Ber_eq library.log10 [(recordOf row).ber.value]
    rw [holds.ber]
    exact congrArg FloatScore.number (List.singleton_inj.mp same).symm
  have pump :
      filledColumn EDFA_PUMP_DEFAULT table.edfaPumpMa row =
        .number (recordOf row).sample.edfaPumpMa :=
    filled rfl holds.edfaPumpMa
  have power :
      filledColumn RX_POWER_DEFAULT table.rxPowerDbm row =
        .number (recordOf row).sample.rxPowerDbm :=
    filled (by rw [RX_POWER_DEFAULT, kRxPowerDefault]; norm_num)
      holds.rxPowerDbm
  rw [RawTable.seqRow, holds.osnrDb, holds.laserBiasMa, measured, pump, power]
  simp [seqRowOf, CompleteRecord.sample]

end Windows

section Keys

/-! ## One key on both sides -/

variable {table : RawTable Index Value} {offset : Int}

/-- Two pairs of the table have different joined texts. -/
def PairsSeparate (table : RawTable Index Value) : Prop :=
  ∀ row other,
    windowKey (table.linkId row) (table.channelOrDefault row) =
        windowKey (table.linkId other) (table.channelOrDefault other) →
      table.groupKey row = table.groupKey other

/-- The rows of a key, in the order of their timestamps. -/
def timeline
    (table : RawTable Index Value)
    (value : String ×ₗ String) : List Index :=
  ordered table.tsUnixMs (group table.groupKey table.index value)

/-- The rows of a key are sent in the order of their timestamps. -/
theorem filter_replayRows
    (distinct : DistinctStamps table.groupKey table.tsUnixMs table.index)
    (value : String ×ₗ String) :
    (replayRows table offset).filter (fun row => table.groupKey row = value) =
      timeline table value := by
  have isTimeline : IsTimeline table.groupKey table.tsUnixMs table.index value
      (timeline table value) :=
    isTimeline_ordered table.indexNodup distinct value
  refine filter_ordered_eq ?_ (List.perm_insertionSort _ _).symm
  refine List.Pairwise.imp_of_mem ?_ isTimeline.increasing
  intro first later _ _ less
  exact Prod.Lex.toLex_lt_toLex.mpr (Or.inl (by simpa using less))

variable [Field Value] [LinearOrder Value]
variable {recordOf : Index → CompleteRecord Value}

theorem HoldsRecords.key_sample
    (holds : HoldsRecords table offset recordOf)
    (row : Index) :
    (recordOf row).sample.key =
      windowKey (table.linkId row) (table.channelOrDefault row) := by
  rw [RawTable.channelOrDefault, holds.channelId, ← holds.linkId]
  rfl

/-- So the accepted samples of a key are those of its timeline. -/
theorem acceptedWithKey_of_replay
    [FloorRing Value]
    {library : IngestLibrary Value}
    (holds : HoldsRecords table offset recordOf)
    (distinct : DistinctStamps table.groupKey table.tsUnixMs table.index)
    (separate : PairsSeparate table)
    {lines : List Bytes}
    (accepted :
      acceptedSamples library lines =
        (replayRows table offset).map fun row => (recordOf row).sample)
    {value : String ×ₗ String}
    (member : value ∈ sortedKeys table.groupKey table.index) :
    acceptedWithKey library lines
        (windowKey (ofLex value).1 (ofLex value).2) =
      (timeline table value).map fun row => (recordOf row).sample := by
  obtain ⟨some, _, rfl⟩ := mem_sortedKeys.mp member
  rw [acceptedWithKey, accepted, List.filter_map, ← filter_replayRows distinct]
  congr 1
  refine List.filter_congr fun row _ => ?_
  simp only [Function.comp_apply, holds.key_sample, decide_eq_decide]
  exact ⟨fun same => separate row some same, fun same =>
    congrArg (fun pair => windowKey (ofLex pair).1 (ofLex pair).2) same⟩

end Keys

section Frames

/-! ## The frames of a replay -/

variable [Field Value] [LinearOrder Value] [FloorRing Value]
variable {library : IngestLibrary Value} {lines : List Bytes}
variable {table : RawTable Index Value} {offset : Int}
variable {recordOf : Index → CompleteRecord Value}

/-- The joined text of a pair. -/
def pairKey (value : String ×ₗ String) : String :=
  windowKey (ofLex value).1 (ofLex value).2

/-- What the ingest emits, pair after pair. -/
def emissionsByPair
    (library : IngestLibrary Value)
    (table : RawTable Index Value)
    (lines : List Bytes) : List (Emission Value) :=
  (sortedKeys table.groupKey table.index).flatMap fun value =>
    (ingestEmissions library lines).filter fun emission =>
      emission.sample.key = pairKey value

/-- The rows of the trainer's windows. -/
def windowRows (table : RawTable Index Value) : List (List Index) :=
  (sortedKeys table.groupKey table.index).flatMap fun value =>
    stridedSlices WINDOW_N 1 (timeline table value)

/-- The ingest's windows hold the samples of the trainer's rows. -/
theorem samples_emissionsByPair
    (holds : HoldsRecords table offset recordOf)
    (distinct : DistinctStamps table.groupKey table.tsUnixMs table.index)
    (separate : PairsSeparate table)
    (accepted :
      acceptedSamples library lines =
        (replayRows table offset).map fun row => (recordOf row).sample) :
    (emissionsByPair library table lines).map
        (fun emission => emission.window.samples) =
      (windowRows table).map fun rows =>
        rows.map fun row => (recordOf row).sample := by
  rw [emissionsByPair, windowRows, List.map_flatMap, List.map_flatMap]
  refine List.flatMap_congr fun value member => ?_
  rw [samples_of_key, pairKey,
    acceptedWithKey_of_replay holds distinct separate accepted member,
    ← stridedSlices_map, stridedSlices_one (by decide)]
  rfl

/-- No emission is left out. -/
theorem emissionsByPair_perm
    (holds : HoldsRecords table offset recordOf)
    (separate : PairsSeparate table)
    (accepted :
      acceptedSamples library lines =
        (replayRows table offset).map fun row => (recordOf row).sample) :
    (emissionsByPair library table lines).Perm
      (ingestEmissions library lines) := by
  have keysDistinct :
      ((sortedKeys table.groupKey table.index).map pairKey).Nodup := by
    refine List.Nodup.map_on ?_
      (sortedKeys_pairwise.imp fun less => less.ne)
    intro first firstMember second secondMember same
    obtain ⟨row, _, rfl⟩ := mem_sortedKeys.mp firstMember
    obtain ⟨other, _, rfl⟩ := mem_sortedKeys.mp secondMember
    exact separate row other same
  have parts := @flatMap_group_perm _ _ _
    (fun emission : Emission Value => emission.sample.key)
    (ingestEmissions library lines) _ keysDistinct
  rw [List.flatMap_map] at parts
  refine parts.trans (List.Perm.of_eq (List.filter_eq_self.mpr ?_))
  intro emission member
  have spec := emissionSpec member
  obtain ⟨sample, rest, isCons⟩ :=
    List.exists_cons_of_length_pos (spec.length ▸ (by decide : 0 < kWindowN))
  obtain ⟨isAccepted, sameKey⟩ :=
    mem_acceptedWithKey.mp (spec.own sample (isCons ▸ List.mem_cons_self))
  rw [accepted] at isAccepted
  obtain ⟨row, inRows, rfl⟩ := List.mem_map.mp isAccepted
  rw [decide_eq_true_eq, ← sameKey, holds.key_sample]
  refine List.mem_map.mpr ⟨table.groupKey row, ?_, rfl⟩
  exact mem_sortedKeys.mpr
    ⟨row, (List.perm_insertionSort _ _).mem_iff.mp inRows, rfl⟩

/--
The frames are the windows: the same pairs in the same order, nothing else is
emitted, and infer reads from each frame the matrix, the statistics and the ids
that the trainer has at the same place.
-/
structure ServesWindows
    (library : IngestLibrary Value)
    (table : RawTable Index Value)
    (offset : Int)
    (lines : List Bytes)
    (frames : List (Frame Value))
    (result : TrainingWindows (FloatScore Value)) : Prop where
  byPair :
    (emissionsByPair library table lines).map
        (fun emission => buildFrame library emission.window) =
      frames.map some
  all :
    ((ingestEmissions library lines).map fun emission =>
      buildFrame library emission.window).Perm (frames.map some)
  matrices :
    List.Forall₂
      (fun frame window =>
        ∃ exact,
          frameMatrix (frameDict frame) = .ok exact ∧
            window = exact.map fun row => row.map .number)
      frames result.xSeq.windows
  statistics :
    List.Forall₂
      (fun frame stats =>
        ∀ features, ∃ exact,
          frameStatsVector features (frameDict frame) = .ok exact ∧
            stats = exact.map .number)
      frames result.xStats
  metaRows :
    List.Forall₂
      (fun frame row =>
        frame.linkId = row.linkId ∧ frame.channelId = row.channelId ∧
          frame.tsUnixMs = row.tsUnixMs + offset)
      frames result.metaRows

variable {scoring : ScoringNumpy Value} {pipeline : Pipeline Value}
variable {one : List (FloatScore Value) → FloatScore Value}

/-- The scores of the frames are the rows of the batch. -/
def ScoredAlike
    (scoring : ScoringNumpy Value)
    (pipeline : Pipeline Value)
    (out : BatchScores Value)
    (frames : List (Frame Value)) : Prop :=
  List.Forall₂
    (fun frame position =>
      ∀ features, ∃ scores,
        out.row? position = some scores ∧
          scorePipelineFrame features scoring pipeline (frameDict frame) =
            some scores)
    frames (List.range out.s.length)

/-- Frames that are the windows are scored as the windows. -/
theorem ServesWindows.scoredAlike
    {frames : List (Frame Value)}
    {result : TrainingWindows (FloatScore Value)}
    (serves : ServesWindows library table offset lines frames result)
    (rowwise : pipeline.iforest.Rowwise one)
    {out : BatchScores Value}
    (scored :
      scoreBatch scoring pipeline result.xStats result.xSeq.windows =
        some out) :
    ScoredAlike scoring pipeline out frames := by
  have statsCount := serves.statistics.length_eq
  have windowCount := serves.matrices.length_eq
  have scoreCount :=
    length_s_scoreBatch rowwise (statsCount.symm.trans windowCount) scored
  refine List.forall₂_of_length_eq_of_get
    (by rw [List.length_range, scoreCount, windowCount]) ?_
  intro position inside _ features
  have insideStats := statsCount ▸ inside
  have insideWindows := windowCount ▸ inside
  obtain ⟨stats, isStats, sameStats⟩ :=
    serves.statistics.get inside insideStats features
  obtain ⟨matrix, isMatrix, sameMatrix⟩ :=
    serves.matrices.get inside insideWindows
  obtain ⟨errors, mapped⟩ :=
    (exists_scoreBatch_iff
      (List.ne_nil_of_length_pos (Nat.zero_lt_of_lt insideStats))
      (List.ne_nil_of_length_pos (Nat.zero_lt_of_lt insideWindows))).mp
      ⟨out, scored⟩
  have related := forall₂_of_mapM_eq_some mapped
  have isError :=
    related.get insideWindows (related.length_eq ▸ insideWindows)
  obtain ⟨scores, isScored⟩ :
      ∃ scores,
        scoreWindow scoring pipeline one result.xStats[position]
            result.xSeq.windows[position] =
          some scores := by
    rw [scoreWindow]
    exact ⟨_, congrArg (Option.map _) isError⟩
  have inBatch := row?_scoreBatch rowwise scored position
  rw [List.getElem?_eq_getElem insideStats,
    List.getElem?_eq_getElem insideWindows, Option.bind_some,
    Option.bind_some] at inBatch
  have alone :=
    @score_eq_scoreWindow _ _ _ scoring pipeline one rowwise features
      frames[position] stats matrix isStats isMatrix
  rw [← sameStats, ← sameMatrix] at alone
  refine ⟨scores, ?_, alone.trans isScored⟩
  rw [List.get_eq_getElem, List.getElem_range]
  exact inBatch.trans isScored

variable {python : Interpreter Value} {dumps : Dumps Value}

/-- What the producer sends for a complete record. -/
theorem lineOf?_record (complete : CompleteRecord Value) :
    lineOf? python dumps false complete.record.toDict =
      some (Utf8.encode (dumps complete.record.cleaned)) := by
  have stamped :
      complete.record.cleaned.get? "ts_unix_ms" =
        some (.integer complete.record.tsUnixMs) := by
    simp [TelemetryRecord.cleaned, TelemetryRecord.get?_store, Dict.get?_set]
  rw [lineOf?, TelemetryRecord.cleanRecord_toDict]
  exact (congrArg (fun found : Option (PyValue Value) =>
    found.bind fun _ => some (Utf8.encode (dumps complete.record.cleaned)))
    stamped)

variable [IsStrictOrderedRing Value]

/-- The table is replayed once, and the ingest reads all of it. -/
structure ReplayedOnce
    (python : Interpreter Value)
    (dumps : Dumps Value)
    (table : RawTable Index Value)
    (offset : Int)
    (recordOf : Index → CompleteRecord Value)
    (connection : Connection Value)
    (accepts : List JsonlServer.AcceptResult) : Prop where
  frames : connection.frames = replayRecords table offset recordOf
  once : connection.loop = false
  sent : (connection.stream python dumps).sent = connection.frames.length
  delivered :
    JsonlServer.receivedBytes connection.received =
      (connection.stream python dumps).taken
  served :
    accepts.filterMap JsonlServer.AcceptResult.served? = [connection.received]

/-- The lines of the records fit, and the ingest parses what was written. -/
structure LinesCarry
    (dumps : Dumps Value)
    (library : IngestLibrary Value)
    (recordOf : Index → CompleteRecord Value) : Prop where
  transmits :
    ∀ row, Transmits library (recordOf row).record.cleaned
      (Utf8.encode (dumps (recordOf row).record.cleaned))
  short :
    ∀ row, (Utf8.encode (dumps (recordOf row).record.cleaned)).length ≤
      runawayLimit

/-- The ingest accepts the samples of all rows in the order of the replay. -/
theorem acceptedSamples_of_replay
    (dumpsObjects : DumpsObjects dumps)
    (parsesJson : ParsesJson library)
    (carry : LinesCarry dumps library recordOf)
    {connection : Connection Value}
    {accepts : List JsonlServer.AcceptResult}
    (replayed :
      ReplayedOnce python dumps table offset recordOf connection accepts) :
    acceptedSamples library (JsonlServer.serveForever accepts) =
      (replayRows table offset).map fun row => (recordOf row).sample := by
  have records :
      connection.records = replayRecords table offset recordOf := by
    rw [Connection.records, sequence, if_neg (by simp [replayed.once]),
      replayed.frames]
  have short :
      ∀ rec ∈ connection.records, ∀ line,
        lineOf? python dumps false rec = some line →
          line.length ≤ runawayLimit := by
    intro rec member line isLine
    rw [records] at member
    obtain ⟨row, _, rfl⟩ := List.mem_map.mp member
    rw [lineOf?_record] at isLine
    obtain rfl := Option.some.inj isLine
    exact carry.short row
  obtain ⟨count, _, all, accepted⟩ :=
    connection.exists_count dumpsObjects parsesJson short
      (replayed.delivered ▸ List.prefix_rfl)
  have enough : connection.records.length ≤ count := by
    rw [records, ← replayed.frames, ← replayed.sent]
    exact all replayed.delivered
  rw [JsonlServer.serveForever_eq, replayed.served, List.flatMap_singleton,
    accepted, List.take_of_length_le enough, records, replayRecords,
    List.filterMap_map]
  refine List.filterMap_eq_map_iff_forall_eq_some.mpr ?_
  intro row _
  rw [Function.comp_apply, acceptedRecord?, lineOf?_record, Option.bind_some,
    TelemetryRecord.acceptedSample?_eq_sampleOf (carry.transmits row),
    CompleteRecord.sampleOf_record]

/-- A frame that reads back the samples of a window's rows is that window. -/
theorem servesWindows_of_readsBack
    (holds : HoldsRecords table offset recordOf)
    {frames : List (Frame Value)}
    (byPair :
      (emissionsByPair library table lines).map
          (fun emission => buildFrame library emission.window) =
        frames.map some)
    (all :
      ((ingestEmissions library lines).map fun emission =>
        buildFrame library emission.window).Perm (frames.map some))
    (reads :
      List.Forall₂ (ReadsBack library)
        ((windowRows table).map fun rows =>
          rows.map fun row => (recordOf row).sample)
        frames) :
    ServesWindows library table offset lines frames
      (windowsFromDataframe library.numpy table) := by
  obtain ⟨isWindows, isMeta⟩ :=
    windowsFromDataframe_rows library.numpy table
      (show 1 ≤ WINDOW_N by decide) (Nat.le_refl 1)
  obtain ⟨windowN, _, _, isStats⟩ :=
    windowsFromDataframe_spec library.numpy table WINDOW_N 1
  rw [List.forall₂_map_left_iff] at reads
  have exact_eq (rows : List Index) :
      rows.map (table.seqRow library.numpy) =
        ((rows.map fun row => (recordOf row).sample).map
          (seqRowOf library.log10)).map fun row => row.map .number := by
    rw [List.map_map, List.map_map]
    exact List.map_congr_left fun row _ => holds.seqRow row
  refine { byPair, all, matrices := ?_, statistics := ?_, metaRows := ?_ }
  · rw [isWindows, List.forall₂_map_right_iff]
    refine reads.flip.imp fun frame rows readsBack => ?_
    exact ⟨_, readsBack.matrix, exact_eq rows⟩
  · rw [isStats, statsFromSequences_eq_map _ (by rw [windowN]; decide),
      isWindows, windowN, List.map_map, List.forall₂_map_right_iff]
    refine reads.flip.imp fun frame rows readsBack features => ?_
    refine ⟨_, readsBack.stats features, ?_⟩
    have length := readsBack.length
    have number :=
      windowStats_number library.numpy
        (show 2 ≤ ((rows.map fun row => (recordOf row).sample).map
            (seqRowOf library.log10)).length by
          rw [List.length_map, length]
          decide)
    rw [List.length_map, length] at number
    rw [Function.comp_apply, exact_eq]
    exact number
  · have described :
        List.Forall₂
          (fun frame row? =>
            ∃ row,
              row? = some row ∧ frame.linkId = row.linkId ∧
                frame.channelId = row.channelId ∧
                frame.tsUnixMs = row.tsUnixMs + offset)
          frames
          ((windowsFromDataframe library.numpy table).metaRows.map some) := by
      rw [isMeta, List.forall₂_map_right_iff]
      refine reads.flip.imp fun frame rows readsBack => ?_
      obtain ⟨last, isLast, stamp, link, channel⟩ := readsBack.newest
      rw [List.getLast?_map] at isLast
      obtain ⟨row, isRow, rfl⟩ := Option.map_eq_some_iff.mp isLast
      refine ⟨table.metaRow row, by rw [isRow]; rfl, ?_, ?_, ?_⟩
      · exact link.trans (holds.linkId row)
      · rw [channel, RawTable.metaRow, RawTable.channelOrDefault,
          holds.channelId]
        rfl
      · exact stamp.trans (holds.tsUnixMs row)
    rw [List.forall₂_map_right_iff] at described
    refine described.imp fun frame row isDescribed => ?_
    obtain ⟨_, isRow, same⟩ := isDescribed
    obtain rfl := Option.some.inj isRow
    exact same

variable {connection : Connection Value}
variable {accepts : List JsonlServer.AcceptResult}

/-- The frames of a replay are the windows of its table. -/
theorem exists_servesWindows
    (dumpsObjects : DumpsObjects dumps)
    (parsesJson : ParsesJson library)
    (carry : LinesCarry dumps library recordOf)
    (holds : HoldsRecords table offset recordOf)
    (distinct : DistinctStamps table.groupKey table.tsUnixMs table.index)
    (separate : PairsSeparate table)
    (replayed :
      ReplayedOnce python dumps table offset recordOf connection accepts) :
    ∃ frames,
      ServesWindows library table offset (JsonlServer.serveForever accepts)
        frames (windowsFromDataframe library.numpy table) := by
  have accepted :=
    acceptedSamples_of_replay dumpsObjects parsesJson carry replayed
  have samples :=
    samples_emissionsByPair holds distinct separate accepted
  have perm := emissionsByPair_perm holds separate accepted
  obtain ⟨frames, built, reads⟩ :=
    @exists_frames _ _ _ library _
      (emissionsByPair library table (JsonlServer.serveForever accepts))
      (fun emission member => (emissionSpec (perm.mem_iff.mp member)).length)
  rw [samples] at reads
  have all :
      ((ingestEmissions library (JsonlServer.serveForever accepts)).map
          fun emission => buildFrame library emission.window).Perm
        (frames.map some) := by
    rw [← built]
    exact (perm.map _).symm
  exact ⟨frames, servesWindows_of_readsBack holds built all reads⟩

/--
A table that is replayed once reaches infer as the windows the trainer makes of
it, whatever the order of its rows and however TCP cuts the stream, and is
scored there as in the trainer's batch.
-/
theorem replay_frames_are_training_windows
    (python : Interpreter Value)
    (dumpsObjects : DumpsObjects dumps)
    (parsesJson : ParsesJson library)
    (carry : LinesCarry dumps library recordOf)
    (holds : HoldsRecords table offset recordOf)
    (distinct : DistinctStamps table.groupKey table.tsUnixMs table.index)
    (separate : PairsSeparate table)
    {connection : Connection Value}
    {accepts : List JsonlServer.AcceptResult}
    (replayed :
      ReplayedOnce python dumps table offset recordOf connection accepts) :
    let result := windowsFromDataframe library.numpy table
    ∃ frames,
      ServesWindows library table offset
          (JsonlServer.serveForever accepts) frames result ∧
        ∀ (scoring : ScoringNumpy Value) (pipeline : Pipeline Value) one out,
          pipeline.iforest.Rowwise one →
            scoreBatch scoring pipeline result.xStats result.xSeq.windows =
              some out →
              ScoredAlike scoring pipeline out frames := by
  intro result
  obtain ⟨frames, serves⟩ :=
    exists_servesWindows dumpsObjects parsesJson carry holds distinct separate
      replayed
  exact ⟨frames, serves, fun _ _ _ _ rowwise scored =>
    serves.scoredAlike rowwise scored⟩

end Frames

section SixtyRows

/-! A table of sixty rows, one second apart. -/

/-- A digit. -/
def digit (number : Nat) : Char :=
  Char.ofNat (48 + number)

/-- What `json.dumps` writes for a row. -/
def rowText (row : Fin 60) : List Char :=
  "\x7b\"ts_unix_ms\": 17100000".toList ++
    [digit (row / 10), digit (row % 10)] ++
    ("000, \"link_id\": \"L1\", \"channel_id\": \"C1\", " ++
      "\"osnr_db\": 18.4, \"ber\": 1.2e-06, " ++
      "\"laser_bias_ma\": 42.0\x7d").toList

def rowLine (row : Fin 60) : Bytes :=
  Utf8.encode (rowText row)

def rowStamp (row : Fin 60) : Int :=
  1710000000000 + 1000 * (row : Nat)

theorem rowStamp_nonneg (row : Fin 60) : 0 ≤ rowStamp row := by
  rw [rowStamp]
  omega

theorem rowStamp_le (row : Fin 60) : rowStamp row ≤ 2 ^ 53 := by
  have small := row.isLt
  rw [rowStamp]
  omega

theorem rowStamp_injective : Function.Injective rowStamp := by
  intro row other same
  rw [rowStamp, rowStamp] at same
  omega

/-- The digits of two numbers below ten are different. -/
theorem eq_of_digit_eq
    {number other : Nat}
    (small : number < 10)
    (otherSmall : other < 10)
    (same : digit number = digit other) :
    number = other := by
  have all :
      ∀ first second : Fin 10, digit first = digit second → first = second := by
    decide +kernel
  exact congrArg Fin.val (all ⟨number, small⟩ ⟨other, otherSmall⟩ same)

theorem rowLine_injective : Function.Injective rowLine := by
  intro row other same
  have sameText := congrArg Utf8.decode same
  rw [rowLine, rowLine, Utf8.decode_encode, Utf8.decode_encode] at sameText
  have digits :
      [digit (row / 10), digit (row % 10)] =
        [digit (other / 10), digit (other % 10)] :=
    List.append_cancel_left (List.append_cancel_right sameText)
  rw [List.cons.injEq, List.cons.injEq] at digits
  have tens := eq_of_digit_eq (by omega) (by omega) digits.1
  have ones := eq_of_digit_eq (by omega) (by omega) digits.2.1
  omega

theorem rowText_isObject (row : Fin 60) : JsonText.IsObject (rowText row) := by
  have all :
      (List.finRange 60).all (fun row =>
        JsonText.accepts (rowText row) && (rowText row).head? == some '\x7b' &&
          (rowText row).getLast? == some '\x7d') = true := by
    decide +kernel
  have this := List.all_eq_true.mp all row (List.mem_finRange row)
  simp only [Bool.and_eq_true, beq_iff_eq] at this
  exact ⟨this.1.1, this.1.2, this.2⟩

theorem rowText_printable
    (row : Fin 60) :
    ∀ char ∈ rowText row, isPrintable char = true := by
  have all :
      (List.finRange 60).all (fun row => (rowText row).all isPrintable) =
        true := by
    decide +kernel
  exact List.all_eq_true.mp
    (List.all_eq_true.mp all row (List.mem_finRange row))

theorem rowLine_length (row : Fin 60) : (rowLine row).length = 122 := by
  have all :
      (List.finRange 60).all (fun row => (rowText row).length = 122) =
        true := by
    decide +kernel
  rw [rowLine, encode_of_printable (rowText_printable row), List.length_map]
  simpa using List.all_eq_true.mp all row (List.mem_finRange row)

theorem channel_ne_empty : "C1" ≠ "" := by
  decide

theorem rowBer_pos : (0 : Rat) < 12 / 10000000 := by
  norm_num

def rowRecord (row : Fin 60) : CompleteRecord Rat where
  tsUnixMs := rowStamp row
  ts_nonneg := rowStamp_nonneg row
  ts_le := rowStamp_le row
  linkId := ⟨"L1", link_ne_empty⟩
  channelId := ⟨"C1", channel_ne_empty⟩
  osnrDb := .float (184 / 10)
  ber := .float (12 / 10000000)
  berPositive := rowBer_pos
  laserBiasMa := .float 42
  edfaPumpMa := none
  rxPowerDbm := none
  label := none

/-- The table as the trainer loads it. -/
def rowTable : RawTable (Fin 60) Rat where
  index := List.finRange 60
  indexNodup := List.nodup_finRange 60
  tsUnixMs := rowStamp
  linkId _ := "L1"
  channelId := some fun _ => "C1"
  osnrDb _ := .number (184 / 10)
  ber _ := .number (12 / 10000000)
  laserBiasMa _ := .number 42
  edfaPumpMa := some fun _ => .nan
  rxPowerDbm := some fun _ => .nan
  label := none
  yHorizon := none
  hardFail := none

theorem rowTable_holds : HoldsRecords rowTable 0 rowRecord where
  tsUnixMs _ := (Int.add_zero _).symm
  linkId _ := rfl
  channelId := rfl
  osnrDb _ := rfl
  ber _ := rfl
  laserBiasMa _ := rfl
  edfaPumpMa := rfl
  rxPowerDbm := rfl

/-- The row that a dictionary was made of. -/
def rowOf? (clean : Record Rat) : Option (Fin 60) :=
  (List.finRange 60).find? fun row =>
    clean.get? "ts_unix_ms" = some (.integer (rowStamp row))

/-- The texts of the rows and of an empty dictionary. -/
def rowDumps : Dumps Rat := fun clean =>
  match rowOf? clean with
  | some row => rowText row
  | none => ['\x7b', '\x7d']

/-- The parser on the lines of the rows. -/
def rowLibrary : IngestLibrary Rat where
  parse line :=
    ((List.finRange 60).find? fun row => rowLine row = line).map fun row =>
      documentOf (rowRecord row).record.cleaned
  log10 _ := -6
  sqrt value := value
  castOutOfRange _ := 0

/-- A row is found by what is its own. -/
theorem find?_finRange
    {size : Nat}
    {found : Fin size → Bool}
    {row : Fin size}
    (only : ∀ other, found other = true ↔ other = row) :
    (List.finRange size).find? found = some row := by
  cases result : (List.finRange size).find? found with
  | none =>
      have missing := List.find?_eq_none.mp result row (List.mem_finRange row)
      exact absurd ((only row).mpr rfl) missing
  | some other =>
      rw [(only other).mp (List.find?_some result)]

theorem rowDumps_record (row : Fin 60) :
    rowDumps (rowRecord row).record.cleaned = rowText row := by
  have isRow : rowOf? (rowRecord row).record.cleaned = some row := by
    refine find?_finRange fun other => ?_
    have stamped :
        (rowRecord row).record.cleaned.get? "ts_unix_ms" =
          some (.integer (rowStamp row)) := by
      simp [TelemetryRecord.cleaned, TelemetryRecord.get?_store, Dict.get?_set,
        CompleteRecord.record, rowRecord]
    rw [stamped, decide_eq_true_iff, Option.some.injEq, PyValue.integer.injEq,
      rowStamp_injective.eq_iff, eq_comm]
  rw [rowDumps, isRow]

theorem rowDumps_objects : DumpsObjects rowDumps where
  object clean := by
    rw [rowDumps]
    split
    · exact rowText_isObject _
    · exact ⟨rfl, rfl, rfl⟩
  printable clean := by
    rw [rowDumps]
    split
    · exact rowText_printable _
    · exact List.all_eq_true.mp rfl

theorem rowLibrary_parsesJson : ParsesJson rowLibrary := by
  intro text _ parsed
  obtain ⟨row, isRow⟩ : ∃ row, rowLine row = Utf8.encode text := by
    by_contra other
    refine parsed (Option.map_eq_none_iff.mpr (List.find?_eq_none.mpr ?_))
    intro row _ isRow
    exact other ⟨row, by simpa using isRow⟩
  have sameText := congrArg Utf8.decode isRow
  rw [rowLine, Utf8.decode_encode, Utf8.decode_encode] at sameText
  exact sameText ▸ (rowText_isObject row).accepted

theorem rowLines_carry : LinesCarry rowDumps rowLibrary rowRecord where
  transmits row := by
    rw [rowDumps_record]
    refine ⟨documentOf (rowRecord row).record.cleaned, ?_, rfl,
      find?_documentOf _⟩
    refine Option.map_eq_some_iff.mpr ⟨row, find?_finRange fun other => ?_, rfl⟩
    exact decide_eq_true_iff.trans rowLine_injective.eq_iff
  short row := by
    rw [rowDumps_record]
    exact (rowLine_length row).trans_le (by decide)

/-- The lines of the rows as they are sent. -/
def rowLines : List Bytes :=
  (replayRows rowTable 0).map rowLine

theorem rowLines_mapM :
    (replayRecords rowTable 0 rowRecord).mapM
        (lineOf? plainInterpreter rowDumps false) =
      some rowLines := by
  refine mapM_eq_some_of_forall₂ ?_
  rw [replayRecords, rowLines, List.forall₂_map_left_iff,
    List.forall₂_map_right_iff, List.forall₂_same]
  intro row _
  rw [lineOf?_record, rowDumps_record, rowLine]

theorem rowLines_length : (payloads rowLines).length = 60 * 123 := by
  have count : rowLines.length = 60 := by
    rw [rowLines, List.length_map, replayRows, ordered,
      List.length_insertionSort]
    rfl
  have uniform :
      rowLines.map (fun line => (line ++ [newline]).length) =
        List.replicate 60 123 := by
    refine List.eq_replicate_iff.mpr ⟨by rw [List.length_map, count], ?_⟩
    intro size member
    obtain ⟨line, isLine, rfl⟩ := List.mem_map.mp member
    obtain ⟨row, _, rfl⟩ := List.mem_map.mp isLine
    rw [List.length_append, rowLine_length]
    rfl
  rw [payloads, List.length_flatMap, uniform]
  rfl

theorem rowLines_ne_nil : payloads rowLines ≠ [] := by
  refine List.ne_nil_of_length_pos ?_
  rw [rowLines_length]
  decide

theorem rowLines_fit : (payloads rowLines).length ≤ kReadBufferSize := by
  rw [rowLines_length]
  decide

/-- All rows arrive with one call of `recv`. -/
def sixtyRows : Connection Rat where
  frames := replayRecords rowTable 0 rowRecord
  loop := false
  passes := 1
  results := List.replicate (replayRecords rowTable 0 rowRecord).length .sent
  received := [
    .received ⟨payloads rowLines, rowLines_ne_nil, rowLines_fit⟩, .closed]

theorem sixtyRows_replayed :
    ReplayedOnce plainInterpreter rowDumps rowTable 0 rowRecord sixtyRows
      [.accepted sixtyRows.received] := by
  have stream :
      sixtyRows.stream plainInterpreter rowDumps =
        ⟨payloads rowLines, sixtyRows.frames.length⟩ := by
    rw [Connection.stream, streamFrames, sixtyRows, streamPasses,
      streamPass_of_sent rowLines_mapM]
    simp
  exact {
    frames := rfl
    once := rfl
    sent := by rw [stream]
    delivered := by
      rw [stream]
      exact List.append_nil _
    served := rfl }

/-- A pipeline that knows nothing. -/
def blankPipeline : Pipeline Rat where
  iforest := {
    decisionFunction := fun rows => rows.map fun _ => 0
    lo := 0
    hi := .number 1 }
  autoencoder := {
    inputDim := 300
    model := {
      encoder0 := ⟨.replicate _ (.replicate _ 0), .replicate _ 0⟩
      encoder2 := ⟨.replicate _ (.replicate _ 0), .replicate _ 0⟩
      decoder0 := ⟨.replicate _ (.replicate _ 0), .replicate _ 0⟩
      decoder2 := ⟨.replicate _ (.replicate _ 0), .replicate _ 0⟩ }
    scaler := ⟨.replicate _ 0, .replicate _ (.number 1)⟩
    errP98 := .number 1 }
  horizon := {}

def blankNumpy : ScoringNumpy Rat where
  logistic := ⟨fun _ => 1, fun _ => 0⟩
  float32 value := value

theorem windowRows_rowTable :
    ∃ rows, windowRows rowTable = [rows] ∧ rows.length = 60 := by
  have lengths : (windowRows rowTable).map List.length = [60] := by
    decide +kernel
  exact List.map_eq_singleton_iff.mp lengths

/-- A table of one window is scored. -/
theorem exists_scored_of_oneWindow
    {table : RawTable (Fin 60) Rat}
    {rows : List (Fin 60)}
    (oneWindow : windowRows table = [rows])
    (sixty : rows.length = 60) :
    let result := windowsFromDataframe rowLibrary.numpy table
    result.xSeq.windows.length = 1 ∧
      ∃ out,
        scoreBatch blankNumpy blankPipeline result.xStats
            result.xSeq.windows =
          some out := by
  intro result
  obtain ⟨isWindows, _⟩ :=
    windowsFromDataframe_rows rowLibrary.numpy table
      (show 1 ≤ WINDOW_N by decide) (Nat.le_refl 1)
  obtain ⟨windowN, _, _, isStats⟩ :=
    windowsFromDataframe_spec rowLibrary.numpy table WINDOW_N 1
  have isWindow :
      result.xSeq.windows =
        [rows.map (table.seqRow rowLibrary.numpy)] :=
    isWindows.trans (congrArg (List.map _) oneWindow)
  have statsCount : result.xStats.length = 1 := by
    rw [isStats, statsFromSequences_eq_map _ (by rw [windowN]; decide),
      List.length_map, isWindow]
    rfl
  obtain ⟨stats, isStats⟩ := List.length_eq_one_iff.mp statsCount
  obtain ⟨err, isErr⟩ :=
    (blankPipeline.autoencoder.exists_error?_iff blankNumpy.float32
      (rows.map (table.seqRow rowLibrary.numpy))).mpr
      (by rw [List.length_map, sixty]; rfl)
  have fits :=
    mapM_eq_some_of_forall₂ (List.Forall₂.cons isErr List.Forall₂.nil)
  refine ⟨by rw [isWindow]; rfl, ?_⟩
  rw [isStats, isWindow]
  exact (exists_scoreBatch_iff (List.cons_ne_nil stats [])
    (List.cons_ne_nil _ [])).mpr ⟨[err], fits⟩

/-- The sixty rows give one frame, which is scored as in the batch. -/
theorem replay_frames_are_training_windows_sixty :
    ∃ frame out scores,
      ServesWindows rowLibrary rowTable 0
          (JsonlServer.serveForever [.accepted sixtyRows.received]) [frame]
          (windowsFromDataframe rowLibrary.numpy rowTable) ∧
        scoreBatch blankNumpy blankPipeline
            (windowsFromDataframe rowLibrary.numpy rowTable).xStats
            (windowsFromDataframe rowLibrary.numpy rowTable).xSeq.windows =
          some out ∧
        out.row? 0 = some scores ∧
        scorePipelineFrame rowLibrary.numpy blankNumpy blankPipeline
            (frameDict frame) =
          some scores := by
  obtain ⟨frames, serves, alike⟩ :=
    replay_frames_are_training_windows plainInterpreter rowDumps_objects
      rowLibrary_parsesJson rowLines_carry rowTable_holds
      (fun row _ other _ _ same => rowStamp_injective same)
      (fun _ _ _ => rfl) sixtyRows_replayed
  obtain ⟨rows, isOnly, sixty⟩ := windowRows_rowTable
  obtain ⟨oneWindow, out, scored⟩ :=
    exists_scored_of_oneWindow isOnly sixty
  obtain ⟨frame, rfl⟩ :=
    List.length_eq_one_iff.mp (serves.matrices.length_eq.trans oneWindow)
  have scoredAlike := alike blankNumpy blankPipeline _ out (fun _ => rfl) scored
  have scoreCount : 1 = (List.range out.s.length).length :=
    scoredAlike.length_eq
  obtain ⟨scores, isRow, isFrame⟩ :=
    scoredAlike.get Nat.one_pos (scoreCount ▸ Nat.one_pos) rowLibrary.numpy
  rw [List.get_eq_getElem, List.getElem_range] at isRow
  exact ⟨frame, out, scores, serves, scored, isRow, isFrame⟩

end SixtyRows

end Producer

end OpticsSoftfail
