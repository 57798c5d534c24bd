import OpticsSoftfail.PartialMaps
import OpticsSoftfail.TelemetryScenario
import OpticsSoftfail.TrainingCorpus
import OpticsSoftfail.TrainingWindows

namespace OpticsSoftfail

namespace Corpus

/-!
# From the schedule of the corpus to the windows of the trainer

`cmd_generate` labels the scenario of each bucket, `load_corpus` reads the files
back, and `train` cuts the rows into windows of which it selects the nominal
ones.  Here these steps are put together, from the specifications to what the
anomaly models are fitted on.
-/

open RowGroups

variable {Value : Type}

/-- One row of the tables that `cmd_generate` writes. -/
structure LabelledRow (Value : Type) where
  raw : RawRow Value
  hardFail : Bool
  yHorizon : Int
  deriving Repr, DecidableEq

/-- The DataFrame with these rows. -/
def labelledTable (rows : List (LabelledRow Value)) :
    Python.RawTable (Fin rows.length) Value where
  index := List.finRange rows.length
  indexNodup := List.nodup_finRange _
  tsUnixMs row := (rows.get row).raw.tsUnixMs
  linkId row := (rows.get row).raw.linkId
  channelId := some fun row => (rows.get row).raw.channelId
  osnrDb row := .number (rows.get row).raw.osnrDb
  ber row := .number (rows.get row).raw.ber
  laserBiasMa row := .number (rows.get row).raw.laserBiasMa
  edfaPumpMa := some fun row => .number (rows.get row).raw.edfaPumpMa
  rxPowerDbm := some fun row => .number (rows.get row).raw.rxPowerDbm
  label := some fun row => (rows.get row).raw.label.text
  yHorizon := some fun row => (rows.get row).yHorizon
  hardFail := some fun row => (rows.get row).hardFail

/-- `xs[mask]` of numpy. -/
def select {Item : Type} (mask : List Bool) (items : List Item) : List Item :=
  ((items.zip mask).filter Prod.snd).map Prod.fst

/-- `str(data_dir)` or `str(SAMPLE_CSV)`, the second of `load_corpus`. -/
def Source.text (dataDir : String) : Source → String
  | .dataDir => dataDir
  | .sampleCsv => "data/sample/sample_links.csv"

/-- The stride of `train`. -/
def strideOf (stride : Option Nat) (source : String) : Nat :=
  stride.getD (if source.endsWith ".csv" then 1 else 10)

section Model

variable [Field Value] [LinearOrder Value]

/-- `build_windows`; `none` is an exception or `SystemExit`. -/
def buildWindows
    {Index : Type}
    [DecidableEq Index]
    (numpy : Python.Numpy Value)
    (table : Python.RawTable Index Value)
    (stride : Nat) :
    Option (Python.TrainingWindows (FloatScore Value)) := do
  let df ← if table.yHorizon.isSome then some table else table.addHorizonLabels
  let windows := Python.windowsFromDataframe numpy df Python.WINDOW_N stride
  if windows.metaRows.length = 0 then none else some windows

/-- `meta["label"] == "nominal"`. -/
def nominalMask (metaRows : List Python.MetaRow) : List Bool :=
  metaRows.map fun row => row.label = some "nominal"

/-- All windows of a table and the mask of the nominal ones. -/
def selectWindows
    {Index : Type}
    [DecidableEq Index]
    (numpy : Python.Numpy Value)
    (stride : Option Nat)
    (source : String)
    (df : Python.RawTable Index Value) :
    Option (Python.TrainingWindows (FloatScore Value) × List Bool) := do
  let windows ← buildWindows numpy df (strideOf stride source)
  let mask := nominalMask windows.metaRows
  if mask.count true < 50 then none else some (windows, mask)

/-- `train` before the first model is fitted; `none` is `SystemExit`. -/
def trainingInput
    (numpy : Python.Numpy Value)
    (stride : Option Nat)
    (dataDir : String)
    (loaded : Option (List (LabelledRow Value) × Source)) :
    Option (Python.TrainingWindows (FloatScore Value) × List Bool) := do
  let (rows, source) ← loaded
  selectWindows numpy stride (source.text dataDir) (labelledTable rows)

variable [FloorRing Value]

/-- `add_horizon_labels(generate_scenario(group))`. -/
def labelledScenario
    (numpy : SignalNumpy Value)
    (noise : Noise Value)
    (startTsMs : Int)
    (group : List LinkSpec) : List (LabelledRow Value) :=
  let df := generateScenario numpy noise startTsMs group
  match (tableOf df).addHorizonLabels with
  | none =>
      -- Only an empty group is refused, and the loop skips these.
      []
  | some labelled =>
      (List.finRange df.length).map fun row =>
        { raw := df.get row
          hardFail := (labelled.hardFail.getD fun _ => false) row
          yHorizon := (labelled.yHorizon.getD fun _ => 0) row }

end Model

section Traces

variable [Field Value] [LinearOrder Value] [FloorRing Value]
variable {numpy : SignalNumpy Value} {noise : Noise Value}
variable {startTsMs : Int}

instance (spec : LinkSpec) (second : Nat) :
    Decidable (FailsAhead numpy noise startTsMs spec second) :=
  decidable_of_iff
    (∃ later ∈ List.range (second + 601),
      second < later ∧ later < spec.seconds ∧
        (linkRow numpy noise startTsMs spec later).failsHard)
    ⟨fun ⟨later, member, after, inside, fails⟩ =>
      ⟨later, after, by rw [List.mem_range] at member; omega, inside, fails⟩,
     fun ⟨later, after, within, inside, fails⟩ =>
      ⟨later, List.mem_range.mpr (by omega), after, inside, fails⟩⟩

/-- The row of one second with the labels that it ought to have. -/
def labelledRow
    (numpy : SignalNumpy Value)
    (noise : Noise Value)
    (startTsMs : Int)
    (spec : LinkSpec)
    (second : Nat) : LabelledRow Value where
  raw := linkRow numpy noise startTsMs spec second
  hardFail := (linkRow numpy noise startTsMs spec second).failsHard
  yHorizon :=
    if FailsAhead numpy noise startTsMs spec second then 1 else 0

/-- The trace of a link with the labels that it ought to have. -/
def labelledTrace
    (numpy : SignalNumpy Value)
    (noise : Noise Value)
    (startTsMs : Int)
    (spec : LinkSpec) : List (LabelledRow Value) :=
  (List.range spec.seconds).map (labelledRow numpy noise startTsMs spec)

variable {group : List LinkSpec}

theorem map_raw_labelledTrace (spec : LinkSpec) :
    (labelledTrace numpy noise startTsMs spec).map LabelledRow.raw =
      generateLink numpy noise startTsMs spec := by
  rw [labelledTrace, List.map_map]
  rfl

theorem map_raw_flatMap :
    (group.flatMap (labelledTrace numpy noise startTsMs)).map
        LabelledRow.raw =
      group.flatMap (generateLink numpy noise startTsMs) := by
  rw [List.map_flatMap]
  exact List.flatMap_congr fun spec _ => map_raw_labelledTrace spec

section Labelling

variable {df : List (RawRow Value)} {yHorizon : Fin df.length → Int}

/-- A row of the table with its labels. -/
def labelledAt
    (df : List (RawRow Value))
    (yHorizon : Fin df.length → Int)
    (row : Fin df.length) : LabelledRow Value where
  raw := df.get row
  hardFail := (df.get row).failsHard
  yHorizon := yHorizon row

theorem labelledAt_eq
    {spec : LinkSpec}
    {second : Nat}
    {row : Fin df.length}
    (isSecond : IsSecond numpy noise startTsMs spec df row second)
    (flags :
      Python.Flags (yHorizon row)
        (FailsAhead numpy noise startTsMs spec second)) :
    labelledAt df yHorizon row =
      labelledRow numpy noise startTsMs spec second := by
  obtain ⟨isFlag, isOne⟩ := flags
  have label :
      yHorizon row =
        if FailsAhead numpy noise startTsMs spec second then 1 else 0 := by
    split_ifs with fails
    · exact isOne.mpr fails
    · exact isFlag.resolve_right fun one => fails (isOne.mp one)
  simp only [labelledAt, labelledRow, isSecond.isRow, label]

/-- Labels that look ahead on every link make the labelled traces. -/
theorem labelled_perm
    (distinct : (group.map LinkSpec.key).Nodup)
    (perm : df.Perm (group.flatMap (generateLink numpy noise startTsMs)))
    (looksAhead : LooksAhead numpy noise startTsMs group df yHorizon) :
    ((List.finRange df.length).map (labelledAt df yHorizon)).Perm
      (group.flatMap (labelledTrace numpy noise startTsMs)) := by
  have nodup := nodup_of_perm distinct perm
  have tableNodup :
      ((List.finRange df.length).map (labelledAt df yHorizon)).Nodup := by
    refine List.Nodup.map (fun row other same => ?_) (List.nodup_finRange _)
    exact List.nodup_iff_injective_get.mp nodup (congrArg LabelledRow.raw same)
  have tracesNodup :
      (group.flatMap (labelledTrace numpy noise startTsMs)).Nodup := by
    refine List.Nodup.of_map LabelledRow.raw ?_
    rw [map_raw_flatMap]
    exact perm.nodup_iff.mp nodup
  rw [List.perm_ext_iff_of_nodup tableNodup tracesNodup]
  intro labelled
  rw [List.mem_map, List.mem_flatMap]
  constructor
  · rintro ⟨row, _, rfl⟩
    obtain ⟨spec, member, second, isSecond, flags⟩ := looksAhead row
    rw [labelledAt_eq isSecond flags]
    exact ⟨spec, member, List.mem_map.mpr
      ⟨second, List.mem_range.mpr isSecond.inside, rfl⟩⟩
  · rintro ⟨spec, member, inTrace⟩
    obtain ⟨second, inside, rfl⟩ := List.mem_map.mp inTrace
    obtain ⟨row, isSecond⟩ :=
      exists_row_of_second perm member (List.mem_range.mp inside)
    obtain ⟨found, isMember, another, isAnother, flags⟩ := looksAhead row
    -- The labels belong to the same second of the same link.
    obtain rfl := List.inj_on_of_nodup_map distinct isMember member
      (isAnother.key.symm.trans isSecond.key)
    have stamps := isAnother.tsUnixMs.symm.trans isSecond.tsUnixMs
    obtain rfl : another = second := by
      omega
    exact ⟨row, List.mem_finRange row, labelledAt_eq isAnother flags⟩

end Labelling

/-- The generator writes the traces of a bucket with their labels. -/
theorem labelledScenario_perm
    (distinct : (group.map LinkSpec.key).Nodup) :
    (labelledScenario numpy noise startTsMs group).Perm
      (group.flatMap (labelledTrace numpy noise startTsMs)) := by
  cases group with
  | nil =>
      exact List.Perm.nil
  | cons first rest =>
      have someRow :
          generateScenario numpy noise startTsMs (first :: rest) ≠ [] :=
        List.ne_nil_of_mem
          (linkRow_mem_generateScenario List.mem_cons_self
            (seconds_pos first))
      obtain ⟨yHorizon, labelled, looksAhead⟩ :=
        addHorizonLabels_tableOf distinct generateScenario_perm someRow
      simp only [labelledScenario, labelled, Option.getD_some]
      exact labelled_perm distinct generateScenario_perm looksAhead

end Traces

section Windows

/-! ## The windows of a table that holds the labelled traces -/

variable [Field Value] [LinearOrder Value]

/-- The five channels of a row. -/
def LabelledRow.seqRow
    (numpy : Python.Numpy Value)
    (row : LabelledRow Value) : Python.SeqRow (FloatScore Value) :=
  #v[.number row.raw.osnrDb, Python.log10BerCell numpy (.number row.raw.ber),
    .number row.raw.laserBiasMa, .number row.raw.edfaPumpMa,
    .number row.raw.rxPowerDbm]

/-- What `meta` says about a row. -/
def LabelledRow.metaRow (row : LabelledRow Value) : Python.MetaRow where
  linkId := row.raw.linkId
  channelId := row.raw.channelId
  tsUnixMs := row.raw.tsUnixMs
  label := some row.raw.label.text
  yHorizon := some row.yHorizon
  hardFail := some row.hardFail

variable [FloorRing Value]
variable {numpy : SignalNumpy Value} {noise : Noise Value}
variable {startTsMs : Int}
variable {specs : List LinkSpec} {rows : List (LabelledRow Value)}

theorem key_of_mem_labelledTrace
    (spec : LinkSpec)
    (row : LabelledRow Value)
    (member : row ∈ labelledTrace numpy noise startTsMs spec) :
    row.raw.key = spec.key := by
  obtain ⟨second, _, rfl⟩ := List.mem_map.mp member
  exact key_linkRow second

theorem label_of_mem_labelledTrace
    {spec : LinkSpec}
    {row : LabelledRow Value}
    (member : row ∈ labelledTrace numpy noise startTsMs spec) :
    row.raw.label = spec.label := by
  obtain ⟨second, _, rfl⟩ := List.mem_map.mp member
  rfl

theorem labelledTrace_increasing (spec : LinkSpec) :
    (labelledTrace numpy noise startTsMs spec).Pairwise
      fun first later => first.raw.tsUnixMs < later.raw.tsUnixMs := by
  have increasing :=
    @generateLink_increasing _ _ _ _ numpy noise startTsMs spec
  rw [← map_raw_labelledTrace, List.pairwise_map] at increasing
  exact increasing

/-- The rows that the trainer groups under a key, in order, are its trace. -/
theorem map_get_ordered_group
    (distinct : (specs.map LinkSpec.key).Nodup)
    (perm : rows.Perm
      (specs.flatMap (labelledTrace numpy noise startTsMs)))
    {spec : LinkSpec}
    (member : spec ∈ specs) :
    (ordered (labelledTable rows).tsUnixMs
        (group (labelledTable rows).groupKey (labelledTable rows).index
          spec.key)).map rows.get =
      labelledTrace numpy noise startTsMs spec := by
  have ofKey :
      (group (labelledTable rows).groupKey (labelledTable rows).index
          spec.key).map rows.get =
        rows.filter fun row => row.raw.key = spec.key := by
    conv_rhs => rw [← List.map_get_finRange rows]
    rw [List.filter_map]
    rfl
  have sameOrder :=
    map_ordered rows.get (fun row : LabelledRow Value => row.raw.tsUnixMs)
      (group (labelledTable rows).groupKey (labelledTable rows).index spec.key)
  rw [ofKey] at sameOrder
  refine sameOrder.trans (ordered_eq (labelledTrace_increasing spec) ?_)
  exact (perm.filter _).trans (List.Perm.of_eq
    (filter_flatMap_eq key_of_mem_labelledTrace distinct member))

/-- The groups come in the order of the specifications' keys. -/
theorem sortedKeys_labelledTable
    (distinct : (specs.map LinkSpec.key).Nodup)
    (perm : rows.Perm
      (specs.flatMap (labelledTrace numpy noise startTsMs))) :
    sortedKeys (labelledTable rows).groupKey (labelledTable rows).index =
      (ordered LinkSpec.key specs).map LinkSpec.key := by
  have specsPerm := List.perm_insertionSort
    (fun first later : LinkSpec => first.key ≤ later.key) specs
  have ascending :
      ((ordered LinkSpec.key specs).map LinkSpec.key).Pairwise (· < ·) := by
    have sorted :
        ((ordered LinkSpec.key specs).map LinkSpec.key).Pairwise (· ≤ ·) :=
      List.pairwise_map.mpr (List.pairwise_insertionSort _ _)
    exact (sorted.and ((specsPerm.map _).nodup_iff.mpr distinct)).imp
      fun both => both.1.lt_of_ne both.2
  refine sortedKeys_pairwise.sortedLT.eq_of_mem_iff ascending.sortedLT ?_
  intro value
  rw [mem_sortedKeys, List.mem_map]
  constructor
  · rintro ⟨row, _, rfl⟩
    obtain ⟨spec, member, inTrace⟩ :=
      List.mem_flatMap.mp (perm.mem_iff.mp (List.get_mem rows row))
    exact ⟨spec, specsPerm.mem_iff.mpr member,
      (key_of_mem_labelledTrace spec _ inTrace).symm⟩
  · rintro ⟨spec, member, rfl⟩
    have inTrace :
        labelledRow numpy noise startTsMs spec 0 ∈
          labelledTrace numpy noise startTsMs spec :=
      List.mem_map.mpr ⟨0, List.mem_range.mpr (seconds_pos spec), rfl⟩
    obtain ⟨row, isRow⟩ := List.get_of_mem (perm.mem_iff.mpr
      (List.mem_flatMap.mpr
        ⟨spec, specsPerm.mem_iff.mp member, inTrace⟩))
    refine ⟨row, List.mem_finRange row, ?_⟩
    exact (congrArg (fun labelled => labelled.raw.key) isRow).trans
      (key_of_mem_labelledTrace spec _ inTrace)

/-- The windows of one labelled trace. -/
def traceWindows
    (numpy : SignalNumpy Value)
    (noise : Noise Value)
    (startTsMs : Int)
    (windowN stride : Nat)
    (spec : LinkSpec) : List (List (LabelledRow Value)) :=
  stridedSlices windowN stride (labelledTrace numpy noise startTsMs spec)

/--
The windows of the table are those of the traces, link by link, and `meta`
describes the last second of each.
-/
theorem windowsFromDataframe_labelledTable
    (features : Python.Numpy Value)
    {windowN stride : Nat}
    (windowPos : 1 ≤ windowN)
    (stridePos : 1 ≤ stride)
    (distinct : (specs.map LinkSpec.key).Nodup)
    (perm : rows.Perm
      (specs.flatMap (labelledTrace numpy noise startTsMs))) :
    let result :=
      Python.windowsFromDataframe features (labelledTable rows) windowN stride
    let windows :=
      (ordered LinkSpec.key specs).flatMap
        (traceWindows numpy noise startTsMs windowN stride)
    result.xSeq.windows =
        windows.map (fun window =>
          window.map (LabelledRow.seqRow features)) ∧
      result.metaRows.map some =
        windows.map fun window => window.getLast?.map LabelledRow.metaRow := by
  intro result windows
  obtain ⟨isWindows, isMeta⟩ :=
    Python.windowsFromDataframe_rows features (labelledTable rows) windowPos
      stridePos
  have timelines :
      ((sortedKeys (labelledTable rows).groupKey
          (labelledTable rows).index).flatMap fun value =>
            stridedSlices windowN stride
              (ordered (labelledTable rows).tsUnixMs
                (group (labelledTable rows).groupKey
                  (labelledTable rows).index value))).map
          (fun window => window.map rows.get) =
        windows := by
    rw [sortedKeys_labelledTable distinct perm, List.flatMap_map,
      List.map_flatMap]
    refine List.flatMap_congr fun spec member => ?_
    have isMember : spec ∈ specs :=
      (List.perm_insertionSort _ specs).mem_iff.mp member
    rw [traceWindows, ← map_get_ordered_group distinct perm isMember,
      stridedSlices_map]
  constructor
  · rw [isWindows, ← timelines, List.map_map]
    refine List.map_congr_left fun window _ => ?_
    rw [Function.comp_apply, List.map_map]
    rfl
  · rw [isMeta, ← timelines, List.map_map]
    refine List.map_congr_left fun window _ => ?_
    rw [Function.comp_apply, List.getLast?_map, Option.map_map]
    rfl

end Windows

section Selection

/-! ## The nominal windows -/

section Lists

variable {Item Piece : Type}

theorem select_append
    {mask later : List Bool}
    {items rest : List Item}
    (sameLength : mask.length = items.length) :
    select (mask ++ later) (items ++ rest) =
      select mask items ++ select later rest := by
  rw [select, List.zip_append sameLength.symm, List.filter_append,
    List.map_append]
  rfl

theorem select_replicate (keep : Bool) (items : List Item) :
    select (List.replicate items.length keep) items =
      if keep then items else [] := by
  have zipped :
      items.zip (List.replicate items.length keep) =
        items.map fun item => (item, keep) := by
    induction items with
    | nil =>
        rfl
    | cons item rest inductionHypothesis =>
        rw [List.length_cons, List.replicate_succ, List.zip_cons_cons,
          inductionHypothesis, List.map_cons]
  rw [select, zipped, List.filter_map, List.map_map]
  cases keep <;> simp [Function.comp_def]

/-- A mask that is constant on each piece selects whole pieces. -/
theorem select_flatMap
    (keep : Item → Bool)
    (pieces : Item → List Piece)
    (items : List Item) :
    select
        (items.flatMap fun item =>
          List.replicate (pieces item).length (keep item))
        (items.flatMap pieces) =
      (items.filter keep).flatMap pieces := by
  induction items with
  | nil =>
      rfl
  | cons item rest inductionHypothesis =>
      rw [List.flatMap_cons, List.flatMap_cons,
        select_append (List.length_replicate ..), inductionHypothesis,
        select_replicate]
      cases keeps : keep item <;> simp [keeps]

theorem count_true_flatMap_replicate
    (keep : Item → Bool)
    (size : Item → Nat)
    (items : List Item) :
    (items.flatMap fun item =>
        List.replicate (size item) (keep item)).count true =
      ((items.filter keep).map size).sum := by
  induction items with
  | nil =>
      rfl
  | cons item rest inductionHypothesis =>
      rw [List.flatMap_cons, List.count_append, inductionHypothesis]
      cases keeps : keep item <;> simp [keeps, List.count_replicate]

end Lists

variable [Field Value] [LinearOrder Value] [FloorRing Value]
variable {numpy : SignalNumpy Value} {noise : Noise Value}
variable {startTsMs : Int}
variable {specs : List LinkSpec} {rows : List (LabelledRow Value)}

/-- Only a nominal link has the label of one. -/
theorem Label.text_eq_nominal_iff (label : Label) :
    label.text = "nominal" ↔ label = .nominal := by
  cases label <;> decide

/-- The mask is constant on the windows of a link. -/
theorem nominalMask_eq
    {windowN stride : Nat}
    (windowPos : 1 ≤ windowN)
    (stridePos : 1 ≤ stride)
    {metaRows : List Python.MetaRow}
    {specs : List LinkSpec}
    (isMeta :
      metaRows.map some =
        (specs.flatMap
          (traceWindows numpy noise startTsMs windowN stride)).map
          fun window => window.getLast?.map LabelledRow.metaRow) :
    nominalMask metaRows =
      specs.flatMap fun spec =>
        List.replicate
          (traceWindows numpy noise startTsMs windowN stride spec).length
          (decide (spec.label = .nominal)) := by
  let isNominal (row? : Option Python.MetaRow) : Bool :=
    row?.bind Python.MetaRow.label = some "nominal"
  have ofRows : nominalMask metaRows = (metaRows.map some).map isNominal := by
    rw [List.map_map]
    rfl
  rw [ofRows, isMeta, List.map_map, List.map_flatMap]
  refine List.flatMap_congr fun spec _ => ?_
  refine List.map_eq_replicate_iff.mpr fun window member => ?_
  obtain ⟨sameLength, inTrace⟩ := mem_of_mem_stridedSlices stridePos member
  have nonempty : window ≠ [] :=
    List.ne_nil_of_length_pos (by omega)
  have label :=
    label_of_mem_labelledTrace (inTrace _ (List.getLast_mem nonempty))
  simp only [Function.comp_apply, isNominal,
    List.getLast?_eq_some_getLast nonempty, Option.map_some, Option.bind_some,
    LabelledRow.metaRow, label, Option.some.injEq,
    Label.text_eq_nominal_iff]

/--
What `train` gets: the windows of all links with what `meta` says about the
last second of each, and, for the anomaly models, those of the nominal links.
-/
structure FitsOnNominal
    (features : Python.Numpy Value)
    (numpy : SignalNumpy Value)
    (noise : Noise Value)
    (startTsMs : Int)
    (stride : Nat)
    (specs : List LinkSpec)
    (windows : Python.TrainingWindows (FloatScore Value))
    (mask : List Bool) : Prop where
  views :
    windows.xSeq.windows =
      ((ordered LinkSpec.key specs).flatMap
        (traceWindows numpy noise startTsMs Python.WINDOW_N stride)).map
        fun window => window.map (LabelledRow.seqRow features)
  /-- The label is that of the link, and `y_horizon` looks ahead on it. -/
  metaRows :
    windows.metaRows.map some =
      ((ordered LinkSpec.key specs).flatMap
        (traceWindows numpy noise startTsMs Python.WINDOW_N stride)).map
        fun window => window.getLast?.map LabelledRow.metaRow
  selected :
    select mask windows.xSeq.windows =
      (((ordered LinkSpec.key specs).filter fun spec =>
        spec.label = .nominal).flatMap
          (traceWindows numpy noise startTsMs Python.WINDOW_N stride)).map
        fun window => window.map (LabelledRow.seqRow features)
  stats :
    windows.xStats =
      Python.statsFromSequences (FloatScore.map features.sqrt) windows.xSeq
  lengths : mask.length = windows.xSeq.windows.length

/-- How many nominal windows the traces have. -/
def nominalCount (stride : Nat) (specs : List LinkSpec) : Nat :=
  ((specs.filter fun spec => spec.label = .nominal).map fun spec =>
    windowCount Python.WINDOW_N stride spec.seconds).sum

theorem count_nominalMask
    {stride : Nat}
    (stridePos : 1 ≤ stride)
    {metaRows : List Python.MetaRow}
    (isMeta :
      metaRows.map some =
        ((ordered LinkSpec.key specs).flatMap
          (traceWindows numpy noise startTsMs Python.WINDOW_N stride)).map
          fun window => window.getLast?.map LabelledRow.metaRow) :
    (nominalMask metaRows).count true = nominalCount stride specs := by
  have sizes (spec : LinkSpec) :
      (traceWindows numpy noise startTsMs Python.WINDOW_N stride
        spec).length =
          windowCount Python.WINDOW_N stride spec.seconds := by
    rw [traceWindows, length_stridedSlices, labelledTrace, List.length_map,
      List.length_range]
  rw [nominalMask_eq (by decide) stridePos isMeta]
  simp only [sizes]
  rw [count_true_flatMap_replicate]
  have sameSpecs :=
    List.perm_insertionSort
      (fun first later : LinkSpec => first.key ≤ later.key) specs
  exact ((sameSpecs.filter _).map _).sum_eq

/-- The trainer goes on when there are fifty nominal windows. -/
theorem trainingInput_of_perm
    (features : Python.Numpy Value)
    {stride? : Option Nat}
    {dataDir : String}
    {source : Source}
    {stride : Nat}
    (isStride : strideOf stride? (source.text dataDir) = stride)
    (stridePos : 1 ≤ stride)
    (distinct : (specs.map LinkSpec.key).Nodup)
    (perm : rows.Perm
      (specs.flatMap (labelledTrace numpy noise startTsMs))) :
    (nominalCount stride specs < 50 ∧
        trainingInput features stride? dataDir (some (rows, source)) = none) ∨
      50 ≤ nominalCount stride specs ∧
        ∃ windows mask,
          trainingInput features stride? dataDir (some (rows, source)) =
              some (windows, mask) ∧
            mask.count true = nominalCount stride specs ∧
            FitsOnNominal features numpy noise startTsMs stride specs
              windows mask := by
  have windowPos : 1 ≤ Python.WINDOW_N := by
    decide
  obtain ⟨isWindows, isMeta⟩ :=
    windowsFromDataframe_labelledTable features windowPos stridePos distinct
      perm
  obtain ⟨_, _, _, isStats⟩ :=
    Python.windowsFromDataframe_spec features (labelledTable rows)
      Python.WINDOW_N stride
  have count := count_nominalMask stridePos isMeta
  have isMask := nominalMask_eq windowPos stridePos isMeta
  have unfolded :
      trainingInput features stride? dataDir (some (rows, source)) =
        (buildWindows features (labelledTable rows) stride).bind
          fun windows =>
            if (nominalMask windows.metaRows).count true < 50 then none
            else some (windows, nominalMask windows.metaRows) := by
    rw [← isStride]
    rfl
  have built :
      buildWindows features (labelledTable rows) stride =
        if (Python.windowsFromDataframe features (labelledTable rows)
            Python.WINDOW_N stride).metaRows.length = 0 then none
        else some (Python.windowsFromDataframe features (labelledTable rows)
          Python.WINDOW_N stride) :=
    rfl
  rw [unfolded, built]
  generalize Python.windowsFromDataframe features (labelledTable rows)
    Python.WINDOW_N stride = windows at *
  by_cases few : nominalCount stride specs < 50
  · refine Or.inl ⟨few, ?_⟩
    split_ifs
    · rfl
    · exact if_pos (count.symm ▸ few)
  · refine Or.inr ⟨by omega, windows, nominalMask windows.metaRows, ?_, count,
      ?_⟩
    · have atMost := List.count_le_length (a := true)
        (l := nominalMask windows.metaRows)
      rw [count, nominalMask, List.length_map] at atMost
      rw [if_neg (by omega), Option.bind_some, if_neg (count.symm ▸ few)]
    · exact {
        views := isWindows
        metaRows := isMeta
        selected := by
          rw [isWindows, isMask, List.map_flatMap, List.map_flatMap,
            ← select_flatMap]
          simp only [List.length_map]
        stats := isStats
        lengths := by
          have sameLength := congrArg List.length isMeta
          rw [List.length_map, List.length_map] at sameLength
          rw [nominalMask, List.length_map, sameLength, isWindows,
            List.length_map] }

end Selection

section Schedule

/-! ## The links of the schedule -/

/-- What the schedule says about the rows of a link, their values apart. -/
structure Scheduled where
  key : String ×ₗ String
  label : Label
  durationS : Int
  deriving DecidableEq

def LinkSpec.scheduled (spec : LinkSpec) : Scheduled :=
  ⟨spec.key, spec.label, spec.durationS⟩

theorem LinkSpec.scheduled_of_new?
    {linkId : String}
    {label : Label}
    {durationS : Int}
    {seed : Nat}
    {onsetS tauS severity : Rat}
    {constants : NominalConstants}
    {spec : LinkSpec}
    (made :
      LinkSpec.new? linkId label durationS seed onsetS tauS severity
          constants =
        some spec) :
    spec.scheduled = ⟨toLex (linkId, "C1"), label, durationS⟩ := by
  rw [new?] at made
  split at made
  · obtain rfl := Option.some.inj made
    rfl
  · cases made

/-- The links of the schedule, of which only the nominal ones last for hours. -/
def schedule (nominal : Int) : List Scheduled :=
  ((List.range' 1 8).map fun i =>
    ⟨toLex (s!"NOM{i}", "C1"), .nominal, nominal⟩) ++
    (prefixes.zipIdx.map fun entry =>
      (taus.zipIdx 1).map fun tau =>
        ⟨toLex (s!"{entry.1.2}{tau.2}", "C1"), entry.1.1, 2 * 3600⟩).flatten ++
    (List.range' 1 2).map fun j =>
      ⟨toLex (s!"LOS{j}", "C1"), .los, 2 * 3600⟩

variable {hours : Rat} {specs : List LinkSpec}

theorem map_scheduled_trainingSpecs
    (specified : trainingSpecs hours = some specs) :
    specs.map LinkSpec.scheduled = schedule (nominalS hours) := by
  obtain ⟨nominal, isNominal, specified⟩ :=
    Option.bind_eq_some_iff.mp specified
  obtain ⟨soft, isSoft, specified⟩ := Option.bind_eq_some_iff.mp specified
  obtain ⟨los, isLos, specified⟩ := Option.bind_eq_some_iff.mp specified
  obtain rfl := Option.some.inj specified
  have nominalLinks := map_eq_of_mapM_eq_some
    (fun i spec made => LinkSpec.scheduled_of_new? made) isNominal
  have softLinks := map_eq_of_mapM_eq_some
    (fun entry links made => map_eq_of_mapM_eq_some
      (fun tau spec made => LinkSpec.scheduled_of_new? made) made) isSoft
  have losLinks := map_eq_of_mapM_eq_some
    (fun j spec made => LinkSpec.scheduled_of_new? made) isLos
  rw [List.map_append, List.map_append, List.map_flatten, nominalLinks,
    softLinks, losLinks]
  rfl

/-- The keys of the schedule do not depend on its hours. -/
theorem map_key_schedule (nominal : Int) :
    (schedule nominal).map Scheduled.key =
      (schedule 0).map Scheduled.key :=
  rfl

theorem keys_nodup_of_trainingSpecs
    (specified : trainingSpecs hours = some specs) :
    (specs.map LinkSpec.key).Nodup := by
  have keys :
      specs.map LinkSpec.key =
        (specs.map LinkSpec.scheduled).map Scheduled.key := by
    rw [List.map_map]
    rfl
  rw [keys, map_scheduled_trainingSpecs specified, map_key_schedule]
  decide +kernel

/-- Eight links are nominal. -/
theorem nominalCount_of_trainingSpecs
    (specified : trainingSpecs hours = some specs)
    (stride : Nat) :
    nominalCount stride specs =
      8 * windowCount Python.WINDOW_N stride (nominalS hours).toNat := by
  have ofSchedule :
      nominalCount stride specs =
        (((specs.map LinkSpec.scheduled).filter fun link =>
          link.label = .nominal).map fun link =>
            windowCount Python.WINDOW_N stride link.durationS.toNat).sum := by
    rw [List.filter_map, List.map_map]
    rfl
  rw [ofSchedule, map_scheduled_trainingSpecs specified]
  generalize nominalS hours = nominal
  have nominalLinks :
      ((schedule nominal).filter fun link => link.label = .nominal).map
          Scheduled.durationS =
        List.replicate 8 nominal :=
    rfl
  calc
    _ = ((((schedule nominal).filter fun link =>
          link.label = .nominal).map Scheduled.durationS).map fun durationS =>
            windowCount Python.WINDOW_N stride durationS.toNat).sum := by
      rw [List.map_map]
      rfl
    _ = 8 * windowCount Python.WINDOW_N stride nominal.toNat := by
      rw [nominalLinks, List.map_replicate, List.sum_replicate, smul_eq_mul]

end Schedule

section Training

/-- A run that writes parquet is loaded with the traces of all its links. -/
theorem loadCorpus_after_parquet
    {Row : Type}
    {table : List LinkSpec → List Row}
    {sample : List Row}
    (readCsv : List Row → List Row)
    (inSampleDir : Bool)
    (start : Disk Row)
    (earlier : List GenerateRun)
    {last : GenerateRun}
    (asParquet : ∀ stem, last.write stem = .parquet)
    {specs : List LinkSpec}
    (specified : trainingSpecs last.hours = some specs) :
    ∃ rows,
      loadCorpus readCsv inSampleDir
          ((earlier ++ [last]).foldl (generate table sample) start) =
          some (rows, .dataDir) ∧
        rows.Perm (rowsOf table specs stems) := by
  obtain ⟨dir, isDir, _, written⟩ :=
    @exists_written _ table sample last specs specified start earlier
  have present : dir.parquet .nominal ≠ none := by
    rw [written.parquet .nominal (asParquet _)]
    exact Option.some_ne_none _
  have disk :
      (earlier ++ [last]).foldl (generate table sample) start =
        ⟨some dir,
          ((earlier ++ [last]).foldl (generate table sample)
            start).sampleCsv⟩ := by
    rw [← isDir]
  have noneFellBack : fellBack last = [] := by
    simp [fellBack, asParquet]
  refine ⟨(parquetFrames dir).flatten, ?_, ?_⟩
  · rw [disk]
    exact loadCorpus_of_parquet present _
  · rw [flatten_parquetFrames_perm_iff written, noneFellBack]
    exact List.Perm.nil

variable [Field Value] [LinearOrder Value] [FloorRing Value]
variable {numpy : SignalNumpy Value} {noise : Noise Value}
variable {startTsMs : Int}

/-- Every link is in one bucket. -/
theorem flatMap_bucket_perm (specs : List LinkSpec) :
    (stems.flatMap (bucket specs)).Perm specs := by
  induction specs with
  | nil =>
      exact List.Perm.nil
  | cons spec rest inductionHypothesis =>
      simp only [stems, bucket, List.flatMap_cons, List.flatMap_nil,
        List.append_nil] at inductionHypothesis ⊢
      have first := inductionHypothesis.cons spec
      cases isStem : spec.stem with
      | nominal =>
          simpa [isStem] using first
      | softFail =>
          simp only [isStem, reduceCtorEq, decide_false, decide_true,
            List.filter_cons_of_neg, List.filter_cons_of_pos,
            Bool.false_eq_true, not_false_eq_true, List.cons_append]
          exact List.perm_middle.trans first
      | los =>
          simp only [isStem, reduceCtorEq, decide_false, decide_true,
            List.filter_cons_of_neg, List.filter_cons_of_pos,
            Bool.false_eq_true, not_false_eq_true]
          rw [← List.append_assoc] at first ⊢
          exact List.perm_middle.trans first

/-- The tables of a schedule hold the labelled traces of all its links. -/
theorem rowsOf_labelledScenario_perm
    {specs : List LinkSpec}
    (distinct : (specs.map LinkSpec.key).Nodup) :
    (rowsOf (labelledScenario numpy noise startTsMs) specs stems).Perm
      (specs.flatMap (labelledTrace numpy noise startTsMs)) := by
  have tables :
      (rowsOf (labelledScenario numpy noise startTsMs) specs stems).Perm
        (stems.flatMap fun stem =>
          (bucket specs stem).flatMap
            (labelledTrace numpy noise startTsMs)) :=
    List.Perm.flatMap_left _ fun stem _ =>
      labelledScenario_perm
        (distinct.sublist (List.filter_sublist.map LinkSpec.key))
  refine tables.trans ?_
  rw [← List.flatMap_assoc]
  exact (flatMap_bucket_perm specs).flatMap_right _

/--
A run that writes parquet makes the trainer fit on the windows of the nominal
links, or stop, by the hours it was given, whatever lay in the directory before.
-/
theorem training_after_generate
    (features : Python.Numpy Value)
    (numpy : SignalNumpy Value)
    (noise : Noise Value)
    (startTsMs : Int)
    (sample : List (LabelledRow Value))
    (readCsv : List (LabelledRow Value) → List (LabelledRow Value))
    (inSampleDir : Bool)
    {dataDir : String}
    (notCsv : dataDir.endsWith ".csv" = false)
    (start : Disk (LabelledRow Value))
    (earlier : List GenerateRun)
    {last : GenerateRun}
    (asParquet : ∀ stem, last.write stem = .parquet)
    {specs : List LinkSpec}
    (specified : trainingSpecs last.hours = some specs)
    {seconds : Nat}
    (areSeconds : (nominalS last.hours).toNat = seconds)
    {input : Option (Python.TrainingWindows (FloatScore Value) × List Bool)}
    (isInput :
      trainingInput features none dataDir
        (loadCorpus readCsv inSampleDir
          ((earlier ++ [last]).foldl
            (generate (labelledScenario numpy noise startTsMs) sample)
            start)) = input) :
    (seconds < 120 ∧ input = none) ∨
      120 ≤ seconds ∧
        ∃ windows mask,
          input = some (windows, mask) ∧
            mask.count true = 8 * ((seconds - 60) / 10 + 1) ∧
            FitsOnNominal features numpy noise startTsMs 10 specs windows
              mask := by
  have distinct := keys_nodup_of_trainingSpecs specified
  obtain ⟨rows, loaded, perm⟩ :=
    @loadCorpus_after_parquet _ (labelledScenario numpy noise startTsMs)
      sample readCsv inSampleDir start earlier last asParquet specs specified
  have isStride : strideOf none (Source.text dataDir .dataDir) = 10 := by
    rw [strideOf, Option.getD_none, Source.text, notCsv]
    rfl
  have count := nominalCount_of_trainingSpecs specified 10
  rw [areSeconds, windowCount, Python.WINDOW_N] at count
  rw [← isInput, loaded]
  rcases trainingInput_of_perm features isStride (by decide) distinct
      (perm.trans (rowsOf_labelledScenario_perm distinct)) with
    ⟨few, stops⟩ | ⟨enough, windows, mask, goesOn, counted, fits⟩
  · refine Or.inl ⟨?_, stops⟩
    rw [count] at few
    split at few <;> omega
  · rw [count] at enough counted
    split at enough
    · omega
    · refine Or.inr ⟨by omega, windows, mask, goesOn, ?_, fits⟩
      rw [counted, if_neg (by omega)]

/-- The logarithm and the root that numpy approximates. -/
noncomputable def realFeatures : Python.Numpy ℝ where
  log10 value := Real.log value / Real.log (10 : Nat)
  sqrt := Real.sqrt

/-- Four hours give more than ten thousand nominal windows. -/
theorem training_after_generate_four_hours :
    ∃ specs windows mask,
      trainingSpecs parquetRun.hours = some specs ∧
        trainingInput realFeatures none "data/synthetic"
            (loadCorpus id false
              (([mixedRun] ++ [parquetRun]).foldl
                (generate
                  (labelledScenario realSignalNumpy (fun _ _ _ _ _ => 0)
                    1710000000000) [])
                ⟨none, none⟩)) =
          some (windows, mask) ∧
        mask.count true = 11480 ∧
        FitsOnNominal realFeatures realSignalNumpy (fun _ _ _ _ _ => 0)
          1710000000000 10 specs windows mask := by
  obtain ⟨specs, specified⟩ :
      ∃ specs, trainingSpecs parquetRun.hours = some specs :=
    exists_trainingSpecs
  have seconds : (nominalS parquetRun.hours).toNat = 14400 := by
    decide +kernel
  rcases training_after_generate realFeatures realSignalNumpy
      (fun _ _ _ _ _ => 0) 1710000000000 [] id false
      (by decide +kernel : "data/synthetic".endsWith ".csv" = false)
      ⟨none, none⟩ [mixedRun] (fun _ => rfl) specified seconds rfl with
    ⟨few, _⟩ | ⟨_, windows, mask, goesOn, counted, fits⟩
  · omega
  · exact ⟨specs, windows, mask, specified, goesOn, counted, fits⟩

end Training

end Corpus

end OpticsSoftfail
