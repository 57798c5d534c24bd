import OpticsSoftfail.HorizonLabels
import OpticsSoftfail.SequenceStats

namespace OpticsSoftfail

/-!
# Training windows

A raw table is sliced into windows, key after key, together with a table of what
is known about each window.  The two are cut out by different index
computations, strided views of the rows and a strided tail of them, and the
result says that both speak of the same rows.  No label of the index is read on
the way: here the index only names the rows.
-/

namespace Python

open RowGroups

variable {Index Value : Type}

/-- One row of `meta`; a column the table does not have is `none`. -/
structure MetaRow where
  linkId : String
  channelId : String
  tsUnixMs : Int
  label : Option String
  yHorizon : Option Int
  hardFail : Option Bool
  deriving Repr, DecidableEq

/-- What the rows of one key contribute to the result. -/
structure WindowBlock (Entry : Type) (windowN : Nat) where
  views : List (List (SeqRow Entry))
  metaRows : List MetaRow
  shape : ∀ view ∈ views, view.length = windowN

/-- The three values `windows_from_dataframe` returns. -/
structure TrainingWindows (Entry : Type) where
  xStats : List (List Entry)
  xSeq : SeqBatch Entry
  metaRows : List MetaRow

section Model

/-- `"C1"` for a table without the column. -/
def RawTable.channelOrDefault
    (table : RawTable Index Value) : Index → String :=
  table.channelId.getD fun _ => "C1"

/-- The columns `groupby` is given. -/
def RawTable.groupKey
    (table : RawTable Index Value) : Index → String ×ₗ String :=
  table.key table.channelOrDefault

/-- The row of `cols`. -/
def RawTable.metaRow
    (table : RawTable Index Value)
    (row : Index) : MetaRow where
  linkId := table.linkId row
  channelId := table.channelOrDefault row
  tsUnixMs := table.tsUnixMs row
  label := table.label.map fun column => column row
  yHorizon := table.yHorizon.map fun column => column row
  hardFail := table.hardFail.map fun column => column row

/-- `fillna`. -/
def fillna (filler : Value) : FloatScore Value → FloatScore Value
  | .number value => .number value
  | .nan => .number filler

/-- A column with its default, for the whole column and for its gaps. -/
def filledColumn
    (filler : Value)
    (column : Option (Index → FloatScore Value))
    (row : Index) : FloatScore Value :=
  fillna filler ((column.getD fun _ => .number filler) row)

variable [Field Value] [LinearOrder Value]

/-- `log10_ber` on one cell; `np.maximum` passes NaN on. -/
def log10BerCell
    (numpy : Numpy Value)
    (ber : FloatScore Value) : FloatScore Value :=
  (FloatScore.combine max ber (.number BER_FLOOR)).map numpy.log10

/-- A row over the five channels of the working copy. -/
def RawTable.seqRow
    (numpy : Numpy Value)
    (table : RawTable Index Value)
    (row : Index) : SeqRow (FloatScore Value) :=
  #v[table.osnrDb row, log10BerCell numpy (table.ber row),
    table.laserBiasMa row, filledColumn EDFA_PUMP_DEFAULT table.edfaPumpMa row,
    filledColumn RX_POWER_DEFAULT table.rxPowerDbm row]

/-- The body of the loop over the groups, `none` for a skipped one. -/
def RawTable.windowBlock?
    (numpy : Numpy Value)
    (table : RawTable Index Value)
    (windowN stride : Nat)
    (value : String ×ₗ String) :
    Option (WindowBlock (FloatScore Value) windowN) :=
  let sorted :=
    ordered table.tsUnixMs (group table.groupKey table.index value)
  if sorted.length < windowN then none
  else
    let mat := sorted.map (table.seqRow numpy)
    let tail := everyNth stride (sorted.drop (windowN - 1))
    some {
      views := everyNth stride (slices windowN mat)
      metaRows := tail.map table.metaRow
      shape := fun _ member =>
        (mem_of_mem_slices (mem_of_mem_everyNth member)).1 }

/-- `windows_from_dataframe`. -/
def windowsFromDataframe
    (numpy : Numpy Value)
    (table : RawTable Index Value)
    (windowN : Nat := WINDOW_N)
    (stride : Nat := 1) : TrainingWindows (FloatScore Value) :=
  let blocks :=
    (sortedKeys table.groupKey table.index).filterMap
      (table.windowBlock? numpy windowN stride)
  if blocks.isEmpty then {
    xStats := []
    xSeq := {
      windowN
      windows := []
      shape := by simp }
    metaRows := [] }
  else
    let xSeq : SeqBatch (FloatScore Value) := {
      windowN
      windows := blocks.flatMap fun block => block.views
      shape := by
        intro window member
        obtain ⟨block, _, inBlock⟩ := List.mem_flatMap.mp member
        exact block.shape window inBlock }
    {
      xStats := statsFromSequences (FloatScore.map numpy.sqrt) xSeq
      xSeq
      metaRows := blocks.flatMap fun block => block.metaRows }

end Model

section Alignment

theorem flatMap_filterMap_eq
    {Item Block Piece : Type}
    {block? : Item → Option Block}
    {pieces : Block → List Piece}
    {expected : Item → List Piece}
    (skipped : ∀ item, block? item = none → expected item = [])
    (kept : ∀ item block, block? item = some block →
      pieces block = expected item)
    (items : List Item) :
    (items.filterMap block?).flatMap pieces = items.flatMap expected := by
  induction items with
  | nil =>
      rfl
  | cons item rest inductionHypothesis =>
      cases isBlock : block? item with
      | none =>
          rw [List.filterMap_cons_none isBlock, List.flatMap_cons,
            skipped item isBlock, inductionHypothesis, List.nil_append]
      | some block =>
          rw [List.filterMap_cons_some isBlock, List.flatMap_cons,
            List.flatMap_cons, kept item block isBlock, inductionHypothesis]

/-! ## What a window and its metadata show of the table -/

/-- The channel of a row; without the column it is `C1`. -/
def RawTable.ChannelIs
    (table : RawTable Index Value)
    (row : Index)
    (channelId : String) : Prop :=
  match table.channelId with
  | none => channelId = "C1"
  | some column => channelId = column row

/-- The cell of a row of an optional column, the default for a gap. -/
def RawTable.CellIs
    (column : Option (Index → FloatScore Value))
    (default : Value)
    (row : Index)
    (cell : FloatScore Value) : Prop :=
  match column with
  | none => cell = .number default
  | some values =>
      match values row with
      | .nan => cell = .number default
      | .number value => cell = .number value

/-- The row of `meta` has the six values of the row of the table. -/
structure RawTable.DescribedBy
    (table : RawTable Index Value)
    (row : Index)
    (described : MetaRow) : Prop where
  linkId : described.linkId = table.linkId row
  channelId : table.ChannelIs row described.channelId
  tsUnixMs : described.tsUnixMs = table.tsUnixMs row
  label :
    ∀ text, described.label = some text ↔
      ∃ column, table.label = some column ∧ text = column row
  hardFail :
    ∀ flag, described.hardFail = some flag ↔
      ∃ column, table.hardFail = some column ∧ flag = column row
  yHorizon :
    ∀ future, described.yHorizon = some future ↔
      ∃ column, table.yHorizon = some column ∧ future = column row

/-- The key of a row: its link and its channel. -/
def RawTable.KeyIs
    (table : RawTable Index Value)
    (row : Index)
    (value : String ×ₗ String) : Prop :=
  (ofLex value).1 = table.linkId row ∧ table.ChannelIs row (ofLex value).2

/-- No two rows of a key have the same timestamp. -/
def RawTable.StampsDistinct (table : RawTable Index Value) : Prop :=
  ∀ row ∈ table.index, ∀ other ∈ table.index, ∀ value,
    table.KeyIs row value → table.KeyIs other value →
      table.tsUnixMs row = table.tsUnixMs other → row = other

variable {table : RawTable Index Value}

theorem RawTable.channelIs_iff {row : Index} {channelId : String} :
    table.ChannelIs row channelId ↔
      channelId = table.channelOrDefault row := by
  rw [ChannelIs, channelOrDefault]
  cases table.channelId <;> rfl

theorem RawTable.keyIs_iff {row : Index} {value : String ×ₗ String} :
    table.KeyIs row value ↔ table.groupKey row = value := by
  rw [KeyIs, channelIs_iff, groupKey, key, ← toLex_ofLex value,
    toLex_inj, Prod.ext_iff, ofLex_toLex]
  exact and_congr eq_comm eq_comm

theorem RawTable.stampsDistinct_iff :
    table.StampsDistinct ↔
      DistinctStamps table.groupKey table.tsUnixMs table.index := by
  simp only [StampsDistinct, keyIs_iff, DistinctStamps]
  constructor
  · intro distinct row isRow other isOther sameKey
    exact distinct row isRow other isOther _ rfl sameKey.symm
  · rintro distinct row isRow other isOther value rfl sameKey
    exact distinct row isRow other isOther sameKey.symm

theorem RawTable.cellIs_filledColumn
    (default : Value)
    (column : Option (Index → FloatScore Value))
    (row : Index) :
    RawTable.CellIs column default row (filledColumn default column row) := by
  cases column with
  | none =>
      rfl
  | some values =>
      rw [CellIs, filledColumn, Option.getD_some]
      cases values row <;> rfl

theorem RawTable.describedBy_metaRow (row : Index) :
    table.DescribedBy row (table.metaRow row) where
  linkId := rfl
  channelId := RawTable.channelIs_iff.mpr rfl
  tsUnixMs := rfl
  label := by simp [metaRow, eq_comm]
  hardFail := by simp [metaRow, eq_comm]
  yHorizon := by simp [metaRow, eq_comm]

variable [Field Value] [LinearOrder Value]

/-- The cells are those of the row in the five channels. -/
structure RawTable.ShownBy
    (numpy : Numpy Value)
    (table : RawTable Index Value)
    (row : Index)
    (cells : SeqRow (FloatScore Value)) : Prop where
  osnrDb : cells[0] = table.osnrDb row
  /-- The logarithm is of at least `1e-15`. -/
  log10Ber :
    match table.ber row with
    | .nan => cells[1] = .nan
    | .number ber =>
        cells[1] = .number (numpy.log10 (max ber (1 / 10 ^ 15)))
  laserBiasMa : cells[2] = table.laserBiasMa row
  edfaPumpMa : RawTable.CellIs table.edfaPumpMa 0 row cells[3]
  rxPowerDbm : RawTable.CellIs table.rxPowerDbm (-99) row cells[4]

/--
Every key with its windows: each window shows the rows of the key's timeline
from a multiple of the stride on, and the row of `meta` at the same place
describes the last of them.
-/
structure WindowsAligned
    (numpy : Numpy Value)
    (table : RawTable Index Value)
    (windowN stride : Nat)
    (keys : List (String ×ₗ String))
    (timeline : String ×ₗ String → List Index)
    (result : TrainingWindows (FloatScore Value)) : Prop where
  keysAscending : keys.Pairwise (· < ·)
  mem_keys : ∀ value,
    value ∈ keys ↔ ∃ row ∈ table.index, table.KeyIs row value
  increasing : ∀ value,
    (timeline value).Pairwise fun first later =>
      table.tsUnixMs first < table.tsUnixMs later
  mem_timeline : ∀ value row,
    row ∈ timeline value ↔ row ∈ table.index ∧ table.KeyIs row value
  windows :
    List.Forall₂ (List.Forall₂ (table.ShownBy numpy))
      (keys.flatMap fun value =>
        stridedSlices windowN stride (timeline value))
      result.xSeq.windows
  metaRows :
    List.Forall₂
      (fun rows described =>
        ∃ row, rows.getLast? = some row ∧ table.DescribedBy row described)
      (keys.flatMap fun value =>
        stridedSlices windowN stride (timeline value))
      result.metaRows
  windowN_eq : result.xSeq.windowN = windowN
  xStats :
    result.xStats = statsFromSequences (FloatScore.map numpy.sqrt) result.xSeq

variable {numpy : Numpy Value} {windowN stride : Nat}

theorem RawTable.shownBy_seqRow (row : Index) :
    table.ShownBy numpy row (table.seqRow numpy row) where
  osnrDb := rfl
  log10Ber := by
    split
    · next isNan =>
        simp [seqRow, log10BerCell, isNan, FloatScore.combine,
          FloatScore.map]
    · next ber isNumber =>
        simp [seqRow, log10BerCell, isNumber, FloatScore.combine,
          FloatScore.map, BER_FLOOR]
  laserBiasMa := rfl
  edfaPumpMa := RawTable.cellIs_filledColumn EDFA_PUMP_DEFAULT _ row
  rxPowerDbm := by
    have isDefault : (RX_POWER_DEFAULT : Value) = -99 := by
      simp [RX_POWER_DEFAULT]
    rw [← isDefault]
    exact RawTable.cellIs_filledColumn RX_POWER_DEFAULT _ row

/-- A skipped group has no windows. -/
theorem RawTable.windowBlock?_none
    {value : String ×ₗ String}
    (isNone : table.windowBlock? numpy windowN stride value = none) :
    stridedSlices windowN stride
      (ordered table.tsUnixMs (group table.groupKey table.index value)) =
        [] := by
  simp only [windowBlock?] at isNone
  split at isNone
  · next short =>
      exact stridedSlices_of_short stride short
  · cases isNone

/-- Views and tail of a group are cut at the same rows. -/
theorem RawTable.windowBlock?_some
    (windowPos : 1 ≤ windowN)
    (stridePos : 1 ≤ stride)
    {value : String ×ₗ String}
    {block : WindowBlock (FloatScore Value) windowN}
    (isBlock : table.windowBlock? numpy windowN stride value = some block) :
    let windows := stridedSlices windowN stride
      (ordered table.tsUnixMs (group table.groupKey table.index value))
    block.views = windows.map (fun rows => rows.map (table.seqRow numpy)) ∧
      block.metaRows.map some =
        windows.map fun rows => rows.getLast?.map table.metaRow := by
  simp only [windowBlock?] at isBlock
  split at isBlock
  · cases isBlock
  · obtain rfl := Option.some.inj isBlock
    constructor
    · exact (everyNth_slices windowPos stridePos _).trans
        (stridedSlices_map (table.seqRow numpy) windowN stride _)
    · have sameRows := congrArg (List.map (Option.map table.metaRow))
        (everyNth_drop windowPos stridePos
          (ordered table.tsUnixMs (group table.groupKey table.index value)))
      rw [List.map_map, List.map_map] at sameRows
      rw [List.map_map]
      exact sameRows

/-- Without blocks the three values are as if concatenated. -/
theorem windowsFromDataframe_spec
    (numpy : Numpy Value)
    (table : RawTable Index Value)
    (windowN stride : Nat) :
    let blocks :=
      (sortedKeys table.groupKey table.index).filterMap
        (table.windowBlock? numpy windowN stride)
    let result := windowsFromDataframe numpy table windowN stride
    result.xSeq.windowN = windowN ∧
      result.xSeq.windows = blocks.flatMap (fun block => block.views) ∧
      result.metaRows = blocks.flatMap (fun block => block.metaRows) ∧
      result.xStats =
        statsFromSequences (FloatScore.map numpy.sqrt) result.xSeq := by
  intro blocks result
  by_cases isEmpty : blocks.isEmpty
  · have noBlocks : blocks = [] := List.isEmpty_iff.mp isEmpty
    have isResult : result = _ := if_pos isEmpty
    rw [isResult, noBlocks]
    refine ⟨rfl, rfl, rfl, ?_⟩
    rw [statsFromSequences, if_pos (by simp [SeqBatch.size])]
  · have isResult : result = _ := if_neg isEmpty
    rw [isResult]
    exact ⟨rfl, rfl, rfl, rfl⟩

/-- The rows of the windows, and the row that describes each of them. -/
theorem windowsFromDataframe_rows
    (numpy : Numpy Value)
    (table : RawTable Index Value)
    (windowPos : 1 ≤ windowN)
    (stridePos : 1 ≤ stride) :
    let result := windowsFromDataframe numpy table windowN stride
    let windows :=
      (sortedKeys table.groupKey table.index).flatMap fun value =>
        stridedSlices windowN stride
          (ordered table.tsUnixMs (group table.groupKey table.index value))
    result.xSeq.windows =
        windows.map (fun rows => rows.map (table.seqRow numpy)) ∧
      result.metaRows.map some =
        windows.map fun rows => rows.getLast?.map table.metaRow := by
  intro result windows
  obtain ⟨_, isWindows, isMeta, _⟩ :=
    windowsFromDataframe_spec numpy table windowN stride
  constructor
  · rw [isWindows, List.map_flatMap]
    apply flatMap_filterMap_eq
    · intro value isNone
      rw [RawTable.windowBlock?_none isNone, List.map_nil]
    · intro value block isBlock
      exact (RawTable.windowBlock?_some windowPos stridePos isBlock).1
  · rw [isMeta, List.map_flatMap, List.map_flatMap]
    apply flatMap_filterMap_eq
    · intro value isNone
      rw [RawTable.windowBlock?_none isNone, List.map_nil]
    · intro value block isBlock
      exact (RawTable.windowBlock?_some windowPos stridePos isBlock).2

/-- Every row of `meta` describes a row of the table. -/
theorem exists_row_of_mem_metaRows
    (windowPos : 1 ≤ windowN)
    (stridePos : 1 ≤ stride)
    {row : MetaRow}
    (member :
      row ∈ (windowsFromDataframe numpy table windowN stride).metaRows) :
    ∃ index, row = table.metaRow index := by
  obtain ⟨_, isMeta⟩ :=
    windowsFromDataframe_rows numpy table windowPos stridePos
  have described := List.mem_map_of_mem (f := some) member
  rw [isMeta] at described
  obtain ⟨rows, _, isLast⟩ := List.mem_map.mp described
  obtain ⟨index, _, isRow⟩ := Option.map_eq_some_iff.mp isLast
  exact ⟨index, isRow.symm⟩

/-- Windows and metadata are aligned, for every key and in the keys' order. -/
theorem windowsFromDataframe_aligned
    (numpy : Numpy Value)
    (distinct : table.StampsDistinct)
    (windowPos : 1 ≤ windowN)
    (stridePos : 1 ≤ stride) :
    ∃ keys timeline,
      WindowsAligned numpy table windowN stride keys timeline
        (windowsFromDataframe numpy table windowN stride) := by
  obtain ⟨windowN_eq, _, _, xStats⟩ :=
    windowsFromDataframe_spec numpy table windowN stride
  obtain ⟨windows, metaRows⟩ :=
    @windowsFromDataframe_rows _ _ _ _ windowN stride numpy table windowPos
      stridePos
  have isTimeline (value : String ×ₗ String) :
      IsTimeline table.groupKey table.tsUnixMs table.index value
        (ordered table.tsUnixMs
          (group table.groupKey table.index value)) :=
    isTimeline_ordered table.indexNodup
      (RawTable.stampsDistinct_iff.mp distinct) value
  refine ⟨sortedKeys table.groupKey table.index,
    fun value => ordered table.tsUnixMs
      (group table.groupKey table.index value), ?_⟩
  refine {
    keysAscending := sortedKeys_pairwise
    mem_keys := ?_
    increasing := fun value => (isTimeline value).increasing
    mem_timeline := ?_
    windows := ?_
    metaRows := ?_
    windowN_eq
    xStats }
  · intro value
    simp only [mem_sortedKeys, RawTable.keyIs_iff]
  · intro value row
    rw [(isTimeline value).mem_iff, RawTable.keyIs_iff]
  · rw [windows]
    refine List.forall₂_map_right_iff.mpr (List.forall₂_same.mpr ?_)
    intro rows _
    refine List.forall₂_map_right_iff.mpr (List.forall₂_same.mpr ?_)
    exact fun row _ => RawTable.shownBy_seqRow row
  · -- A window has a last row, since its row of `meta` is there.
    rw [← List.forall₂_eq_eq_eq, List.forall₂_map_left_iff,
      List.forall₂_map_right_iff] at metaRows
    refine metaRows.flip.imp ?_
    intro rows described isDescribed
    obtain ⟨row, isLast, isRow⟩ :=
      Option.map_eq_some_iff.mp isDescribed.symm
    exact ⟨row, isLast, isRow ▸ RawTable.describedBy_metaRow row⟩

/-- One link with a window of two samples, and one that is too short. -/
theorem windowsFromDataframe_aligned_interleaved :
    ∃ keys timeline,
      WindowsAligned exactNumpy interleavedSamples 2 1 keys timeline
        (windowsFromDataframe exactNumpy interleavedSamples 2 1) := by
  refine windowsFromDataframe_aligned exactNumpy ?_ (by decide) le_rfl
  rw [RawTable.stampsDistinct_iff, DistinctStamps]
  decide

example :
    (windowsFromDataframe exactNumpy interleavedSamples 2 1).metaRows =
      [⟨"L1", "C1", 2000, none, none, none⟩] := by
  decide

end Alignment

end Python

end OpticsSoftfail
