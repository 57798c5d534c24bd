import Mathlib.Algebra.Field.Rat
import Mathlib.Algebra.Order.Ring.Rat
import Mathlib.Data.Finset.Max
import Mathlib.Data.Prod.Lex
import Mathlib.Data.String.Basic
import OpticsSoftfail.FloatScore
import OpticsSoftfail.RowGroups
import OpticsSoftfail.SlidingWindows

namespace OpticsSoftfail

/-!
# Horizon labels

The trainer marks a sample when a hard failure follows on its channel within
the horizon.  The look-ahead is a shift, a reversal, a trailing maximum and a
reversal back, one group of rows after the other, and the parts are put back
in the order of the table.  It counts rows where the horizon is in seconds.
-/

namespace Python

open RowGroups

/--
A DataFrame of raw samples with a unique index.  A column is read at a label of
the index; a column the frame does not have is `none`.
-/
structure RawTable (Index Value : Type) where
  index : List Index
  indexNodup : index.Nodup
  tsUnixMs : Index → Int
  linkId : Index → String
  channelId : Option (Index → String)
  osnrDb : Index → FloatScore Value
  ber : Index → FloatScore Value
  laserBiasMa : Index → FloatScore Value
  edfaPumpMa : Option (Index → FloatScore Value)
  rxPowerDbm : Option (Index → FloatScore Value)
  label : Option (Index → String)
  yHorizon : Option (Index → Int)
  hardFail : Option (Index → Bool)

variable {Index Value : Type}

/-- The key of a row, `["link_id", "channel_id"]`. -/
def RawTable.key
    (table : RawTable Index Value)
    (channelId : Index → String)
    (row : Index) : String ×ₗ String :=
  toLex (table.linkId row, channelId row)

section Model

/-- `rolling(window, min_periods=1).max()`, which refuses an empty window. -/
def rollingMax? (window : Int) (values : List Nat) : Option (List Nat) :=
  if window < 1 then none else some (trailingMax window.toNat values)

/-- `_future`, on the rows of one group. -/
def future?
    (tsUnixMs : Index → Int)
    (hardFail : Index → Bool)
    (horizonN : Int)
    (rows : List Index) : Option (List (Index × Int)) := do
  -- Distinct timestamps have one order, whichever sort `sort_values` uses.
  let sorted := ordered tsUnixMs rows
  let hf := sorted.map fun row => (hardFail row).toNat
  let nxt := hf.tail ++ [0]
  let rolled ← rollingMax? horizonN nxt.reverse
  let fut := rolled.reverse
  some (sorted.zip (fut.map Nat.cast))

/-- `pd.concat`, which refuses an empty list. -/
def concat? (parts : List (List (Index × Int))) :
    Option (List (Index × Int)) :=
  if parts.isEmpty then none else some parts.flatten

/-- `reindex(index).astype(int)`, which refuses a missing label. -/
def reindex?
    [DecidableEq Index]
    (series : List (Index × Int))
    (index : List Index) : Option (Index → Int) :=
  if ∀ row ∈ index, (series.lookup row).isSome then
    some fun row => (series.lookup row).getD 0
  else none

section Failures

variable [LinearOrder Value]

/-- `(osnr_db < hard_osnr_db) | (ber > hard_ber)`. -/
def RawTable.failsHard
    (table : RawTable Index Value)
    (hardOsnrDb hardBer : FloatScore Value)
    (row : Index) : Bool :=
  table.osnrDb row < hardOsnrDb || hardBer < table.ber row

end Failures

namespace Generator

def HORIZON_S : Int := 600

def HARD_OSNR_DB [Field Value] : FloatScore Value :=
  .number (8 : Nat)

def HARD_BER [Field Value] : FloatScore Value :=
  .number (1 / (1000 : Nat))

end Generator

variable [Field Value] [LinearOrder Value] [DecidableEq Index]

/-- `add_horizon_labels`. -/
def RawTable.addHorizonLabels
    (table : RawTable Index Value)
    (horizonS : Int := Generator.HORIZON_S)
    (hardOsnrDb : FloatScore Value := Generator.HARD_OSNR_DB)
    (hardBer : FloatScore Value := Generator.HARD_BER) :
    Option (RawTable Index Value) := do
  let channelId ← table.channelId
  let key := table.key channelId
  let hardFail := table.failsHard hardOsnrDb hardBer
  let parts ← (groupKeys key table.index).mapM fun value =>
    future? table.tsUnixMs hardFail horizonS (group key table.index value)
  let series ← concat? parts
  let yHorizon ← reindex? series table.index
  some {
    table with
    hardFail := some hardFail
    yHorizon := some yHorizon }

end Model

section Bounds

variable [LinearOrder Value]

/-- The ratio is below the first bound, or the error rate above the second. -/
def RawTable.outOfBounds
    (table : RawTable Index Value)
    (hardOsnrDb hardBer : FloatScore Value)
    (row : Index) : Bool :=
  decide (table.osnrDb row < hardOsnrDb ∨ hardBer < table.ber row)

theorem RawTable.failsHard_eq
    (table : RawTable Index Value)
    (hardOsnrDb hardBer : FloatScore Value) :
    table.failsHard hardOsnrDb hardBer =
      table.outOfBounds hardOsnrDb hardBer :=
  funext fun _ => (Bool.decide_or _ _).symm

end Bounds

section Labels

variable {tsUnixMs : Index → Int} {hardFail : Index → Bool}

/-- What the look-ahead computes for each position of a group. -/
theorem lookAhead_eq
    (horizonN : Nat)
    {sorted : List Index}
    (nonempty : sorted ≠ []) :
    (trailingMax horizonN
        ((sorted.map fun row => (hardFail row).toNat).tail ++ [0]).reverse
        ).reverse =
      (List.range sorted.length).map fun position =>
        (((sorted.drop (position + 1)).take horizonN).any hardFail).toNat := by
  have count : 0 < sorted.length := List.length_pos_of_ne_nil nonempty
  have length :
      ((sorted.map fun row => (hardFail row).toNat).tail ++ [0]).length =
        sorted.length := by
    rw [List.length_append, List.length_tail, List.length_map,
      List.length_singleton]
    omega
  rw [reverse_trailingMax_reverse, length]
  refine List.map_congr_left fun position member => ?_
  have inside : position < sorted.length := List.mem_range.mp member
  rw [List.drop_append_of_le_length (by simp; omega),
    foldr_max_take_concat_zero, List.drop_tail, ← List.map_drop,
    ← List.map_take, foldr_max_indicator]

/-- `_future` labels every row of the group by the rows that follow it. -/
theorem future?_spec
    (tsUnixMs : Index → Int)
    (hardFail : Index → Bool)
    {horizonN : Int}
    (positive : 1 ≤ horizonN)
    (rows : List Index) :
    ∃ part,
      future? tsUnixMs hardFail horizonN rows = some part ∧
        part.map Prod.fst = ordered tsUnixMs rows ∧
        ∀ entry ∈ part, ∃ position,
          (ordered tsUnixMs rows)[position]? = some entry.1 ∧
            entry.2 = ((((ordered tsUnixMs rows).drop (position + 1)).take
              horizonN.toNat).any hardFail).toNat := by
  have rolls (values : List Nat) :
      rollingMax? horizonN values =
        some (trailingMax horizonN.toNat values) :=
    if_neg (by omega)
  simp only [future?, rolls, Option.bind_eq_bind, Option.bind_some]
  generalize ordered tsUnixMs rows = sorted
  by_cases isEmpty : sorted = []
  · subst isEmpty
    exact ⟨[], rfl, rfl, by simp⟩
  rw [lookAhead_eq horizonN.toNat isEmpty]
  refine ⟨_, rfl, List.map_fst_zip (by simp), ?_⟩
  intro entry member
  obtain ⟨position, inside, rfl⟩ := List.getElem_of_mem member
  refine ⟨position, ?_, ?_⟩
  · simp
  · simp

variable {Key : Type} [DecidableEq Key] {key : Index → Key}
variable {index : List Index}

/-- A hard failure among the next rows of a row. -/
def FailsWithinRows
    (key : Index → Key)
    (tsUnixMs : Index → Int)
    (index : List Index)
    (hardFail : Index → Bool)
    (count : Nat)
    (row : Index) : Prop :=
  ∃ later, AmongNext key tsUnixMs index count row later ∧ hardFail later

/-- A flag that says whether a property holds. -/
def Flags (flag : Int) (holds : Prop) : Prop :=
  (flag = 0 ∨ flag = 1) ∧ (flag = 1 ↔ holds)

theorem flags_toNat
    {flag : Bool}
    {holds : Prop}
    (same : flag ↔ holds) :
    Flags flag.toNat holds := by
  rw [Flags, ← same]
  cases flag <;> decide

/-- `_future` on the rows of one key, in terms of the whole table. -/
theorem future?_labels
    (hardFail : Index → Bool)
    {horizonN : Int}
    (positive : 1 ≤ horizonN)
    (nodup : index.Nodup)
    (distinct : DistinctStamps key tsUnixMs index)
    (value : Key) :
    ∃ part,
      future? tsUnixMs hardFail horizonN (group key index value) =
          some part ∧
        (∀ row, row ∈ part.map Prod.fst ↔ row ∈ index ∧ key row = value) ∧
        ∀ entry ∈ part, Flags entry.2
          (FailsWithinRows key tsUnixMs index hardFail horizonN.toNat
            entry.1) := by
  obtain ⟨part, isPart, rows, labels⟩ :=
    future?_spec tsUnixMs hardFail positive (group key index value)
  have isTimeline := isTimeline_ordered nodup distinct value
  refine ⟨part, isPart, fun row => ?_, fun entry member => ?_⟩
  · rw [rows]
    exact isTimeline.mem_iff row
  · obtain ⟨position, atPosition, isFlag⟩ := labels entry member
    rw [isFlag]
    refine flags_toNat ?_
    rw [List.any_eq_true]
    refine exists_congr fun later => and_congr_left fun _ => ?_
    exact isTimeline.mem_next_iff nodup atPosition horizonN.toNat later

/-- Where every entry is a label of its row, so is what is looked up. -/
theorem reindex?_spec
    [DecidableEq Index]
    {series : List (Index × Int)}
    {holds : Index → Prop}
    (covers : ∀ row ∈ index, row ∈ series.map Prod.fst)
    (labels : ∀ entry ∈ series, Flags entry.2 (holds entry.1)) :
    ∃ yHorizon,
      reindex? series index = some yHorizon ∧
        ∀ row ∈ index, Flags (yHorizon row) (holds row) := by
  have found (row : Index) (member : row ∈ index) :
      ∃ flag, series.lookup row = some flag ∧ (row, flag) ∈ series := by
    obtain ⟨entry, inSeries, isRow⟩ := List.mem_map.mp (covers row member)
    have isSome : (series.lookup row).isSome :=
      List.lookup_isSome_iff.mpr
        ⟨entry, inSeries, beq_iff_eq.mpr isRow.symm⟩
    obtain ⟨flag, isFlag⟩ := Option.isSome_iff_exists.mp isSome
    obtain ⟨before, after, split, _⟩ := List.lookup_eq_some_iff.mp isFlag
    exact ⟨flag, isFlag, split ▸ List.mem_append_right _ List.mem_cons_self⟩
  refine ⟨_, if_pos fun row member => ?_, fun row member => ?_⟩
  · obtain ⟨flag, isFlag, _⟩ := found row member
    rw [isFlag, Option.isSome_some]
  · obtain ⟨flag, isFlag, inSeries⟩ := found row member
    rw [isFlag, Option.getD_some]
    exact labels _ inSeries

/-- The parts of all keys, put together and read in the order of the index. -/
theorem concat?_reindex?_spec
    [DecidableEq Index]
    {part : Key → List (Index × Int)}
    {holds : Index → Prop}
    (nonempty : index ≠ [])
    (rows : ∀ value row,
      row ∈ (part value).map Prod.fst ↔ row ∈ index ∧ key row = value)
    (labels : ∀ value, ∀ entry ∈ part value, Flags entry.2 (holds entry.1)) :
    ∃ series yHorizon,
      concat? ((groupKeys key index).map part) = some series ∧
        reindex? series index = some yHorizon ∧
        ∀ row ∈ index, Flags (yHorizon row) (holds row) := by
  obtain ⟨first, firstMember⟩ := List.exists_mem_of_ne_nil _ nonempty
  have someKey : groupKeys key index ≠ [] :=
    List.ne_nil_of_mem (mem_groupKeys.mpr ⟨first, firstMember, rfl⟩)
  have concatenated :
      concat? ((groupKeys key index).map part) =
        some ((groupKeys key index).flatMap part) :=
    if_neg (by simpa using someKey)
  have covers :
      ∀ row ∈ index,
        row ∈ ((groupKeys key index).flatMap part).map Prod.fst := by
    intro row member
    rw [List.map_flatMap, List.mem_flatMap]
    exact ⟨key row, mem_groupKeys.mpr ⟨row, member, rfl⟩,
      (rows _ row).mpr ⟨member, rfl⟩⟩
  have entries :
      ∀ entry ∈ (groupKeys key index).flatMap part,
        Flags entry.2 (holds entry.1) := by
    intro entry member
    obtain ⟨value, _, inPart⟩ := List.mem_flatMap.mp member
    exact labels value entry inPart
  obtain ⟨yHorizon, isReindexed, exact⟩ := reindex?_spec covers entries
  exact ⟨_, yHorizon, concatenated, isReindexed, exact⟩

end Labels

section Exactness

variable [Field Value] [LinearOrder Value] [DecidableEq Index]
variable {table : RawTable Index Value} {channelId : Index → String}
variable {horizonS : Int} {hardOsnrDb hardBer : FloatScore Value}

/-- The rows get the labels, in their order, and each of them is exact. -/
def RawTable.LabelledBy
    (table : RawTable Index Value)
    (channelId : Index → String)
    (horizonS : Int)
    (hardOsnrDb hardBer : FloatScore Value)
    (yHorizon : Index → Int) : Prop :=
  table.addHorizonLabels horizonS hardOsnrDb hardBer =
      some {
        table with
        hardFail := some (table.outOfBounds hardOsnrDb hardBer)
        yHorizon := some yHorizon } ∧
    ∀ row ∈ table.index, Flags (yHorizon row)
      (FailsWithinRows (table.key channelId) table.tsUnixMs table.index
        (table.outOfBounds hardOsnrDb hardBer) horizonS.toNat row)

/-- With a row there is a group, and every row finds its label again. -/
theorem RawTable.addHorizonLabels_of_ne_nil
    (hasChannel : table.channelId = some channelId)
    (distinct :
      DistinctStamps (table.key channelId) table.tsUnixMs table.index)
    (positive : 1 ≤ horizonS)
    (nonempty : table.index ≠ []) :
    ∃ yHorizon,
      table.LabelledBy channelId horizonS hardOsnrDb hardBer yHorizon := by
  have labelled := future?_labels (table.outOfBounds hardOsnrDb hardBer)
    positive table.indexNodup distinct
  choose part isPart rows labels using labelled
  have isParts :
      ((groupKeys (table.key channelId) table.index).mapM fun value =>
        future? table.tsUnixMs (table.outOfBounds hardOsnrDb hardBer) horizonS
          (group (table.key channelId) table.index value)) =
        some ((groupKeys (table.key channelId) table.index).map part) := by
    simp only [isPart]
    exact List.mapM_pure
  obtain ⟨series, yHorizon, concatenated, isReindexed, exact⟩ :=
    concat?_reindex?_spec nonempty rows labels
  refine ⟨yHorizon, ?_, exact⟩
  simp only [addHorizonLabels, hasChannel, Option.bind_eq_bind,
    Option.bind_some, failsHard_eq, isParts, concatenated, isReindexed]

/-- Samples of channel `C1`, of which one has failed. -/
def samplesOf
    (index : List Nat)
    (indexNodup : index.Nodup)
    (tsUnixMs : Nat → Int)
    (linkId : Nat → String)
    (failed : Nat) : RawTable Nat Rat where
  index
  indexNodup
  tsUnixMs
  linkId
  channelId := some fun _ => "C1"
  osnrDb row := .number (if row = failed then 7 else 18)
  ber _ := .number (1 / 10 ^ 6)
  laserBiasMa _ := .number 40
  edfaPumpMa := none
  rxPowerDbm := none
  label := none
  yHorizon := none
  hardFail := none

/-- Three samples, the latest first, and the middle one of another link. -/
def interleavedSamples : RawTable Nat Rat :=
  samplesOf [2, 1, 0] (by decide) (fun row => 1000 * row)
    (fun row => if row = 1 then "L2" else "L1") 2

/-- The failure of `L1` is the next row of that link, not of the other. -/
example :
    ((interleavedSamples.addHorizonLabels 1).bind fun labelled =>
      labelled.yHorizon.map interleavedSamples.index.map) =
        some [0, 0, 1] := by
  decide

end Exactness

section FirstFailures

variable {Key : Type}

/-- A hard failure of the row's key within so many milliseconds after it. -/
def FailsWithinMs
    (key : Index → Key)
    (tsUnixMs : Index → Int)
    (index : List Index)
    (hardFail : Index → Bool)
    (milliseconds : Int)
    (row : Index) : Prop :=
  ∃ later ∈ index,
    key later = key row ∧ tsUnixMs row < tsUnixMs later ∧
      tsUnixMs later ≤ tsUnixMs row + milliseconds ∧ hardFail later

/-- The first hard failure of the row's key after it. -/
structure FirstFailure
    (key : Index → Key)
    (tsUnixMs : Index → Int)
    (index : List Index)
    (hardFail : Index → Bool)
    (row first : Index) : Prop where
  member : first ∈ index
  sameKey : key first = key row
  after : tsUnixMs row < tsUnixMs first
  fails : hardFail first
  earliest : ∀ other ∈ index, key other = key row →
    tsUnixMs row < tsUnixMs other → hardFail other →
      tsUnixMs first ≤ tsUnixMs other

variable {key : Index → Key} {tsUnixMs : Index → Int} {index : List Index}
variable {hardFail : Index → Bool} {row first : Index}

theorem exists_firstFailure
    {later : Index}
    (member : later ∈ index)
    (sameKey : key later = key row)
    (after : tsUnixMs row < tsUnixMs later)
    (fails : hardFail later) :
    ∃ first, FirstFailure key tsUnixMs index hardFail row first := by
  classical
  let failures := (index.filter fun other =>
    key other = key row ∧ tsUnixMs row < tsUnixMs other ∧
      hardFail other).toFinset
  have memFailures (other : Index) :
      other ∈ failures ↔ other ∈ index ∧ key other = key row ∧
        tsUnixMs row < tsUnixMs other ∧ hardFail other := by
    simp [failures]
  obtain ⟨first, isFailure, least⟩ :=
    failures.exists_min_image tsUnixMs
      ⟨later, (memFailures later).mpr ⟨member, sameKey, after, fails⟩⟩
  obtain ⟨firstMember, firstKey, firstAfter, firstFails⟩ :=
    (memFailures first).mp isFailure
  exact ⟨first, firstMember, firstKey, firstAfter, firstFails,
    fun other otherMember otherKey otherAfter otherFails =>
      least other ((memFailures other).mpr
        ⟨otherMember, otherKey, otherAfter, otherFails⟩)⟩

/-- Some failure is within a time when the first one is. -/
theorem FirstFailure.failsWithinMs_iff
    (isFirst : FirstFailure key tsUnixMs index hardFail row first)
    (milliseconds : Int) :
    FailsWithinMs key tsUnixMs index hardFail milliseconds row ↔
      tsUnixMs first ≤ tsUnixMs row + milliseconds := by
  constructor
  · rintro ⟨other, member, sameKey, after, within, fails⟩
    exact (isFirst.earliest other member sameKey after fails).trans within
  · intro within
    exact ⟨first, isFirst.member, isFirst.sameKey, isFirst.after, within,
      isFirst.fails⟩

variable [DecidableEq Key]

/-- Some failure is among the next rows when the first one is. -/
theorem FirstFailure.failsWithinRows_iff
    (isFirst : FirstFailure key tsUnixMs index hardFail row first)
    (count : Nat) :
    FailsWithinRows key tsUnixMs index hardFail count row ↔
      (between key tsUnixMs index row first).length < count := by
  constructor
  · rintro ⟨other, ⟨member, sameKey, after, fewer⟩, fails⟩
    have notLater := isFirst.earliest other member sameKey after fails
    have sublist :
        (between key tsUnixMs index row first).Sublist
          (between key tsUnixMs index row other) := by
      refine List.monotone_filter_right index fun candidate inside => ?_
      rw [decide_eq_true_iff] at inside ⊢
      exact ⟨inside.1, inside.2.1, inside.2.2.trans_le notLater⟩
    exact sublist.length_le.trans_lt fewer
  · intro fewer
    exact ⟨first, ⟨isFirst.member, isFirst.sameKey, isFirst.after, fewer⟩,
      isFirst.fails⟩

/-- Rows and milliseconds agree on whether a first failure is in reach. -/
def RowsKeepTime
    (key : Index → Key)
    (tsUnixMs : Index → Int)
    (index : List Index)
    (hardFail : Index → Bool)
    (horizonS : Int) : Prop :=
  ∀ row ∈ index, ∀ first,
    FirstFailure key tsUnixMs index hardFail row first →
      ((between key tsUnixMs index row first).length < horizonS.toNat ↔
        tsUnixMs first ≤ tsUnixMs row + 1000 * horizonS)

theorem rowsKeepTime_iff
    {horizonS : Int} :
    (∀ row ∈ index,
        FailsWithinRows key tsUnixMs index hardFail horizonS.toNat row ↔
          FailsWithinMs key tsUnixMs index hardFail (1000 * horizonS) row) ↔
      RowsKeepTime key tsUnixMs index hardFail horizonS := by
  constructor
  · intro same row member first isFirst
    rw [← isFirst.failsWithinRows_iff, ← isFirst.failsWithinMs_iff]
    exact same row member
  · intro keepTime row member
    constructor
    · rintro ⟨later, ⟨isRow, sameKey, after, fewer⟩, fails⟩
      obtain ⟨first, isFirst⟩ :=
        exists_firstFailure isRow sameKey after fails
      rw [isFirst.failsWithinMs_iff, ← keepTime row member first isFirst,
        ← isFirst.failsWithinRows_iff]
      exact ⟨later, ⟨isRow, sameKey, after, fewer⟩, fails⟩
    · rintro ⟨later, isRow, sameKey, after, within, fails⟩
      obtain ⟨first, isFirst⟩ :=
        exists_firstFailure isRow sameKey after fails
      rw [isFirst.failsWithinRows_iff, keepTime row member first isFirst,
        ← isFirst.failsWithinMs_iff]
      exact ⟨later, isRow, sameKey, after, within, fails⟩

/-- Neighbours of one key are one second apart. -/
def SampledEachSecond
    (key : Index → Key)
    (tsUnixMs : Index → Int)
    (index : List Index) : Prop :=
  ∀ row ∈ index, ∀ next ∈ index,
    key next = key row → tsUnixMs row < tsUnixMs next →
      between key tsUnixMs index row next = [] →
        tsUnixMs next = tsUnixMs row + 1000

/-- Then every row is as many seconds later as it is positions. -/
theorem SampledEachSecond.elapsed
    (sampled : SampledEachSecond key tsUnixMs index)
    (nodup : index.Nodup)
    {value : Key}
    {timeline : List Index}
    (isTimeline : IsTimeline key tsUnixMs index value timeline)
    {position : Nat}
    (atPosition : timeline[position]? = some row)
    {distance : Nat}
    {later : Index}
    (atLater : timeline[position + distance]? = some later) :
    tsUnixMs later = tsUnixMs row + 1000 * distance := by
  induction distance generalizing later with
  | zero =>
      obtain rfl : row = later :=
        Option.some.inj (atPosition.symm.trans atLater)
      simp
  | succ distance inductionHypothesis =>
      have inside : position + distance < timeline.length := by
        have laterInside := (List.getElem?_eq_some_iff.mp atLater).choose
        omega
      have atBefore := List.getElem?_eq_getElem inside
      have elapsed := inductionHypothesis atBefore
      have beforeRow := (isTimeline.mem_iff _).mp
        (List.mem_of_getElem? atBefore)
      have laterRow := (isTimeline.mem_iff _).mp
        (List.mem_of_getElem? atLater)
      have neighbours :=
        isTimeline.length_between nodup atBefore atLater
      have step := sampled _ beforeRow.1 _ laterRow.1
        (laterRow.2.trans beforeRow.2.symm)
        ((isTimeline.stamp_lt_iff atBefore atLater).mpr (by omega))
        (List.eq_nil_of_length_eq_zero (by omega))
      rw [step, elapsed]
      push_cast
      omega

/-- A trace of one sample a second keeps time, whatever fails in it. -/
theorem rowsKeepTime_of_sampledEachSecond
    (sampled : SampledEachSecond key tsUnixMs index)
    (nodup : index.Nodup)
    (distinct : DistinctStamps key tsUnixMs index)
    (horizonS : Int) :
    RowsKeepTime key tsUnixMs index hardFail horizonS := by
  intro row member first isFirst
  have isTimeline := isTimeline_ordered nodup distinct (key row)
  obtain ⟨low, atLow⟩ := List.mem_iff_getElem?.mp
    ((isTimeline.mem_iff row).mpr ⟨member, rfl⟩)
  obtain ⟨high, atHigh⟩ := List.mem_iff_getElem?.mp
    ((isTimeline.mem_iff first).mpr ⟨isFirst.member, isFirst.sameKey⟩)
  have before := (isTimeline.stamp_lt_iff atLow atHigh).mp isFirst.after
  have apart := isTimeline.length_between nodup atLow atHigh
  obtain ⟨distance, rfl⟩ := Nat.exists_eq_add_of_le before.le
  have elapsed := sampled.elapsed nodup isTimeline atLow atHigh
  rw [apart, elapsed]
  omega

end FirstFailures

section Seconds

variable [Field Value] [LinearOrder Value] [DecidableEq Index]

/-- Each label says whether a failure follows within the horizon's seconds. -/
def RawTable.LabelsMeanSeconds
    (table : RawTable Index Value)
    (channelId : Index → String)
    (horizonS : Int)
    (hardOsnrDb hardBer : FloatScore Value) : Prop :=
  table.index = [] ∨
    ∃ labelled yHorizon,
      table.addHorizonLabels horizonS hardOsnrDb hardBer = some labelled ∧
        labelled.yHorizon = some yHorizon ∧
        ∀ row ∈ table.index,
          yHorizon row = 1 ↔
            FailsWithinMs (table.key channelId) table.tsUnixMs table.index
              (table.outOfBounds hardOsnrDb hardBer) (1000 * horizonS) row

variable {table : RawTable Index Value} {channelId : Index → String}
variable {horizonS : Int} {hardOsnrDb hardBer : FloatScore Value}

/-- What the labels say in rows has to be what they should say in time. -/
theorem RawTable.labelsMeanSeconds_iff_forall
    (hasChannel : table.channelId = some channelId)
    (distinct :
      DistinctStamps (table.key channelId) table.tsUnixMs table.index)
    (positive : 1 ≤ horizonS) :
    table.LabelsMeanSeconds channelId horizonS hardOsnrDb hardBer ↔
      ∀ row ∈ table.index,
        FailsWithinRows (table.key channelId) table.tsUnixMs table.index
            (table.outOfBounds hardOsnrDb hardBer) horizonS.toNat row ↔
          FailsWithinMs (table.key channelId) table.tsUnixMs table.index
            (table.outOfBounds hardOsnrDb hardBer) (1000 * horizonS) row := by
  by_cases isEmpty : table.index = []
  · refine iff_of_true (Or.inl isEmpty) fun row member => ?_
    rw [isEmpty] at member
    cases member
  obtain ⟨yHorizon, isLabelled, exact⟩ :=
    addHorizonLabels_of_ne_nil hasChannel distinct positive isEmpty
  constructor
  · rintro (none | ⟨labelled, other, isOther, isColumn, means⟩)
    · exact absurd none isEmpty
    · rw [isLabelled] at isOther
      obtain rfl := Option.some.inj isOther
      obtain rfl := Option.some.inj isColumn
      intro row member
      rw [← means row member, (exact row member).2]
  · intro same
    exact Or.inr ⟨_, yHorizon, isLabelled, rfl, fun row member =>
      (exact row member).2.trans (same row member)⟩

/-- Labels mean seconds exactly where the rows keep time. -/
theorem RawTable.labelsMeanSeconds_iff
    (hasChannel : table.channelId = some channelId)
    (distinct :
      DistinctStamps (table.key channelId) table.tsUnixMs table.index)
    (positive : 1 ≤ horizonS) :
    table.LabelsMeanSeconds channelId horizonS hardOsnrDb hardBer ↔
      RowsKeepTime (table.key channelId) table.tsUnixMs table.index
        (table.outOfBounds hardOsnrDb hardBer) horizonS :=
  (labelsMeanSeconds_iff_forall hasChannel distinct positive).trans
    rowsKeepTime_iff

end Seconds

section TwoSamples

/-! Two samples of a channel, of which the later one has failed. -/

def twoSamples (laterMs : Int) : RawTable Nat Rat :=
  samplesOf [1, 0] (by decide) (fun row => if row = 0 then 0 else laterMs)
    (fun _ => "L1") 1

theorem distinctStamps_twoSamples
    {laterMs : Int}
    (later : 0 < laterMs) :
    DistinctStamps ((twoSamples laterMs).key fun _ => "C1")
      (twoSamples laterMs).tsUnixMs (twoSamples laterMs).index := by
  intro row rowMember other otherMember _ sameTs
  simp only [twoSamples, samplesOf, List.mem_cons, List.not_mem_nil,
    or_false] at rowMember otherMember
  rcases rowMember with rfl | rfl <;> rcases otherMember with rfl | rfl <;>
    simp [twoSamples, samplesOf] at sameTs ⊢ <;> omega

/-- One second apart, the labels mean seconds. -/
theorem RawTable.labelsMeanSeconds_iff_oneSecond :
    (twoSamples 1000).LabelsMeanSeconds (fun _ => "C1") Generator.HORIZON_S
      Generator.HARD_OSNR_DB Generator.HARD_BER := by
  refine (labelsMeanSeconds_iff rfl (distinctStamps_twoSamples (by decide))
    (by decide)).mpr ?_
  refine rowsKeepTime_of_sampledEachSecond ?_ (twoSamples 1000).indexNodup
    (distinctStamps_twoSamples (by decide)) Generator.HORIZON_S
  unfold SampledEachSecond
  decide

/-- Ten minutes and a second apart, the next sample is still the next row. -/
theorem RawTable.gap_breaks_seconds :
    ¬ ∀ (table : RawTable Nat Rat) (channelId : Nat → String),
      table.channelId = some channelId →
        DistinctStamps (table.key channelId) table.tsUnixMs table.index →
          ∀ horizonS, 1 ≤ horizonS →
            table.LabelsMeanSeconds channelId horizonS Generator.HARD_OSNR_DB
              Generator.HARD_BER := by
  intro means
  have distinct := @distinctStamps_twoSamples 601000 (by decide)
  have positive : 1 ≤ Generator.HORIZON_S := by decide
  have same := (labelsMeanSeconds_iff_forall rfl distinct positive).mp
    (means (twoSamples 601000) _ rfl distinct Generator.HORIZON_S positive)
  have withinTime := (same 0 (by decide)).mp
    ⟨1, ⟨by decide, by decide, by decide, by decide⟩, by decide⟩
  obtain ⟨later, member, _, after, within, _⟩ := withinTime
  have notLater :
      ∀ later ∈ (twoSamples 601000).index,
        (twoSamples 601000).tsUnixMs 0 < (twoSamples 601000).tsUnixMs later →
          ¬ (twoSamples 601000).tsUnixMs later ≤
            (twoSamples 601000).tsUnixMs 0 + 1000 * Generator.HORIZON_S := by
    decide
  exact notLater later member after within

end TwoSamples

end Python

end OpticsSoftfail
