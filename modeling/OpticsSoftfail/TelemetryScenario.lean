import Mathlib.Analysis.SpecialFunctions.Gaussian.GaussianIntegral
import OpticsSoftfail.LinkTrace

namespace OpticsSoftfail

namespace Corpus

/-!
# Scenarios of several links

`generate_scenario` puts the traces of several links together and sorts the rows
by time.  What the labels and `first_hard_fail_s` say about such a table is said
here about the specifications it was generated from.
-/

open RowGroups

variable {Value : Type}

/-- The columns a scenario is sorted by. -/
def RawRow.order (row : RawRow Value) : Int ×ₗ String :=
  toLex (row.tsUnixMs, row.linkId)

/-- `["link_id", "channel_id"]` of a row. -/
def RawRow.key (row : RawRow Value) : String ×ₗ String :=
  toLex (row.linkId, row.channelId)

/-- `["link_id", "channel_id"]` of all rows of a link. -/
def LinkSpec.key (spec : LinkSpec) : String ×ₗ String :=
  toLex (spec.linkId, spec.channelId)

/-- The number of rows of a trace. -/
def LinkSpec.seconds (spec : LinkSpec) : Nat :=
  spec.durationS.toNat

/-- `demo_specs`; `none` is a `ValueError`. -/
def demoSpecs (durationS : Int := 240) : Option (List LinkSpec) := do
  let working ← LinkSpec.new? "L1" .edfaAging durationS 101 20 45 90
  let protection ← LinkSpec.new? "L2" .nominal durationS 102
  let second ← LinkSpec.new? "L3" .nominal durationS 103
  return [working, protection, second]

/-- The DataFrame with these rows, under the default index. -/
def tableOf (rows : List (RawRow Value)) :
    Python.RawTable (Fin rows.length) Value where
  index := List.finRange rows.length
  indexNodup := List.nodup_finRange _
  tsUnixMs row := (rows.get row).tsUnixMs
  linkId row := (rows.get row).linkId
  channelId := some fun row => (rows.get row).channelId
  osnrDb row := .number (rows.get row).osnrDb
  ber row := .number (rows.get row).ber
  laserBiasMa row := .number (rows.get row).laserBiasMa
  edfaPumpMa := some fun row => .number (rows.get row).edfaPumpMa
  rxPowerDbm := some fun row => .number (rows.get row).rxPowerDbm
  label := some fun row => (rows.get row).label.text
  yHorizon := none
  hardFail := none

section Model

variable [Field Value] [LinearOrder Value]

/-- `first_hard_fail_s`. -/
def firstHardFailS
    (df : List (RawRow Value))
    (linkId : String) : Option Rat :=
  -- The result does not depend on how rows with one stamp are ordered.
  let sub :=
    ordered RawRow.tsUnixMs (df.filter fun row => row.linkId = linkId)
  match sub with
  | [] => none
  | first :: _ =>
      (sub.find? RawRow.failsHard).map fun row =>
        ((row.tsUnixMs - first.tsUnixMs : Int) : Rat) / 1000

variable [FloorRing Value]

/-- `generate_scenario`. -/
def generateScenario
    (numpy : SignalNumpy Value)
    (noise : Noise Value)
    (startTsMs : Int)
    (specs : List LinkSpec) : List (RawRow Value) :=
  let frames := specs.map (generateLink numpy noise startTsMs)
  if frames.isEmpty then [] else ordered RawRow.order frames.flatten

end Model

section Rows

variable [Field Value] [LinearOrder Value] [FloorRing Value]
variable {numpy : SignalNumpy Value} {noise : Noise Value}
variable {startTsMs : Int}
variable {specs : List LinkSpec} {spec : LinkSpec} {row : RawRow Value}

@[simp] theorem tsUnixMs_linkRow (position : Nat) :
    (linkRow numpy noise startTsMs spec position).tsUnixMs =
      startTsMs + 1000 * position :=
  rfl

@[simp] theorem key_linkRow (position : Nat) :
    (linkRow numpy noise startTsMs spec position).key = spec.key :=
  rfl

theorem seconds_pos (spec : LinkSpec) : 0 < spec.seconds := by
  have positive := spec.durationPositive
  rw [LinkSpec.seconds]
  omega

theorem mem_generateLink :
    row ∈ generateLink numpy noise startTsMs spec ↔
      ∃ position < spec.seconds,
        linkRow numpy noise startTsMs spec position = row := by
  simp [generateLink, LinkSpec.seconds]

/-- The rows of a trace are a second apart. -/
theorem generateLink_increasing :
    (generateLink numpy noise startTsMs spec).Pairwise
      fun first later => first.tsUnixMs < later.tsUnixMs := by
  refine List.pairwise_map.mpr (List.pairwise_lt_range.imp ?_)
  intro position next before
  rw [tsUnixMs_linkRow, tsUnixMs_linkRow]
  omega

/-- A scenario consists of the rows of its traces. -/
theorem generateScenario_perm :
    (generateScenario numpy noise startTsMs specs).Perm
      (specs.flatMap (generateLink numpy noise startTsMs)) := by
  simp only [generateScenario, List.isEmpty_iff, List.map_eq_nil_iff]
  split_ifs with isEmpty
  · rw [isEmpty]
    exact List.Perm.nil
  · exact List.perm_insertionSort _ _

theorem mem_generateScenario :
    row ∈ generateScenario numpy noise startTsMs specs ↔
      ∃ spec ∈ specs, ∃ position < spec.seconds,
        linkRow numpy noise startTsMs spec position = row := by
  rw [generateScenario_perm.mem_iff, List.mem_flatMap]
  simp only [mem_generateLink]

theorem linkRow_mem_generateScenario
    (member : spec ∈ specs)
    {position : Nat}
    (inside : position < spec.seconds) :
    linkRow numpy noise startTsMs spec position ∈
      generateScenario numpy noise startTsMs specs :=
  mem_generateScenario.mpr ⟨spec, member, position, inside, rfl⟩

end Rows

section FirstHardFail

/-! ## When a link first fails hard -/

variable [Field Value] [LinearOrder Value]
variable {df : List (RawRow Value)} {linkId : String}

/-- The first row of a link and its first hard failure. -/
structure FirstHardFail
    (df : List (RawRow Value))
    (linkId : String)
    (first failure : RawRow Value) : Prop where
  first_mem : first ∈ df ∧ first.linkId = linkId
  first_le :
    ∀ row ∈ df, row.linkId = linkId → first.tsUnixMs ≤ row.tsUnixMs
  failure_mem : failure ∈ df ∧ failure.linkId = linkId
  fails : failure.failsHard
  failure_le :
    ∀ row ∈ df, row.linkId = linkId → row.failsHard →
      failure.tsUnixMs ≤ row.tsUnixMs

/-- What is found first in a sorted list has the least stamp of all. -/
theorem find?_le
    {Row Stamp : Type}
    [LinearOrder Stamp]
    {stamp : Row → Stamp}
    {found? : Row → Bool}
    {rows : List Row}
    (sorted : rows.Pairwise fun first later => stamp first ≤ stamp later)
    {found : Row}
    (isFound : rows.find? found? = some found)
    {other : Row}
    (member : other ∈ rows)
    (passes : found? other) :
    stamp found ≤ stamp other := by
  obtain ⟨_, before, after, rfl, skipped⟩ :=
    List.find?_eq_some_iff_append.mp isFound
  rcases List.mem_append.mp member with inBefore | inAfter
  · have fails := skipped other inBefore
    rw [passes] at fails
    cases fails
  · rcases List.mem_cons.mp inAfter with rfl | inRest
    · exact le_rfl
    · exact (List.pairwise_cons.mp (List.pairwise_append.mp sorted).2.1).1
        other inRest

/-- Without a hard failure there is no time, else it is that of the first. -/
theorem firstHardFailS_cases
    (df : List (RawRow Value))
    (linkId : String) :
    (firstHardFailS df linkId = none ∧
        ∀ row ∈ df, row.linkId = linkId → row.failsHard = false) ∨
      ∃ first failure,
        FirstHardFail df linkId first failure ∧
          firstHardFailS df linkId =
            some (((failure.tsUnixMs - first.tsUnixMs : Int) : Rat) /
              1000) := by
  have mem_sub (row : RawRow Value) :
      row ∈ ordered RawRow.tsUnixMs
          (df.filter fun row => row.linkId = linkId) ↔
        row ∈ df ∧ row.linkId = linkId := by
    rw [ordered, List.mem_insertionSort, List.mem_filter, decide_eq_true_iff]
  have sorted :
      (ordered RawRow.tsUnixMs
        (df.filter fun row => row.linkId = linkId)).Pairwise
          fun first later => first.tsUnixMs ≤ later.tsUnixMs :=
    List.pairwise_insertionSort _ _
  simp only [firstHardFailS]
  generalize ordered RawRow.tsUnixMs
    (df.filter fun row => row.linkId = linkId) = sub at mem_sub sorted ⊢
  cases sub with
  | nil =>
      refine Or.inl ⟨rfl, fun row member isLink => ?_⟩
      cases (mem_sub row).mpr ⟨member, isLink⟩
  | cons first rest =>
      cases found : (first :: rest).find? RawRow.failsHard with
      | none =>
          refine Or.inl ⟨rfl, fun row member isLink => ?_⟩
          exact Bool.of_not_eq_true (List.find?_eq_none.mp found row
            ((mem_sub row).mpr ⟨member, isLink⟩))
      | some failure =>
          refine Or.inr ⟨first, failure, ?_, rfl⟩
          exact {
            first_mem := (mem_sub first).mp List.mem_cons_self
            first_le := fun row member isLink => by
              rcases List.mem_cons.mp ((mem_sub row).mpr ⟨member, isLink⟩)
                with rfl | inRest
              · exact le_rfl
              · exact (List.pairwise_cons.mp sorted).1 row inRest
            failure_mem :=
              (mem_sub failure).mp (List.mem_of_find?_eq_some found)
            fails := List.find?_some found
            failure_le := fun row member isLink fails =>
              find?_le sorted found ((mem_sub row).mpr ⟨member, isLink⟩)
                fails }

theorem exists_harsher
    {milder harsher : List LinkSpec}
    (order : List.Forall₂ LinkSpec.Milder milder harsher)
    {spec : LinkSpec}
    (member : spec ∈ milder) :
    ∃ other ∈ harsher, spec.Milder other := by
  induction order with
  | nil =>
      cases member
  | @cons first other rest others isMilder _ inductionHypothesis =>
      rcases List.mem_cons.mp member with rfl | inRest
      · exact ⟨other, List.mem_cons_self, isMilder⟩
      · obtain ⟨found, inOthers, isFound⟩ := inductionHypothesis inRest
        exact ⟨found, List.mem_cons_of_mem _ inOthers, isFound⟩

/-- The first time is no later than the second; `none` is never. -/
def NoLater (first second : Option Rat) : Prop :=
  ∀ late, second = some late → ∃ early, first = some early ∧ early ≤ late

variable [FloorRing Value]
variable {numpy : SignalNumpy Value} {noise : Noise Value}
variable {startTsMs : Int}

/-- Every link of a scenario starts with the scenario. -/
theorem FirstHardFail.tsUnixMs_first
    {specs : List LinkSpec}
    {first failure : RawRow Value}
    (isFirst :
      FirstHardFail (generateScenario numpy noise startTsMs specs) linkId
        first failure) :
    first.tsUnixMs = startTsMs := by
  obtain ⟨spec, member, position, inside, isRow⟩ :=
    mem_generateScenario.mp isFirst.first_mem.1
  have isLink : spec.linkId = linkId := by
    rw [← isFirst.first_mem.2, ← isRow]
    rfl
  have atMost :=
    isFirst.first_le _
      (linkRow_mem_generateScenario member (seconds_pos spec)) isLink
  rw [← isRow, tsUnixMs_linkRow, tsUnixMs_linkRow] at atMost
  rw [← isRow, tsUnixMs_linkRow]
  omega

variable [IsStrictOrderedRing Value]

/--
Impairing links more strongly, earlier or faster does not postpone the first
hard failure of any link, whatever the noise is.
-/
theorem harsher_fails_no_later
    (lawful : numpy.Lawful)
    (noise : Noise Value)
    (startTsMs : Int)
    {milder harsher : List LinkSpec}
    (order : List.Forall₂ LinkSpec.Milder milder harsher)
    (linkId : String) :
    NoLater
      (firstHardFailS (generateScenario numpy noise startTsMs harsher)
        linkId)
      (firstHardFailS (generateScenario numpy noise startTsMs milder)
        linkId) := by
  intro late isLate
  rcases firstHardFailS_cases
      (generateScenario numpy noise startTsMs milder) linkId with
    ⟨never, _⟩ | ⟨first, failure, isFirst, seconds⟩
  · rw [never] at isLate
    cases isLate
  obtain rfl := Option.some.inj (seconds.symm.trans isLate)
  obtain ⟨spec, member, position, inside, isRow⟩ :=
    mem_generateScenario.mp isFirst.failure_mem.1
  obtain ⟨harsherSpec, harsherMember, isMilder⟩ :=
    exists_harsher order member
  -- The same second of the harsher trace is a hard failure as well.
  have fails := isFirst.fails
  rw [← isRow] at fails
  have harsherFails := failsHard_linkRow_mono lawful isMilder position fails
  have sameLink :
      (linkRow numpy noise startTsMs harsherSpec position).linkId =
        linkId := by
    rw [← isFirst.failure_mem.2, ← isRow]
    exact isMilder.linkId
  have harsherInside : position < harsherSpec.seconds := by
    rw [LinkSpec.seconds, isMilder.durationS]
    exact inside
  have harsherRow :=
    @linkRow_mem_generateScenario _ _ _ _ numpy noise startTsMs harsher _
      harsherMember _ harsherInside
  rcases firstHardFailS_cases
      (generateScenario numpy noise startTsMs harsher) linkId with
    ⟨_, noFailure⟩ | ⟨harsherFirst, earliest, isEarliest, harsherSeconds⟩
  · rw [noFailure _ harsherRow sameLink] at harsherFails
    cases harsherFails
  · have atMost : earliest.tsUnixMs ≤ failure.tsUnixMs := by
      rw [← isRow]
      exact isEarliest.failure_le
        (linkRow numpy noise startTsMs harsherSpec position) harsherRow
        sameLink harsherFails
    refine ⟨_, harsherSeconds, ?_⟩
    rw [isFirst.tsUnixMs_first, isEarliest.tsUnixMs_first]
    exact div_le_div_of_nonneg_right
      (Int.cast_le.mpr (Int.sub_le_sub_right atMost _)) (by norm_num)

end FirstHardFail

section Labels

/-! ## What the labels of a scenario say -/

variable [Field Value] [LinearOrder Value] [FloorRing Value]
variable {numpy : SignalNumpy Value} {noise : Noise Value}
variable {startTsMs : Int}
variable {specs : List LinkSpec} {spec : LinkSpec}

theorem key_of_mem_generateLink
    (spec : LinkSpec)
    (row : RawRow Value)
    (member : row ∈ generateLink numpy noise startTsMs spec) :
    row.key = spec.key := by
  obtain ⟨position, _, rfl⟩ := mem_generateLink.mp member
  exact key_linkRow position

/-! ## Tables that hold the rows of some traces, in whatever order -/

section Tables

variable {df : List (RawRow Value)}

theorem nodup_of_perm
    (distinct : (specs.map LinkSpec.key).Nodup)
    (perm : df.Perm (specs.flatMap (generateLink numpy noise startTsMs))) :
    df.Nodup := by
  rw [perm.nodup_iff, List.nodup_flatMap]
  constructor
  · exact fun spec _ =>
      generateLink_increasing.imp fun less same => (same ▸ less).false
  · refine (List.pairwise_map.mp distinct).imp ?_
    intro first later differ row inFirst inLater
    exact differ ((key_of_mem_generateLink _ row inFirst).symm.trans
      (key_of_mem_generateLink _ row inLater))

/-- A row of the table is one second of a link. -/
structure IsSecond
    (numpy : SignalNumpy Value)
    (noise : Noise Value)
    (startTsMs : Int)
    (spec : LinkSpec)
    (df : List (RawRow Value))
    (row : Fin df.length)
    (second : Nat) : Prop where
  inside : second < spec.seconds
  isRow : linkRow numpy noise startTsMs spec second = df.get row

theorem exists_isSecond
    (perm : df.Perm (specs.flatMap (generateLink numpy noise startTsMs)))
    (row : Fin df.length) :
    ∃ spec ∈ specs, ∃ second,
      IsSecond numpy noise startTsMs spec df row second := by
  obtain ⟨spec, member, inTrace⟩ :=
    List.mem_flatMap.mp (perm.mem_iff.mp (List.get_mem df row))
  obtain ⟨second, inside, isRow⟩ := mem_generateLink.mp inTrace
  exact ⟨spec, member, second, inside, isRow⟩

theorem exists_row_of_second
    (perm : df.Perm (specs.flatMap (generateLink numpy noise startTsMs)))
    (member : spec ∈ specs)
    {second : Nat}
    (inside : second < spec.seconds) :
    ∃ row, IsSecond numpy noise startTsMs spec df row second := by
  obtain ⟨row, isRow⟩ := List.get_of_mem (perm.mem_iff.mpr
    (List.mem_flatMap.mpr
      ⟨spec, member, mem_generateLink.mpr ⟨second, inside, rfl⟩⟩))
  exact ⟨row, inside, isRow.symm⟩

variable {row other : Fin df.length} {second another : Nat}

theorem IsSecond.tsUnixMs
    (isSecond : IsSecond numpy noise startTsMs spec df row second) :
    (tableOf df).tsUnixMs row = startTsMs + 1000 * second :=
  (congrArg RawRow.tsUnixMs isSecond.isRow).symm.trans
    (tsUnixMs_linkRow second)

theorem IsSecond.key
    (isSecond : IsSecond numpy noise startTsMs spec df row second) :
    (df.get row).key = spec.key :=
  (congrArg RawRow.key isSecond.isRow).symm.trans (key_linkRow second)

/-- One second of a link has one row. -/
theorem IsSecond.unique
    (nodup : df.Nodup)
    (isSecond : IsSecond numpy noise startTsMs spec df row second)
    (isOther : IsSecond numpy noise startTsMs spec df other second) :
    row = other :=
  List.nodup_iff_injective_get.mp nodup
    (isSecond.isRow.symm.trans isOther.isRow)

/-- Rows with one key are seconds of one link. -/
theorem IsSecond.of_key
    (distinct : (specs.map LinkSpec.key).Nodup)
    (perm : df.Perm (specs.flatMap (generateLink numpy noise startTsMs)))
    (member : spec ∈ specs)
    (isSecond : IsSecond numpy noise startTsMs spec df row second)
    (sameKey : (df.get other).key = (df.get row).key) :
    ∃ another, IsSecond numpy noise startTsMs spec df other another := by
  obtain ⟨found, isMember, another, isAnother⟩ := exists_isSecond perm other
  have same : found.key = spec.key := by
    rw [← isAnother.key, sameKey, isSecond.key]
  obtain rfl := List.inj_on_of_nodup_map distinct isMember member same
  exact ⟨another, isAnother⟩

/-- The key of a row, as the table has it. -/
abbrev tableKey (df : List (RawRow Value)) : Fin df.length → String ×ₗ String :=
  (tableOf df).key fun row => (df.get row).channelId

theorem distinctStamps_tableOf
    (distinct : (specs.map LinkSpec.key).Nodup)
    (perm : df.Perm (specs.flatMap (generateLink numpy noise startTsMs))) :
    DistinctStamps (tableKey df) (tableOf df).tsUnixMs (tableOf df).index := by
  intro row _ other _ sameKey sameTs
  obtain ⟨spec, member, second, isSecond⟩ := exists_isSecond perm row
  obtain ⟨another, isAnother⟩ :=
    isSecond.of_key distinct perm member (Eq.symm sameKey)
  rw [isSecond.tsUnixMs, isAnother.tsUnixMs] at sameTs
  obtain rfl : second = another := by
    omega
  exact isSecond.unique (nodup_of_perm distinct perm) isAnother

theorem sampledEachSecond_tableOf
    (distinct : (specs.map LinkSpec.key).Nodup)
    (perm : df.Perm (specs.flatMap (generateLink numpy noise startTsMs))) :
    Python.SampledEachSecond (tableKey df) (tableOf df).tsUnixMs
      (tableOf df).index := by
  intro row _ next _ sameKey before nothing
  obtain ⟨spec, member, second, isSecond⟩ := exists_isSecond perm row
  obtain ⟨another, isAnother⟩ :=
    isSecond.of_key distinct perm member sameKey
  have stamps := isAnother.tsUnixMs
  rw [isSecond.tsUnixMs, isAnother.tsUnixMs] at before
  by_cases isNext : another = second + 1
  · rw [stamps, isSecond.tsUnixMs, isNext]
    push_cast
    omega
  · -- Otherwise the row of the next second lies between the two.
    have inside := isAnother.inside
    obtain ⟨middle, isMiddle⟩ :=
      exists_row_of_second perm member (by omega : second + 1 < spec.seconds)
    have isBetween :
        middle ∈
          between (tableKey df) (tableOf df).tsUnixMs (tableOf df).index
            row next := by
      rw [between, List.mem_filter, decide_eq_true_iff, isSecond.tsUnixMs,
        stamps, isMiddle.tsUnixMs]
      refine ⟨List.mem_finRange middle, ?_, ?_, ?_⟩
      · exact isMiddle.key.trans isSecond.key.symm
      · omega
      · omega
    rw [nothing] at isBetween
    cases isBetween

/-- A later second of the link, at most ten minutes ahead, fails hard. -/
def FailsAhead
    (numpy : SignalNumpy Value)
    (noise : Noise Value)
    (startTsMs : Int)
    (spec : LinkSpec)
    (second : Nat) : Prop :=
  ∃ later,
    second < later ∧ later ≤ second + 600 ∧ later < spec.seconds ∧
      (linkRow numpy noise startTsMs spec later).failsHard

/-- The hard failures of the table are those of the traces. -/
theorem failsWithinMs_iff_failsAhead
    (distinct : (specs.map LinkSpec.key).Nodup)
    (perm : df.Perm (specs.flatMap (generateLink numpy noise startTsMs)))
    (member : spec ∈ specs)
    (isSecond : IsSecond numpy noise startTsMs spec df row second) :
    Python.FailsWithinMs (tableKey df) (tableOf df).tsUnixMs
        (tableOf df).index
        ((tableOf df).failsHard Python.Generator.HARD_OSNR_DB
          Python.Generator.HARD_BER)
        (1000 * Python.Generator.HORIZON_S) row ↔
      FailsAhead numpy noise startTsMs spec second := by
  have fails_iff
      {found : Fin df.length}
      {later : Nat}
      (isLater : IsSecond numpy noise startTsMs spec df found later) :
      (tableOf df).failsHard Python.Generator.HARD_OSNR_DB
          Python.Generator.HARD_BER found =
        (linkRow numpy noise startTsMs spec later).failsHard := by
    rw [isLater.isRow]
    rfl
  constructor
  · rintro ⟨found, _, sameKey, after, within, fails⟩
    obtain ⟨later, isLater⟩ :=
      isSecond.of_key distinct perm member sameKey
    rw [isSecond.tsUnixMs, isLater.tsUnixMs] at after within
    rw [fails_iff isLater] at fails
    simp only [Python.Generator.HORIZON_S] at within
    exact ⟨later, by omega, by omega, isLater.inside, fails⟩
  · rintro ⟨later, after, within, inside, fails⟩
    obtain ⟨found, isLater⟩ := exists_row_of_second perm member inside
    refine ⟨found, List.mem_finRange found,
      isLater.key.trans isSecond.key.symm, ?_, ?_, ?_⟩
    · rw [isSecond.tsUnixMs, isLater.tsUnixMs]
      omega
    · rw [isSecond.tsUnixMs, isLater.tsUnixMs, Python.Generator.HORIZON_S]
      omega
    · rw [fails_iff isLater]
      exact fails

/-- Every row is a second of a link, and its label looks ahead on that link. -/
def LooksAhead
    (numpy : SignalNumpy Value)
    (noise : Noise Value)
    (startTsMs : Int)
    (specs : List LinkSpec)
    (df : List (RawRow Value))
    (yHorizon : Fin df.length → Int) : Prop :=
  ∀ row, ∃ spec ∈ specs, ∃ second,
    IsSecond numpy noise startTsMs spec df row second ∧
      Python.Flags (yHorizon row)
        (FailsAhead numpy noise startTsMs spec second)

theorem addHorizonLabels_tableOf
    (distinct : (specs.map LinkSpec.key).Nodup)
    (perm : df.Perm (specs.flatMap (generateLink numpy noise startTsMs)))
    (nonempty : df ≠ []) :
    ∃ yHorizon,
      (tableOf df).addHorizonLabels =
          some {
            tableOf df with
            hardFail := some fun row => (df.get row).failsHard
            yHorizon := some yHorizon } ∧
        LooksAhead numpy noise startTsMs specs df yHorizon := by
  have stamps := distinctStamps_tableOf distinct perm
  have someRow : (tableOf df).index ≠ [] := by
    simpa [tableOf, List.finRange_eq_nil_iff] using nonempty
  have positive : 1 ≤ Python.Generator.HORIZON_S := by
    decide
  obtain ⟨yHorizon, labelled, flags⟩ :=
    @Python.RawTable.addHorizonLabels_of_ne_nil _ _ _ _ _ (tableOf df) _ _
      Python.Generator.HARD_OSNR_DB Python.Generator.HARD_BER rfl stamps
      positive someRow
  simp only [← Python.RawTable.failsHard_eq] at labelled flags
  have keepTime :=
    @Python.rowsKeepTime_of_sampledEachSecond _ _ _ _ _
      ((tableOf df).failsHard Python.Generator.HARD_OSNR_DB
        Python.Generator.HARD_BER) _
      (sampledEachSecond_tableOf distinct perm) (tableOf df).indexNodup stamps
      Python.Generator.HORIZON_S
  refine ⟨yHorizon, labelled, fun row => ?_⟩
  obtain ⟨spec, member, second, isSecond⟩ := exists_isSecond perm row
  refine ⟨spec, member, second, isSecond, ?_⟩
  obtain ⟨isFlag, isOne⟩ := flags row (List.mem_finRange row)
  refine ⟨isFlag, isOne.trans ?_⟩
  rw [← failsWithinMs_iff_failsAhead distinct perm member isSecond]
  exact Python.rowsKeepTime_iff.mpr keepTime row (List.mem_finRange row)

end Tables

/--
In a scenario of links with different keys, the label of a row says whether its
own link fails hard within the next ten minutes.
-/
theorem scenario_labels_look_ahead
    (numpy : SignalNumpy Value)
    (noise : Noise Value)
    (startTsMs : Int)
    {specs : List LinkSpec}
    (distinct : (specs.map LinkSpec.key).Nodup)
    (nonempty : specs ≠ []) :
    ∃ yHorizon,
      (tableOf (generateScenario numpy noise startTsMs
          specs)).addHorizonLabels =
          some {
            tableOf (generateScenario numpy noise startTsMs specs) with
            hardFail := some fun row => (List.get _ row).failsHard
            yHorizon := some yHorizon } ∧
        LooksAhead numpy noise startTsMs specs _ yHorizon := by
  refine addHorizonLabels_tableOf distinct generateScenario_perm ?_
  obtain ⟨spec, member⟩ := List.exists_mem_of_ne_nil _ nonempty
  exact List.ne_nil_of_mem
    (linkRow_mem_generateScenario member (seconds_pos spec))

end Labels

section RealFunctions

open MeasureTheory

/-- The complementary error function. -/
noncomputable def realErfc (x : ℝ) : ℝ :=
  ((2 : Nat) : ℝ) / √Real.pi * ∫ t in Set.Ioi x, Real.exp (-1 * t ^ 2)

/-- The functions that numpy approximates. -/
noncomputable def realSignalNumpy : SignalNumpy ℝ where
  exp := Real.exp
  sin := Real.sin
  sqrt := Real.sqrt
  erfc := realErfc
  power10 x := Real.exp (x * Real.log (10 : Nat))
  pi := Real.pi

theorem realErfc_anti : Antitone realErfc := by
  intro low high atMost
  have integrable :
      IntegrableOn (fun t : ℝ => Real.exp (-1 * t ^ 2)) (Set.Ioi low) :=
    (integrable_exp_neg_mul_sq one_pos).integrableOn
  refine mul_le_mul_of_nonneg_left ?_ (by positivity)
  refine setIntegral_mono_set integrable ?_ ?_
  · exact ae_of_all _ fun t => (Real.exp_pos _).le
  · exact (Set.Ioi_subset_Ioi atMost).eventuallyLE

theorem realSignalNumpy_lawful : realSignalNumpy.Lawful where
  exp_mono := Real.exp_monotone
  exp_zero := Real.exp_zero
  sqrt_mono _ _ atMost := Real.sqrt_le_sqrt atMost
  power10_mono low high atMost :=
    Real.exp_le_exp.mpr
      (mul_le_mul_of_nonneg_right atMost (Real.log_nonneg (by norm_num)))
  power10_pos _ := Real.exp_pos _
  erfc_anti := realErfc_anti

/-- The amplifier of the demo, with the severity as a parameter. -/
def demoAging (severity : Rat) : LinkSpec where
  linkId := "L1"
  label := .edfaAging
  channelId := "C1"
  durationS := 240
  onsetS := 20
  tauS := 45
  severity
  seed := 101
  constants := {}
  durationPositive := by decide
  tauPositive := by norm_num

/-- An amplifier that ages by more does not last longer. -/
theorem harsher_fails_no_later_demo :
    NoLater
      (firstHardFailS
        (generateScenario realSignalNumpy (fun _ _ _ _ _ => 0)
          1710000000000 [demoAging 120]) "L1")
      (firstHardFailS
        (generateScenario realSignalNumpy (fun _ _ _ _ _ => 0)
          1710000000000 [demoAging 90]) "L1") := by
  have order : (demoAging 90).Milder (demoAging 120) := {
    linkId := rfl
    channelId := rfl
    label := rfl
    durationS := rfl
    seed := rfl
    constants := rfl
    severityNonneg := by norm_num [demoAging]
    severity := by norm_num [demoAging]
    onsetS := le_refl (20 : Rat)
    tauS := le_refl (45 : Rat) }
  exact harsher_fails_no_later realSignalNumpy_lawful _ _
    (List.Forall₂.cons order List.Forall₂.nil) "L1"

theorem keys_of_demoSpecs
    {durationS : Int}
    {specs : List LinkSpec}
    (specified : demoSpecs durationS = some specs) :
    specs.map LinkSpec.key =
      [toLex ("L1", "C1"), toLex ("L2", "C1"), toLex ("L3", "C1")] := by
  by_cases positive : 0 < durationS
  · simp only [demoSpecs, LinkSpec.new?, positive] at specified
    norm_num at specified
    rw [← specified]
    rfl
  · simp [demoSpecs, LinkSpec.new?, positive] at specified

theorem keys_nodup_of_demoSpecs
    {durationS : Int}
    {specs : List LinkSpec}
    (specified : demoSpecs durationS = some specs) :
    (specs.map LinkSpec.key).Nodup := by
  rw [keys_of_demoSpecs specified]
  decide

/-- The labels of the demo. -/
theorem scenario_labels_look_ahead_demo :
    ∃ specs yHorizon,
      demoSpecs = some specs ∧
        LooksAhead realSignalNumpy (fun _ _ _ _ _ => 0) 1710000000000 specs
          (generateScenario realSignalNumpy (fun _ _ _ _ _ => 0)
            1710000000000 specs) yHorizon := by
  obtain ⟨specs, specified⟩ : ∃ specs, demoSpecs = some specs :=
    Option.isSome_iff_exists.mp (by decide +kernel)
  have nonempty : specs ≠ [] := by
    have keys := keys_of_demoSpecs specified
    rintro rfl
    cases keys
  obtain ⟨yHorizon, _, looksAhead⟩ :=
    scenario_labels_look_ahead realSignalNumpy (fun _ _ _ _ _ => 0)
      1710000000000 (keys_nodup_of_demoSpecs specified) nonempty
  exact ⟨specs, yHorizon, specified, looksAhead⟩

end RealFunctions

end Corpus

end OpticsSoftfail
