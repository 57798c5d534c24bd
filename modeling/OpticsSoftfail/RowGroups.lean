import Mathlib.Data.List.Dedup
import Mathlib.Data.List.Sort

namespace OpticsSoftfail

/-!
# Rows grouped by a key and ordered by a stamp

The rows of one key in the order of their stamps are its timeline.  How far two
of its rows are apart is how many rows of the key lie between them.  Nothing
below mentions the optical services.
-/

namespace RowGroups

variable {Row Key Stamp : Type}

/-- The keys of the rows, each once, in the order of their first rows. -/
def groupKeys
    [DecidableEq Key]
    (key : Row → Key)
    (rows : List Row) : List Key :=
  (rows.map key).reverse.dedup.reverse

/-- The rows of one key. -/
def group
    [DecidableEq Key]
    (key : Row → Key)
    (rows : List Row)
    (value : Key) : List Row :=
  rows.filter fun row => key row = value

/-- The rows in the order of their stamps. -/
def ordered
    [LinearOrder Stamp]
    (stamp : Row → Stamp)
    (rows : List Row) : List Row :=
  rows.insertionSort fun first later => stamp first ≤ stamp later

section Keys

variable [DecidableEq Key] {key : Row → Key} {rows : List Row}

@[simp] theorem mem_groupKeys {value : Key} :
    value ∈ groupKeys key rows ↔ ∃ row ∈ rows, key row = value := by
  simp [groupKeys]

theorem groupKeys_nodup : (groupKeys key rows).Nodup :=
  List.nodup_reverse.mpr (List.nodup_dedup _)

@[simp] theorem mem_group {value : Key} {row : Row} :
    row ∈ group key rows value ↔ row ∈ rows ∧ key row = value := by
  simp [group]

/-- The groups of some keys are the rows with one of these keys. -/
theorem flatMap_group_perm
    {keys : List Key}
    (distinct : keys.Nodup) :
    (keys.flatMap (group key rows)).Perm
      (rows.filter fun row => key row ∈ keys) := by
  induction keys with
  | nil =>
      simp
  | cons value rest inductionHypothesis =>
      obtain ⟨isNew, distinctRest⟩ := List.nodup_cons.mp distinct
      have ofValue :
          (rows.filter fun row => key row ∈ value :: rest).filter
              (fun row => key row = value) =
            group key rows value := by
        rw [List.filter_filter, group]
        refine List.filter_congr fun row _ => ?_
        by_cases same : key row = value <;> simp [same]
      have ofRest :
          (rows.filter fun row => key row ∈ value :: rest).filter
              (fun row => !decide (key row = value)) =
            rows.filter fun row => key row ∈ rest := by
        rw [List.filter_filter]
        refine List.filter_congr fun row _ => ?_
        by_cases same : key row = value <;> simp [same, isNew]
      have parts := List.filter_append_perm
        (fun row => decide (key row = value))
        (rows.filter fun row => key row ∈ value :: rest)
      rw [ofValue, ofRest] at parts
      rw [List.flatMap_cons]
      exact ((inductionHypothesis distinctRest).append_left _).trans parts

/-- Of pieces with different keys, the rows of one key are its piece. -/
theorem filter_flatMap_eq
    {Item : Type}
    {itemKey : Item → Key}
    {piece : Item → List Row}
    (keyed : ∀ item, ∀ row ∈ piece item, key row = itemKey item)
    {items : List Item}
    (distinct : (items.map itemKey).Nodup)
    {item : Item}
    (member : item ∈ items) :
    (items.flatMap piece).filter (fun row => key row = itemKey item) =
      piece item := by
  have elsewhere
      (others : List Item)
      (absent : itemKey item ∉ others.map itemKey) :
      (others.flatMap piece).filter (fun row => key row = itemKey item) =
        [] := by
    refine List.filter_eq_nil_iff.mpr fun row inPieces => ?_
    obtain ⟨other, inOthers, inPiece⟩ := List.mem_flatMap.mp inPieces
    rw [decide_eq_true_iff, keyed other row inPiece]
    exact fun same => absent (List.mem_map.mpr ⟨other, inOthers, same⟩)
  obtain ⟨before, after, rfl⟩ := List.append_of_mem member
  rw [List.map_append, List.map_cons] at distinct
  have notBefore := (List.nodup_append.mp distinct).2.2
  have notAfter := (List.nodup_cons.mp (List.nodup_append.mp distinct).2.1).1
  rw [List.flatMap_append, List.flatMap_cons, List.filter_append,
    List.filter_append, elsewhere before, elsewhere after notAfter,
    List.filter_eq_self.mpr, List.nil_append, List.append_nil]
  · exact fun row inPiece => decide_eq_true (keyed item row inPiece)
  · exact fun inBefore =>
      notBefore _ inBefore _ List.mem_cons_self rfl

end Keys

section Sorted

variable [LinearOrder Key] {key : Row → Key} {rows : List Row}

/-- The keys in ascending order. -/
def sortedKeys (key : Row → Key) (rows : List Row) : List Key :=
  (groupKeys key rows).insertionSort (· ≤ ·)

theorem mem_sortedKeys {value : Key} :
    value ∈ sortedKeys key rows ↔ ∃ row ∈ rows, key row = value := by
  rw [sortedKeys, List.mem_insertionSort, mem_groupKeys]

theorem sortedKeys_pairwise :
    (sortedKeys key rows).Pairwise (· < ·) := by
  have distinct : (sortedKeys key rows).Nodup :=
    (List.perm_insertionSort _ _).nodup_iff.mpr groupKeys_nodup
  have ascending : (sortedKeys key rows).Pairwise (· ≤ ·) :=
    List.pairwise_insertionSort _ _
  exact ascending.imp₂ (fun _ _ atMost differ => atMost.lt_of_ne differ)
    distinct

end Sorted

section Timelines

variable [LinearOrder Stamp]

/-- No two rows of one key have one stamp. -/
def DistinctStamps
    (key : Row → Key)
    (stamp : Row → Stamp)
    (rows : List Row) : Prop :=
  ∀ row ∈ rows, ∀ other ∈ rows,
    key row = key other → stamp row = stamp other → row = other

/-- The rows of a key in the order of their stamps. -/
structure IsTimeline
    (key : Row → Key)
    (stamp : Row → Stamp)
    (rows : List Row)
    (value : Key)
    (timeline : List Row) : Prop where
  increasing : timeline.Pairwise fun first later => stamp first < stamp later
  mem_iff : ∀ row, row ∈ timeline ↔ row ∈ rows ∧ key row = value

variable {key : Row → Key} {stamp : Row → Stamp} {rows timeline : List Row}
variable {value : Key}

theorem isTimeline_ordered
    [DecidableEq Key]
    (nodup : rows.Nodup)
    (distinct : DistinctStamps key stamp rows)
    (value : Key) :
    IsTimeline key stamp rows value (ordered stamp (group key rows value)) where
  increasing := by
    have sorted :
        (ordered stamp (group key rows value)).Pairwise
          fun first later => stamp first ≤ stamp later :=
      List.pairwise_insertionSort _ _
    have differ : (ordered stamp (group key rows value)).Nodup :=
      (List.perm_insertionSort _ _).nodup_iff.mpr (nodup.filter _)
    refine (sorted.and differ).imp_of_mem ?_
    rintro first later firstMember laterMember ⟨atMost, unequal⟩
    obtain ⟨firstRow, firstKey⟩ :=
      mem_group.mp ((List.mem_insertionSort _).mp firstMember)
    obtain ⟨laterRow, laterKey⟩ :=
      mem_group.mp ((List.mem_insertionSort _).mp laterMember)
    refine atMost.lt_of_ne fun same => unequal ?_
    exact distinct first firstRow later laterRow
      (firstKey.trans laterKey.symm) same
  mem_iff row := by
    rw [ordered, List.mem_insertionSort, mem_group]

/-- Rows with different stamps have one order only. -/
theorem eq_of_perm_of_increasing
    {sorted : List Row}
    (nondecreasing :
      sorted.Pairwise fun first later => stamp first ≤ stamp later)
    (increasing :
      timeline.Pairwise fun first later => stamp first < stamp later)
    (perm : sorted.Perm timeline) :
    sorted = timeline := by
  refine List.Perm.eq_of_pairwise ?_ nondecreasing
    (increasing.imp fun less => less.le) perm
  intro first later firstMember laterMember atMost atLeast
  have distinct : (timeline.map stamp).Nodup :=
    List.pairwise_map.mpr (increasing.imp fun less => less.ne)
  exact List.inj_on_of_nodup_map distinct (perm.mem_iff.mp firstMember)
    laterMember (atMost.antisymm atLeast)

theorem ordered_eq
    (increasing :
      timeline.Pairwise fun first later => stamp first < stamp later)
    (perm : rows.Perm timeline) :
    ordered stamp rows = timeline :=
  eq_of_perm_of_increasing (List.pairwise_insertionSort _ _) increasing
    ((List.perm_insertionSort _ rows).trans perm)

/-- Ordering commutes with what the rows stand for. -/
theorem map_ordered
    {Item : Type}
    (itemOf : Row → Item)
    (itemStamp : Item → Stamp)
    (rows : List Row) :
    (ordered (fun row => itemStamp (itemOf row)) rows).map itemOf =
      ordered itemStamp (rows.map itemOf) :=
  List.map_insertionSort _ _ itemOf rows fun _ _ _ _ => Iff.rfl

/-- Such rows stand in their order after all have been sorted. -/
theorem filter_ordered_eq
    {passes : Row → Bool}
    (increasing :
      timeline.Pairwise fun first later => stamp first < stamp later)
    (perm : (rows.filter passes).Perm timeline) :
    (ordered stamp rows).filter passes = timeline :=
  eq_of_perm_of_increasing ((List.pairwise_insertionSort _ _).filter _)
    increasing (((List.perm_insertionSort _ rows).filter passes).trans perm)

namespace IsTimeline

theorem nodup (isTimeline : IsTimeline key stamp rows value timeline) :
    timeline.Nodup :=
  isTimeline.increasing.imp fun less same => (same ▸ less).false

/-- A later row has the later stamp. -/
theorem stamp_lt_iff
    (isTimeline : IsTimeline key stamp rows value timeline)
    {low high : Nat}
    {first later : Row}
    (atLow : timeline[low]? = some first)
    (atHigh : timeline[high]? = some later) :
    stamp first < stamp later ↔ low < high := by
  obtain ⟨lowInside, rfl⟩ := List.getElem?_eq_some_iff.mp atLow
  obtain ⟨highInside, rfl⟩ := List.getElem?_eq_some_iff.mp atHigh
  have increasing := List.pairwise_iff_getElem.mp isTimeline.increasing
  constructor
  · intro less
    rcases lt_trichotomy low high with before | same | after
    · exact before
    · subst same
      exact absurd less (lt_irrefl _)
    · exact absurd less (increasing high low highInside lowInside after).asymm
  · exact increasing low high lowInside highInside

end IsTimeline

end Timelines

section Between

variable [DecidableEq Key] [LinearOrder Stamp]

/-- The rows of the first row's key with a stamp strictly between. -/
def between
    (key : Row → Key)
    (stamp : Row → Stamp)
    (rows : List Row)
    (first later : Row) : List Row :=
  rows.filter fun row =>
    key row = key first ∧ stamp first < stamp row ∧ stamp row < stamp later

/-- The later row is one of the next `count` rows of its key. -/
def AmongNext
    (key : Row → Key)
    (stamp : Row → Stamp)
    (rows : List Row)
    (count : Nat)
    (first later : Row) : Prop :=
  later ∈ rows ∧ key later = key first ∧ stamp first < stamp later ∧
    (between key stamp rows first later).length < count

variable {key : Row → Key} {stamp : Row → Stamp} {rows timeline : List Row}
variable {value : Key}

/-- Between two rows of a timeline lie those between their positions. -/
theorem IsTimeline.length_between
    (isTimeline : IsTimeline key stamp rows value timeline)
    (nodup : rows.Nodup)
    {low high : Nat}
    {first later : Row}
    (atLow : timeline[low]? = some first)
    (atHigh : timeline[high]? = some later) :
    (between key stamp rows first later).length = high - (low + 1) := by
  have sameKey : key first = value :=
    ((isTimeline.mem_iff first).mp (List.mem_of_getElem? atLow)).2
  have highInside : high < timeline.length :=
    (List.getElem?_eq_some_iff.mp atHigh).choose
  have perm :
      (between key stamp rows first later).Perm
        ((timeline.take high).drop (low + 1)) := by
    have middle := (List.drop_sublist (low + 1) (timeline.take high)).trans
      (List.take_sublist high timeline)
    rw [between, List.perm_ext_iff_of_nodup (nodup.filter _)
      (isTimeline.nodup.sublist middle)]
    intro row
    rw [List.mem_filter, decide_eq_true_iff, sameKey, ← and_assoc,
      ← isTimeline.mem_iff, List.mem_drop_iff_getElem]
    constructor
    · rintro ⟨member, after, before⟩
      obtain ⟨position, inside, rfl⟩ := List.getElem_of_mem member
      have atPosition : timeline[position]? = some timeline[position] :=
        List.getElem?_eq_getElem inside
      have low_lt := (isTimeline.stamp_lt_iff atLow atPosition).mp after
      have lt_high := (isTimeline.stamp_lt_iff atPosition atHigh).mp before
      refine ⟨position - (low + 1), ?_, ?_⟩
      · rw [List.length_take]
        omega
      · rw [List.getElem_take]
        congr 1
        omega
    · rintro ⟨position, inside, rfl⟩
      rw [List.length_take] at inside
      rw [List.getElem_take]
      have atPosition :
          timeline[low + 1 + position]? = some (timeline[low + 1 + position]) :=
        List.getElem?_eq_getElem (by omega)
      exact ⟨List.getElem_mem _,
        (isTimeline.stamp_lt_iff atLow atPosition).mpr (by omega),
        (isTimeline.stamp_lt_iff atPosition atHigh).mpr (by omega)⟩
  rw [perm.length_eq, List.length_drop, List.length_take,
    min_eq_left highInside.le]

/-- The next rows of a row are those at the next positions of its timeline. -/
theorem IsTimeline.mem_next_iff
    (isTimeline : IsTimeline key stamp rows value timeline)
    (nodup : rows.Nodup)
    {position : Nat}
    {row : Row}
    (atPosition : timeline[position]? = some row)
    (count : Nat)
    (later : Row) :
    later ∈ (timeline.drop (position + 1)).take count ↔
      AmongNext key stamp rows count row later := by
  have sameKey : key row = value :=
    ((isTimeline.mem_iff row).mp (List.mem_of_getElem? atPosition)).2
  rw [AmongNext, sameKey, ← and_assoc, ← isTimeline.mem_iff]
  constructor
  · intro member
    obtain ⟨offset, inside, isLater⟩ := List.mem_take_iff_getElem.mp member
    rw [List.length_drop, Nat.lt_min] at inside
    rw [List.getElem_drop] at isLater
    have atLater : timeline[position + 1 + offset]? = some later :=
      List.getElem?_eq_some_iff.mpr ⟨by omega, isLater⟩
    refine ⟨List.mem_of_getElem? atLater,
      (isTimeline.stamp_lt_iff atPosition atLater).mpr (by omega), ?_⟩
    rw [isTimeline.length_between nodup atPosition atLater]
    omega
  · rintro ⟨member, after, fewer⟩
    obtain ⟨high, highInside, isLater⟩ := List.getElem_of_mem member
    have atLater : timeline[high]? = some later :=
      List.getElem?_eq_some_iff.mpr ⟨highInside, isLater⟩
    have before := (isTimeline.stamp_lt_iff atPosition atLater).mp after
    rw [isTimeline.length_between nodup atPosition atLater] at fewer
    refine List.mem_take_iff_getElem.mpr ⟨high - (position + 1), ?_, ?_⟩
    · rw [List.length_drop, Nat.lt_min]
      omega
    · rw [List.getElem_drop]
      exact (by congr 1; omega : _ = timeline[high]).trans isLater

end Between

end RowGroups

end OpticsSoftfail
