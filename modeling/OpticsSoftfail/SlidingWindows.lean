import Mathlib.Data.List.Basic
import Mathlib.Order.Lattice.Nat

namespace OpticsSoftfail

/-!
# Windows that slide over a list

Every stretch of a length, one of every so many elements, and the maximum over
a trailing window.  Nothing below mentions the optical services.
-/

/-- Every stretch of the given length, from left to right. -/
def slices {Item : Type} (length : Nat) : List Item → List (List Item)
  | [] => []
  | item :: rest =>
      if length ≤ (item :: rest).length then
        (item :: rest).take length :: slices length rest
      else []

theorem slices_eq_nil_of_short
    {Item : Type}
    {length : Nat}
    {items : List Item}
    (short : items.length < length) :
    slices length items = [] := by
  cases items with
  | nil =>
      rfl
  | cons item rest =>
      simp only [slices]
      rw [if_neg (not_le.mpr short)]

/-- A list of exactly the given length has one such stretch: itself. -/
theorem slices_of_length
    {Item : Type}
    {length : Nat}
    {items : List Item}
    (positive : 0 < length)
    (sameLength : items.length = length) :
    slices length items = [items] := by
  cases items with
  | nil =>
      simp only [List.length_nil] at sameLength
      omega
  | cons item rest =>
      have shorter : rest.length < length := by
        rw [← sameLength]
        exact Nat.lt_succ_self _
      rw [slices, if_pos sameLength.ge,
        slices_eq_nil_of_short shorter, ← sameLength,
        List.take_length]

/-- The stretches start at every position that leaves room for them. -/
theorem slices_eq_map_range
    {Item : Type}
    {length : Nat}
    (positive : 0 < length)
    (items : List Item) :
    slices length items =
      (List.range (items.length + 1 - length)).map fun start =>
        (items.drop start).take length := by
  induction items with
  | nil =>
      have none : 0 + 1 - length = 0 := by
        omega
      rw [List.length_nil, none]
      rfl
  | cons item rest inductionHypothesis =>
      rw [slices, inductionHypothesis, List.length_cons]
      split
      · rename_i long
        have oneMore :
            rest.length + 1 + 1 - length =
              (rest.length + 1 - length) + 1 := by
          omega
        rw [oneMore, List.range_succ_eq_map, List.map_cons,
          List.map_map]
        rfl
      · rename_i short
        have none : rest.length + 1 + 1 - length = 0 := by
          omega
        rw [none]
        rfl

theorem mem_of_mem_slices
    {Item : Type}
    {length : Nat}
    {items slice : List Item}
    (member : slice ∈ slices length items) :
    slice.length = length ∧ ∀ item ∈ slice, item ∈ items := by
  induction items with
  | nil =>
      simp [slices] at member
  | cons item rest inductionHypothesis =>
      simp only [slices] at member
      split at member
      · rename_i long
        rcases List.mem_cons.mp member with isFirst | later
        · subst slice
          exact ⟨List.length_take_of_le long,
            fun other inSlice => List.mem_of_mem_take inSlice⟩
        · obtain ⟨sameLength, inRest⟩ := inductionHypothesis later
          exact ⟨sameLength, fun other inSlice =>
            List.mem_cons_of_mem _ (inRest other inSlice)⟩
      · simp at member

/-- A stretch lies in the list without gaps. -/
theorem infix_of_mem_slices
    {Item : Type}
    {length : Nat}
    {items slice : List Item}
    (positive : 0 < length)
    (member : slice ∈ slices length items) :
    slice <:+: items := by
  rw [slices_eq_map_range positive] at member
  obtain ⟨start, _, rfl⟩ := List.mem_map.mp member
  exact (List.take_prefix _ _).isInfix.trans (List.drop_suffix _ _).isInfix

/-- So many stretches fit. -/
theorem length_slices
    {Item : Type}
    {length : Nat}
    (positive : 0 < length)
    (items : List Item) :
    (slices length items).length = items.length + 1 - length := by
  rw [slices_eq_map_range positive, List.length_map, List.length_range]

section Strides

variable {Item : Type}

/-- Skip some elements and then keep one of every `step`. -/
def everyNthFrom (step : Nat) : Nat → List Item → List Item
  | _, [] => []
  | 0, item :: rest => item :: everyNthFrom step (step - 1) rest
  | skipped + 1, _ :: rest => everyNthFrom step skipped rest

/-- One of every `step` elements, the first one included. -/
def everyNth (step : Nat) (items : List Item) : List Item :=
  everyNthFrom step 0 items

theorem everyNthFrom_eq_drop
    (step skipped : Nat)
    (items : List Item) :
    everyNthFrom step skipped items = everyNth step (items.drop skipped) := by
  induction skipped generalizing items with
  | zero =>
      rfl
  | succ skipped inductionHypothesis =>
      cases items with
      | nil =>
          rfl
      | cons item rest =>
          exact inductionHypothesis rest

theorem everyNth_cons
    (step : Nat)
    (item : Item)
    (rest : List Item) :
    everyNth step (item :: rest) =
      item :: everyNth step (rest.drop (step - 1)) := by
  rw [← everyNthFrom_eq_drop]
  rfl

/-- The elements are those at the multiples of the step. -/
theorem getElem?_everyNth
    {step : Nat}
    (positive : 0 < step)
    (items : List Item)
    (position : Nat) :
    (everyNth step items)[position]? = items[position * step]? := by
  induction position generalizing items with
  | zero =>
      cases items with
      | nil =>
          rfl
      | cons item rest =>
          rw [everyNth_cons, Nat.zero_mul]
          rfl
  | succ position inductionHypothesis =>
      cases items with
      | nil =>
          rfl
      | cons item rest =>
          have next :
              (position + 1) * step = step - 1 + position * step + 1 := by
            rw [Nat.succ_mul]
            omega
          rw [everyNth_cons, List.getElem?_cons_succ, inductionHypothesis,
            List.getElem?_drop, next, List.getElem?_cons_succ]

theorem mem_of_mem_everyNthFrom
    {step skipped : Nat}
    {items : List Item}
    {item : Item}
    (member : item ∈ everyNthFrom step skipped items) :
    item ∈ items := by
  induction items generalizing skipped with
  | nil =>
      cases skipped <;> exact member
  | cons first rest inductionHypothesis =>
      cases skipped with
      | zero =>
          rcases List.mem_cons.mp member with isFirst | later
          · exact isFirst ▸ List.mem_cons_self
          · exact List.mem_cons_of_mem _ (inductionHypothesis later)
      | succ skipped =>
          exact List.mem_cons_of_mem _ (inductionHypothesis member)

theorem mem_of_mem_everyNth
    {step : Nat}
    {items : List Item}
    {item : Item}
    (member : item ∈ everyNth step items) :
    item ∈ items :=
  mem_of_mem_everyNthFrom member

/-- How many stretches of a length there are at the multiples of a step. -/
def windowCount (length step total : Nat) : Nat :=
  if total < length then 0 else (total - length) / step + 1

theorem lt_windowCount_iff
    {length step total position : Nat}
    (positive : 0 < step) :
    position < windowCount length step total ↔
      position * step + length ≤ total := by
  rw [windowCount]
  split
  · omega
  · rw [Nat.lt_succ_iff, Nat.le_div_iff_mul_le positive]
    omega

/-- The stretches of a length at the multiples of a step. -/
def stridedSlices (length step : Nat) (items : List Item) : List (List Item) :=
  (List.range (windowCount length step items.length)).map fun position =>
    (items.drop (position * step)).take length

theorem stridedSlices_map
    {Image : Type}
    (function : Item → Image)
    (length step : Nat)
    (items : List Item) :
    stridedSlices length step (items.map function) =
      (stridedSlices length step items).map fun slice =>
        slice.map function := by
  rw [stridedSlices, stridedSlices, List.length_map, List.map_map]
  simp only [Function.comp_def, List.map_take, List.map_drop]

theorem stridedSlices_of_short
    {length : Nat}
    (step : Nat)
    {items : List Item}
    (short : items.length < length) :
    stridedSlices length step items = [] := by
  rw [stridedSlices, windowCount, if_pos short]
  rfl

theorem length_stridedSlices (length step : Nat) (items : List Item) :
    (stridedSlices length step items).length =
      windowCount length step items.length := by
  rw [stridedSlices, List.length_map, List.length_range]

/-- Each of them has its length, and its elements are those of the list. -/
theorem mem_of_mem_stridedSlices
    {length step : Nat}
    {items slice : List Item}
    (stepPos : 0 < step)
    (member : slice ∈ stridedSlices length step items) :
    slice.length = length ∧ ∀ item ∈ slice, item ∈ items := by
  obtain ⟨position, inside, rfl⟩ := List.mem_map.mp member
  have fits := (lt_windowCount_iff stepPos).mp (List.mem_range.mp inside)
  constructor
  · rw [List.length_take, List.length_drop]
    omega
  · exact fun item inSlice =>
      List.mem_of_mem_drop (List.mem_of_mem_take inSlice)

theorem getElem?_range_of_not_lt
    {position count : Nat}
    (beyond : ¬ position < count) :
    (List.range count)[position]? = none :=
  List.getElem?_eq_none (by rw [List.length_range]; omega)

/-- With step one these are all stretches. -/
theorem stridedSlices_one
    {length : Nat}
    (positive : 0 < length)
    (items : List Item) :
    stridedSlices length 1 items = slices length items := by
  have count :
      windowCount length 1 items.length = items.length + 1 - length := by
    rw [windowCount, Nat.div_one]
    split <;> omega
  rw [slices_eq_map_range positive, stridedSlices, count]
  simp only [Nat.mul_one]

/-- Striding over all stretches leaves those at the multiples. -/
theorem everyNth_slices
    {length step : Nat}
    (lengthPos : 0 < length)
    (stepPos : 0 < step)
    (items : List Item) :
    everyNth step (slices length items) = stridedSlices length step items := by
  apply List.ext_getElem?
  intro position
  rw [getElem?_everyNth stepPos, slices_eq_map_range lengthPos, stridedSlices,
    List.getElem?_map, List.getElem?_map]
  by_cases inside : position < windowCount length step items.length
  · have fits := (lt_windowCount_iff stepPos).mp inside
    rw [List.getElem?_range inside, List.getElem?_range (by omega)]
    rfl
  · have beyond := mt (lt_windowCount_iff stepPos).mpr inside
    rw [getElem?_range_of_not_lt inside,
      getElem?_range_of_not_lt (by omega)]
    rfl

/-- Striding from the end of the first stretch on meets the ends of these. -/
theorem everyNth_drop
    {length step : Nat}
    (lengthPos : 0 < length)
    (stepPos : 0 < step)
    (items : List Item) :
    (everyNth step (items.drop (length - 1))).map some =
      (stridedSlices length step items).map List.getLast? := by
  apply List.ext_getElem?
  intro position
  rw [stridedSlices, List.map_map, List.getElem?_map, List.getElem?_map,
    getElem?_everyNth stepPos, List.getElem?_drop]
  by_cases inside : position < windowCount length step items.length
  · have fits := (lt_windowCount_iff stepPos).mp inside
    have isLast :
        ((items.drop (position * step)).take length).getLast? =
          items[length - 1 + position * step]? := by
      rw [List.getLast?_eq_getElem?, List.getElem?_take, List.length_take,
        List.length_drop, min_eq_left (by omega), if_pos (by omega),
        List.getElem?_drop, Nat.add_comm]
    have there : length - 1 + position * step < items.length := by
      omega
    rw [List.getElem?_range inside, Option.map_some, Function.comp_apply,
      isLast, List.getElem?_eq_getElem there]
    rfl
  · have beyond := mt (lt_windowCount_iff stepPos).mpr inside
    rw [getElem?_range_of_not_lt inside, List.getElem?_eq_none (by omega)]
    rfl

end Strides

section TrailingMaxima

/-- The maximum of each value and those before it, of a window at most. -/
def trailingMax (window : Nat) (values : List Nat) : List Nat :=
  (List.range values.length).map fun position =>
    ((values.take (position + 1)).drop (position + 1 - window)).foldr max 0

/-- Read from the end, the window leads instead of trailing. -/
theorem reverse_trailingMax_reverse
    (window : Nat)
    (values : List Nat) :
    (trailingMax window values.reverse).reverse =
      (List.range values.length).map fun position =>
        ((values.drop position).take window).foldr max 0 := by
  apply List.ext_getElem
  · simp [trailingMax]
  · intro position inside _
    have within : position < values.length := by
      simpa [trailingMax] using inside
    have prefixLength :
        values.length - 1 - position + 1 = values.length - position := by
      omega
    have suffix :
        values.length - (values.length - position) = position := by
      omega
    simp only [trailingMax, List.getElem_reverse, List.length_map,
      List.length_range, List.getElem_map, List.getElem_range,
      List.length_reverse, prefixLength, List.take_reverse, suffix,
      List.drop_reverse, List.length_drop]
    have sameTake :
        (values.drop position).take
            (values.length - position - (values.length - position - window)) =
          (values.drop position).take window := by
      rw [List.take_eq_take_iff, List.length_drop]
      omega
    rw [sameTake]
    exact (List.reverse_perm _).foldr_eq 0

/-- A maximum of zeros and ones is one when one of them is. -/
theorem foldr_max_indicator
    {Item : Type}
    (flagged : Item → Bool)
    (items : List Item) :
    (items.map fun item => (flagged item).toNat).foldr max 0 =
      (items.any flagged).toNat := by
  induction items with
  | nil =>
      rfl
  | cons item rest inductionHypothesis =>
      rw [List.map_cons, List.foldr_cons, inductionHypothesis, List.any_cons]
      cases flagged item <;> cases rest.any flagged <;> rfl

/-- A zero behind the values does not change the maximum. -/
theorem foldr_max_take_concat_zero
    (count : Nat)
    (values : List Nat) :
    ((values ++ [0]).take count).foldr max 0 =
      (values.take count).foldr max 0 := by
  have padding (missing : Nat) : ([0].take missing).foldr max 0 = 0 := by
    cases missing with
    | zero =>
        rfl
    | succ missing =>
        simp
  rw [List.take_append, List.foldr_append, padding]

end TrailingMaxima

end OpticsSoftfail
