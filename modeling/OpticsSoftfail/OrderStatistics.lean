import Mathlib.Algebra.Order.Field.Basic
import Mathlib.Algebra.Order.Floor.Ring
import Mathlib.Data.List.GetD
import Mathlib.Data.List.Sort
import Mathlib.Data.Rat.Floor
import Mathlib.Tactic.Linarith

namespace OpticsSoftfail

/-!
# Order statistics and quantiles

The values of a list in ascending order, how many of them reach a bound, and
the quantile that interpolates between two neighbours.  Nothing below mentions
the optical services.
-/

namespace OrderStatistics

variable {Value : Type}

section Ranks

variable [LinearOrder Value]

/-- What reaches a bound is above it or ties with it. -/
theorem countP_le_eq_add_count
    (values : List Value)
    (bound : Value) :
    values.countP (fun value => bound ≤ value) =
      values.countP (fun value => bound < value) + values.count bound := by
  induction values with
  | nil =>
      rfl
  | cons value rest inductionHypothesis =>
      rw [List.countP_cons, List.countP_cons, List.count_cons,
        inductionHypothesis]
      rcases lt_trichotomy bound value with below | rfl | above
      · simp [below, below.le, below.ne']
        omega
      · simp
        omega
      · simp [above.not_ge, above.not_gt, above.ne]

variable [Zero Value]

/-- The value at a position of the ascending order, counted from zero. -/
def ranked (values : List Value) (position : Nat) : Value :=
  (values.insertionSort (· ≤ ·)).getD position 0

/-- The values in ascending order. -/
abbrev ascending (values : List Value) : List Value :=
  values.insertionSort (· ≤ ·)

theorem ranked_eq_getElem
    {values : List Value}
    {position : Nat}
    (inside : position < (ascending values).length) :
    ranked values position = (ascending values)[position] :=
  List.getD_eq_getElem _ _ inside

theorem ranked_mono
    {values : List Value}
    {low high : Nat}
    (ordered : low ≤ high)
    (inside : high < values.length) :
    ranked values low ≤ ranked values high := by
  rw [← List.length_insertionSort (· ≤ ·)] at inside
  rw [ranked_eq_getElem inside,
    ranked_eq_getElem (ordered.trans_lt inside)]
  exact List.sortedLE_insertionSort.getElem_le_getElem_of_le ordered

/-- In an ascending list the positions are those of the list. -/
theorem ranked_of_pairwise
    {values : List Value}
    (sorted : values.Pairwise (· ≤ ·))
    (position : Nat) :
    ranked values position = values.getD position 0 := by
  rw [ranked, sorted.insertionSort_eq]

/-- Different values are in strictly ascending order. -/
theorem ranked_strictMono
    {values : List Value}
    (distinct : values.Nodup)
    {low high : Nat}
    (ordered : low < high)
    (inside : high < values.length) :
    ranked values low < ranked values high := by
  refine lt_of_le_of_ne (ranked_mono ordered.le inside) ?_
  rw [← List.length_insertionSort (· ≤ ·)] at inside
  rw [ranked_eq_getElem inside, ranked_eq_getElem (ordered.trans inside)]
  intro same
  have sorted : (ascending values).Nodup :=
    (List.perm_insertionSort _ values).nodup_iff.mpr distinct
  exact ordered.ne (sorted.getElem_inj_iff.mp same)

/-- At most so many values reach a bound as stand above one that does not. -/
theorem countP_le_iff_ranked_lt
    {values : List Value}
    {bound : Value}
    {count : Nat}
    (fewer : count < values.length) :
    values.countP (fun value => bound ≤ value) ≤ count ↔
      ranked values (values.length - 1 - count) < bound := by
  have length : (ascending values).length = values.length :=
    List.length_insertionSort _ values
  have sameCount :
      (ascending values).countP (fun value => bound ≤ value) =
        values.countP (fun value => bound ≤ value) :=
    (List.perm_insertionSort _ values).countP_eq _
  have position : values.length - 1 - count < values.length := by omega
  constructor
  · intro few
    by_contra notBelow
    have reaches :
        ∀ value ∈ (ascending values).drop (values.length - 1 - count),
          bound ≤ value := by
      intro value member
      obtain ⟨index, inside, rfl⟩ := List.mem_drop_iff_getElem.mp member
      rw [← ranked_eq_getElem (by omega)]
      exact (not_lt.mp notBelow).trans (ranked_mono (by omega) (by omega))
    have many :
        ((ascending values).drop (values.length - 1 - count)).countP
            (fun value => bound ≤ value) = count + 1 := by
      rw [List.countP_eq_length.mpr (by simpa using reaches),
        List.length_drop, length]
      omega
    have atMost :=
      (List.drop_sublist (values.length - 1 - count)
        (ascending values)).countP_le (p := fun value => bound ≤ value)
    omega
  · intro below
    have misses :
        ∀ value ∈ (ascending values).take (values.length - count),
          ¬ bound ≤ value := by
      intro value member
      obtain ⟨index, inside, rfl⟩ := List.mem_take_iff_getElem.mp member
      rw [← ranked_eq_getElem (by omega)]
      exact not_le.mpr ((ranked_mono (by omega) position).trans_lt below)
    have none :
        ((ascending values).take (values.length - count)).countP
            (fun value => bound ≤ value) = 0 := by
      rw [List.countP_eq_zero]
      simpa using misses
    have split := congrArg (List.countP fun value => decide (bound ≤ value))
      (List.take_append_drop (values.length - count) (ascending values))
    rw [List.countP_append, none, sameCount] at split
    have atMost :=
      List.countP_le_length (p := fun value => decide (bound ≤ value))
        (l := (ascending values).drop (values.length - count))
    rw [List.length_drop, length] at atMost
    omega

/-- So many values are at most a bound as stand up to one that is. -/
theorem lt_countP_of_ranked_le
    {values : List Value}
    {bound : Value}
    {position : Nat}
    (inside : position < values.length)
    (atMost : ranked values position ≤ bound) :
    position < values.countP fun value => value ≤ bound := by
  have length : (ascending values).length = values.length :=
    List.length_insertionSort _ values
  have below :
      ∀ value ∈ (ascending values).take (position + 1), value ≤ bound := by
    intro value member
    obtain ⟨index, within, rfl⟩ := List.mem_take_iff_getElem.mp member
    rw [← ranked_eq_getElem (by omega)]
    exact (ranked_mono (by omega) inside).trans atMost
  calc
    position + 1 =
        ((ascending values).take (position + 1)).countP
          (fun value => value ≤ bound) := by
      rw [List.countP_eq_length.mpr (by simpa using below), List.length_take,
        length]
      omega
    _ ≤ (ascending values).countP fun value => value ≤ bound :=
      (List.take_sublist _ _).countP_le
    _ = values.countP fun value => value ≤ bound :=
      (List.perm_insertionSort _ values).countP_eq _

end Ranks

section Quantiles

variable [Field Value] [LinearOrder Value] [IsStrictOrderedRing Value]

/-- A point strictly between two values, or at both of them. -/
theorem lt_interpolation_iff
    {below low high gamma : Value}
    (atMost : below ≤ low)
    (ordered : low ≤ high)
    (positive : 0 < gamma)
    (proper : gamma ≤ 1) :
    below < low + gamma * (high - low) ↔ below < high := by
  constructor
  · intro less
    have atMostHigh : gamma * (high - low) ≤ 1 * (high - low) :=
      mul_le_mul_of_nonneg_right proper (sub_nonneg.mpr ordered)
    linarith
  · intro less
    rcases ordered.eq_or_lt with same | strict
    · rw [same, sub_self, mul_zero, add_zero]
      exact less
    · have step : 0 < gamma * (high - low) :=
        mul_pos positive (sub_pos.mpr strict)
      linarith

variable [FloorRing Value]

/-- The position of a quantile, between two neighbours in general. -/
def virtualIndex (values : List Value) (q : Value) : Value :=
  q * (values.length - 1)

/-- `np.quantile(values, q)`, with linear interpolation. -/
def quantile (values : List Value) (q : Value) : Value :=
  let virtual := virtualIndex values q
  let previous := ⌊virtual⌋.toNat
  let next := min (previous + 1) (values.length - 1)
  let gamma := virtual - ⌊virtual⌋
  ranked values previous +
    gamma * (ranked values next - ranked values previous)

/--
A value in front of the position of a quantile is below the quantile exactly
when it is below the upper of the quantile's neighbours.
-/
theorem ranked_lt_quantile_iff
    {values : List Value}
    {q : Value}
    (nonneg : 0 ≤ q)
    (atMostOne : q ≤ 1)
    (nonempty : values ≠ [])
    {position : Nat}
    (before : (position : Value) ≤ virtualIndex values q) :
    ranked values position < quantile values q ↔
      ranked values position <
        ranked values ⌈virtualIndex values q⌉.toNat := by
  have count : 1 ≤ values.length := List.length_pos_of_ne_nil nonempty
  have lastNonneg : (0 : Value) ≤ values.length - 1 := by
    have asValue : (1 : Value) ≤ values.length := by exact_mod_cast count
    linarith
  have virtualNonneg : 0 ≤ virtualIndex values q :=
    mul_nonneg nonneg lastNonneg
  have virtualLast : virtualIndex values q ≤ (values.length - 1 : Nat) := by
    rw [Nat.cast_sub count, Nat.cast_one]
    calc
      q * (values.length - 1) ≤ 1 * (values.length - 1) :=
        mul_le_mul_of_nonneg_right atMostOne lastNonneg
      _ = values.length - 1 := one_mul _
  simp only [quantile]
  generalize virtualIndex values q = virtual at *
  obtain ⟨previous, isPrevious⟩ :=
    Int.eq_ofNat_of_zero_le (Int.floor_nonneg.mpr virtualNonneg)
  have positionLe : position ≤ previous := by
    have floorLe : (position : Int) ≤ ⌊virtual⌋ :=
      Int.le_floor.mpr (by exact_mod_cast before)
    omega
  have previousLe : (previous : Value) ≤ virtual := by
    exact_mod_cast Int.le_floor.mp isPrevious.ge
  have lessNext : virtual < previous + 1 := by
    exact_mod_cast Int.floor_lt.mp (by omega : ⌊virtual⌋ < previous + 1)
  rw [isPrevious]
  rcases previousLe.eq_or_lt with isInteger | between
  · simp [← isInteger]
  · have isCeil : ⌈virtual⌉ = previous + 1 := by
      rw [Int.ceil_eq_iff]
      push_cast
      exact ⟨by linarith, lessNext.le⟩
    have inside : previous < values.length - 1 := by
      exact_mod_cast between.trans_le virtualLast
    have next : min (previous + 1) (values.length - 1) = previous + 1 := by
      omega
    have atMost : ranked values position ≤ ranked values previous :=
      ranked_mono positionLe (by omega)
    have ordered :
        ranked values previous ≤ ranked values (previous + 1) :=
      ranked_mono (Nat.le_succ previous) (by omega)
    have toNat : ((previous : Int) + 1).toNat = previous + 1 := rfl
    rw [isCeil, toNat, Int.toNat_natCast, next, Int.cast_natCast]
    exact lt_interpolation_iff atMost ordered (by linarith) (by linarith)

/-- The position of a quantile is one of the positions. -/
theorem exists_floor_virtualIndex
    {values : List Value}
    {q : Value}
    (nonneg : 0 ≤ q)
    (atMostOne : q ≤ 1)
    (nonempty : values ≠ []) :
    ∃ previous : Nat,
      ⌊virtualIndex values q⌋ = previous ∧ previous < values.length := by
  have count : 1 ≤ values.length := List.length_pos_of_ne_nil nonempty
  have lastNonneg : (0 : Value) ≤ (values.length - 1 : Nat) :=
    Nat.cast_nonneg _
  have isLast : ((values.length - 1 : Nat) : Value) = values.length - 1 := by
    rw [Nat.cast_sub count, Nat.cast_one]
  have virtualNonneg : 0 ≤ virtualIndex values q :=
    mul_nonneg nonneg (isLast ▸ lastNonneg)
  obtain ⟨previous, isPrevious⟩ :=
    Int.eq_ofNat_of_zero_le (Int.floor_nonneg.mpr virtualNonneg)
  refine ⟨previous, isPrevious, ?_⟩
  have atMostLast : (previous : Value) ≤ (values.length - 1 : Nat) := by
    calc
      (previous : Value) = (⌊virtualIndex values q⌋ : Value) := by
        rw [isPrevious, Int.cast_natCast]
      _ ≤ virtualIndex values q :=
        Int.floor_le _
      _ ≤ 1 * (values.length - 1) :=
        mul_le_mul_of_nonneg_right atMostOne (isLast ▸ lastNonneg)
      _ = (values.length - 1 : Nat) := by
        rw [one_mul, isLast]
  have within : previous ≤ values.length - 1 := by
    exact_mod_cast atMostLast
  omega

/-- A quantile is not below the value at its position. -/
theorem ranked_floor_le_quantile
    {values : List Value}
    {q : Value}
    (nonneg : 0 ≤ q)
    (atMostOne : q ≤ 1)
    (nonempty : values ≠ []) :
    ranked values ⌊virtualIndex values q⌋.toNat ≤ quantile values q := by
  obtain ⟨previous, isPrevious, inside⟩ :=
    exists_floor_virtualIndex nonneg atMostOne nonempty
  have ordered :
      ranked values previous ≤
        ranked values (min (previous + 1) (values.length - 1)) :=
    ranked_mono (by omega) (by omega)
  have fraction :
      0 ≤ virtualIndex values q - ⌊virtualIndex values q⌋ :=
    sub_nonneg.mpr (Int.floor_le _)
  simp only [quantile]
  rw [isPrevious, Int.toNat_natCast] at *
  exact le_add_of_nonneg_right
    (mul_nonneg fraction (sub_nonneg.mpr ordered))

/-- So many values are at most a quantile as stand up to its position. -/
theorem floor_lt_countP_le_quantile
    {values : List Value}
    {q : Value}
    (nonneg : 0 ≤ q)
    (atMostOne : q ≤ 1)
    (nonempty : values ≠ []) :
    ⌊virtualIndex values q⌋ <
      (values.countP fun value => value ≤ quantile values q : Nat) := by
  have atMost := ranked_floor_le_quantile nonneg atMostOne nonempty
  obtain ⟨previous, isPrevious, inside⟩ :=
    exists_floor_virtualIndex nonneg atMostOne nonempty
  rw [isPrevious, Int.toNat_natCast] at atMost
  rw [isPrevious]
  exact_mod_cast lt_countP_of_ranked_le inside atMost

/-- Few values are above a high quantile, whatever values are equal. -/
theorem countP_quantile_lt_le
    {values : List Value}
    {rate : Value}
    (nonneg : 0 ≤ rate)
    (atMostOne : rate ≤ 1)
    (nonempty : values ≠ []) :
    (values.countP (fun value => quantile values (1 - rate) < value) : Int) ≤
      ⌈rate * (values.length - 1)⌉ := by
  have parts :=
    values.length_eq_countP_add_countP
      (fun value => value ≤ quantile values (1 - rate))
  simp only [decide_eq_true_eq, not_le] at parts
  have enough :=
    floor_lt_countP_le_quantile (q := 1 - rate) (sub_nonneg.mpr atMostOne)
      (sub_le_self 1 nonneg) nonempty
  have position :
      ⌊virtualIndex values (1 - rate)⌋ =
        values.length - 1 - ⌈rate * ((values.length : Value) - 1)⌉ := by
    have shifted :
        virtualIndex values (1 - rate) =
          -(rate * ((values.length : Value) - 1)) +
            ((values.length - 1 : Int) : Value) := by
      rw [virtualIndex]
      push_cast
      ring
    rw [shifted, Int.floor_add_intCast, Int.floor_neg]
    ring
  omega

/-- Half way between the two middle values, and nearer to the upper one. -/
example :
    quantile [4, 1, 3, 2] (1 / 2 : Rat) = 5 / 2 ∧
      quantile [4, 1, 3, 2] (3 / 5 : Rat) = 14 / 5 := by
  decide +kernel

end Quantiles

end OrderStatistics

end OpticsSoftfail
