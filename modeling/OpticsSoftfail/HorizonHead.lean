import Mathlib.Analysis.SpecialFunctions.Log.Basic
import OpticsSoftfail.OrderStatistics

namespace OpticsSoftfail

/-!
# The calibration of the horizon head

The head maps a combined anomaly score to a probability.  Calibration moves
its midpoint to the right until the nominal scores clear the threshold.  The
results are about real numbers, with `numpy.exp` and `numpy.log` the real
functions.
-/

namespace Python

open OrderStatistics

/-- `numpy.exp` and `numpy.log`. -/
structure LogisticNumpy (Value : Type) where
  exp : Value → Value
  log : Value → Value

section Model

variable {Value : Type} [Field Value]

def HORIZON_S : Int := 600

def DEFAULT_K : Value := (12 : Nat)

def DEFAULT_S0 : Value := (55 : Nat) / (100 : Nat)

def P_FAIL_THRESHOLD : Value := (7 : Nat) / (10 : Nat)

def TARGET_NOMINAL_FPR : Value := (2 : Nat) / (1000 : Nat)

/-- Logistic map from the combined anomaly score to `p_fail_10m`. -/
structure HorizonHead (Value : Type) [Field Value] where
  k : Value := DEFAULT_K
  s0 : Value := DEFAULT_S0
  horizonS : Int := HORIZON_S

/-- `predict`, on one element of the array. -/
def HorizonHead.predict
    (numpy : LogisticNumpy Value)
    (head : HorizonHead Value)
    (s : Value) : Value :=
  1 / (1 + numpy.exp (-head.k * (s - head.s0)))

variable [LinearOrder Value]

/-- `false_positive_rate`. -/
def falsePositiveRate
    (pFail : List Value)
    (threshold : Value := P_FAIL_THRESHOLD) : Value :=
  if pFail.length = 0 then 0
  else pFail.countP (fun p => threshold ≤ p) / pFail.length

variable [IsStrictOrderedRing Value] [FloorRing Value]

/-- `calibrate_threshold`; the result is `self`, which the call updates. -/
def HorizonHead.calibrateThreshold
    (numpy : LogisticNumpy Value)
    (head : HorizonHead Value)
    (nominalS : List Value)
    (targetFpr : Value := TARGET_NOMINAL_FPR)
    (threshold : Value := P_FAIL_THRESHOLD) : HorizonHead Value :=
  if nominalS.length = 0 ∨ head.k ≤ 0 then head
  else
    let required := quantile nominalS (1 - targetFpr)
    let offset := numpy.log (threshold / (1 - threshold)) / head.k
    let s0Needed := required - offset
    if head.s0 < s0Needed then { head with s0 := s0Needed } else head

end Model

section Gate

variable {Value : Type} [Zero Value] [LinearOrder Value]

/-- The highest score that the gate requires below the threshold. -/
def firstExcluded (nominalS : List Value) : Value :=
  ranked nominalS (nominalS.length - 1 - nominalS.length / 50)

/-- The score at the default target, the upper one where two are next to it. -/
def targetScore (nominalS : List Value) : Value :=
  ranked nominalS (nominalS.length - 1 - (nominalS.length - 1) / 500)

end Gate

section Real

/-- The functions of numpy over the real numbers. -/
noncomputable def realNumpy : LogisticNumpy ℝ where
  exp := Real.exp
  log := Real.log

/-- The score at which the head predicts a probability. -/
noncomputable def HorizonHead.operatingPoint
    (head : HorizonHead ℝ)
    (threshold : ℝ) : ℝ :=
  head.s0 + realNumpy.log (threshold / (1 - threshold)) / head.k

variable {head : HorizonHead ℝ} {threshold : ℝ}

/-- The prediction reaches a threshold from the operating point on. -/
theorem HorizonHead.threshold_le_predict_iff
    (positive : 0 < head.k)
    (thresholdPos : 0 < threshold)
    (thresholdLt : threshold < 1)
    (s : ℝ) :
    threshold ≤ head.predict realNumpy s ↔
      head.operatingPoint threshold ≤ s := by
  have rest : 0 < 1 - threshold := sub_pos.mpr thresholdLt
  have odds : 0 < threshold / (1 - threshold) := div_pos thresholdPos rest
  have denominator : 0 < 1 + Real.exp (-head.k * (s - head.s0)) :=
    add_pos one_pos (Real.exp_pos _)
  have inverse :
      (1 - threshold) / threshold = Real.exp (-Real.log
        (threshold / (1 - threshold))) := by
    rw [Real.exp_neg, Real.exp_log odds, inv_div]
  calc
    threshold ≤ head.predict realNumpy s ↔
        threshold * (1 + Real.exp (-head.k * (s - head.s0))) ≤ 1 :=
      le_div_iff₀ denominator
    _ ↔ Real.exp (-head.k * (s - head.s0)) ≤ (1 - threshold) / threshold := by
      rw [le_div_iff₀ thresholdPos]
      constructor <;> intro bound <;> linarith
    _ ↔ -head.k * (s - head.s0) ≤ -Real.log (threshold / (1 - threshold)) := by
      rw [inverse, Real.exp_le_exp]
    _ ↔ Real.log (threshold / (1 - threshold)) ≤ (s - head.s0) * head.k := by
      constructor <;> intro bound <;> linarith
    _ ↔ head.operatingPoint threshold ≤ s := by
      rw [← div_le_iff₀ positive, le_sub_iff_add_le']
      rfl

/-- So many predictions reach the threshold as scores the operating point. -/
theorem HorizonHead.countP_predict
    (positive : 0 < head.k)
    (thresholdPos : 0 < threshold)
    (thresholdLt : threshold < 1)
    (scores : List ℝ) :
    (scores.map (head.predict realNumpy)).countP
        (fun p => threshold ≤ p) =
      scores.countP fun s => head.operatingPoint threshold ≤ s := by
  rw [List.countP_map]
  refine List.countP_congr fun s _ => ?_
  simpa using
    HorizonHead.threshold_le_predict_iff positive thresholdPos thresholdLt s

variable {nominalS : List ℝ} {targetFpr : ℝ}

/-- Calibration leaves the slope and never lowers the midpoint. -/
theorem HorizonHead.calibrateThreshold_k_s0 :
    let calibrated :=
      head.calibrateThreshold realNumpy nominalS targetFpr threshold
    calibrated.k = head.k ∧ head.s0 ≤ calibrated.s0 := by
  simp only [calibrateThreshold]
  split
  · exact ⟨rfl, le_rfl⟩
  · split
    · next raised =>
        exact ⟨rfl, raised.le⟩
    · exact ⟨rfl, le_rfl⟩

/-- The operating point moves up to the required quantile. -/
theorem HorizonHead.operatingPoint_calibrateThreshold
    (positive : 0 < head.k)
    (nonempty : nominalS ≠ []) :
    (head.calibrateThreshold realNumpy nominalS targetFpr threshold
        ).operatingPoint threshold =
      max (head.operatingPoint threshold)
        (quantile nominalS (1 - targetFpr)) := by
  have applies : ¬ (nominalS.length = 0 ∨ head.k ≤ 0) := by
    rintro (isEmpty | nonpositive)
    · exact nonempty (List.length_eq_zero_iff.mp isEmpty)
    · exact absurd positive (not_lt.mpr nonpositive)
  simp only [calibrateThreshold, if_neg applies, operatingPoint]
  by_cases raised :
      head.s0 <
        quantile nominalS (1 - targetFpr) -
          realNumpy.log (threshold / (1 - threshold)) / head.k
  · rw [if_pos raised, max_eq_right (by linarith)]
    exact sub_add_cancel _ _
  · rw [if_neg raised, max_eq_left (by linarith)]

/-- Counting after calibration compares with the old point and the quantile. -/
theorem HorizonHead.countP_calibrated_le_iff
    (positive : 0 < head.k)
    (thresholdPos : 0 < threshold)
    (thresholdLt : threshold < 1)
    {count : Nat}
    (fewer : count < nominalS.length) :
    (nominalS.map ((head.calibrateThreshold realNumpy nominalS targetFpr
        threshold).predict realNumpy)).countP (fun p => threshold ≤ p) ≤
          count ↔
      head.predict realNumpy (ranked nominalS (nominalS.length - 1 - count)) <
          threshold ∨
        ranked nominalS (nominalS.length - 1 - count) <
          quantile nominalS (1 - targetFpr) := by
  have nonempty : nominalS ≠ [] := List.ne_nil_of_length_pos (by omega)
  have stillPositive :
      0 < (head.calibrateThreshold realNumpy nominalS targetFpr
        threshold).k := by
    rw [calibrateThreshold_k_s0.1]
    exact positive
  rw [countP_predict stillPositive thresholdPos thresholdLt,
    countP_le_iff_ranked_lt fewer,
    operatingPoint_calibrateThreshold positive nonempty, lt_max_iff,
    ← not_le (a := head.operatingPoint threshold),
    ← threshold_le_predict_iff positive thresholdPos thresholdLt, not_le]

/-- Every position that more scores than the target stand above is below. -/
theorem ranked_lt_quantile_of_distinct
    (fprNonneg : 0 ≤ targetFpr)
    (fprLe : targetFpr ≤ 1)
    (distinct : nominalS.Nodup)
    {count : Nat}
    (fewer : count < nominalS.length)
    (above : targetFpr * (nominalS.length - 1) < count) :
    ranked nominalS (nominalS.length - 1 - count) <
      quantile nominalS (1 - targetFpr) := by
  have nonempty : nominalS ≠ [] := List.ne_nil_of_length_pos (by omega)
  have position :
      ((nominalS.length - 1 - count : Nat) : ℝ) <
        virtualIndex nominalS (1 - targetFpr) := by
    rw [virtualIndex, Nat.cast_sub (by omega), Nat.cast_sub (by omega),
      Nat.cast_one]
    linarith
  rw [ranked_lt_quantile_iff (sub_nonneg.mpr fprLe)
    (sub_le_self 1 fprNonneg) nonempty position.le]
  have last :
      virtualIndex nominalS (1 - targetFpr) ≤ (nominalS.length - 1 : Nat) := by
    have lastNonneg : (0 : ℝ) ≤ (nominalS.length - 1 : Nat) :=
      Nat.cast_nonneg _
    rw [Nat.cast_sub (by omega), Nat.cast_one] at lastNonneg ⊢
    exact mul_le_of_le_one_left lastNonneg (sub_le_self 1 fprNonneg)
  have beforeCeil :
      ((nominalS.length - 1 - count : Nat) : Int) <
        ⌈virtualIndex nominalS (1 - targetFpr)⌉ :=
    Int.lt_ceil.mpr (by exact_mod_cast position)
  have ceilLast :
      ⌈virtualIndex nominalS (1 - targetFpr)⌉ ≤
        ((nominalS.length - 1 : Nat) : Int) :=
    Int.ceil_le.mpr (by exact_mod_cast last)
  exact ranked_strictMono distinct (by omega) (by omega)

/-- With distinct scores calibration leaves few of them at the threshold. -/
theorem HorizonHead.calibrateThreshold_bounds_alarms
    {head : HorizonHead ℝ}
    (positive : 0 < head.k)
    (thresholdPos : 0 < threshold)
    (thresholdLt : threshold < 1)
    (fprNonneg : 0 ≤ targetFpr)
    (fprLe : targetFpr ≤ 1)
    (nonempty : nominalS ≠ [])
    (distinct : nominalS.Nodup) :
    let calibrated :=
      head.calibrateThreshold realNumpy nominalS targetFpr threshold
    ((nominalS.map (calibrated.predict realNumpy)).countP
          (fun p => threshold ≤ p) : Int) ≤
        ⌊targetFpr * (nominalS.length - 1)⌋ + 1 ∧
      head.s0 ≤ calibrated.s0 ∧
      ∀ s, head.predict realNumpy s < threshold →
        calibrated.predict realNumpy s < threshold := by
  intro calibrated
  obtain ⟨sameK, raised⟩ :
      calibrated.k = head.k ∧ head.s0 ≤ calibrated.s0 :=
    calibrateThreshold_k_s0
  refine ⟨?_, raised, ?_⟩
  · have lastNonneg : (0 : ℝ) ≤ nominalS.length - 1 :=
      sub_nonneg.mpr (by
        exact_mod_cast List.length_pos_of_ne_nil nonempty)
    obtain ⟨spared, isSpared⟩ :=
      Int.eq_ofNat_of_zero_le
        (Int.floor_nonneg.mpr (mul_nonneg fprNonneg lastNonneg))
    have above :
        targetFpr * (nominalS.length - 1) < (spared + 1 : Nat) := by
      have lessNext := Int.lt_floor_add_one
        (targetFpr * ((nominalS.length : ℝ) - 1))
      rw [isSpared] at lessNext
      exact_mod_cast lessNext
    rw [isSpared]
    rcases Nat.lt_or_ge (spared + 1) nominalS.length with fewer | all
    · have bound :=
        (countP_calibrated_le_iff positive thresholdPos thresholdLt
          fewer).mpr (Or.inr (ranked_lt_quantile_of_distinct fprNonneg fprLe
            distinct fewer above))
      exact_mod_cast bound
    · have bound :=
        List.countP_le_length (p := fun p => decide (threshold ≤ p))
          (l := nominalS.map (calibrated.predict realNumpy))
      rw [List.length_map] at bound
      exact_mod_cast bound.trans all
  · intro s below
    rw [← not_le, threshold_le_predict_iff positive thresholdPos thresholdLt]
      at below
    rw [← not_le, threshold_le_predict_iff (sameK ▸ positive) thresholdPos
      thresholdLt, operatingPoint_calibrateThreshold positive nonempty]
    exact fun reaches => below ((le_max_left _ _).trans reaches)

/-- Two scores and no tolerated rate: at most one alarm. -/
theorem HorizonHead.calibrateThreshold_bounds_alarms_pair :
    let calibrated :=
      HorizonHead.calibrateThreshold realNumpy {} [4 / 5, 1 / 5] 0 (1 / 2)
    (([4 / 5, 1 / 5].map (calibrated.predict realNumpy)).countP
          (fun p => 1 / 2 ≤ p) : Int) ≤
        ⌊(0 : ℝ) * (([4 / 5, 1 / 5] : List ℝ).length - 1)⌋ + 1 ∧
      ({} : HorizonHead ℝ).s0 ≤ calibrated.s0 ∧
      ∀ s, HorizonHead.predict realNumpy {} s < 1 / 2 →
        calibrated.predict realNumpy s < 1 / 2 :=
  calibrateThreshold_bounds_alarms (by norm_num [DEFAULT_K]) (by norm_num)
    (by norm_num) le_rfl zero_le_one (by simp) (by norm_num)

/-- The rate meets a bound when the count does. -/
theorem falsePositiveRate_le_iff
    {pFail : List ℝ}
    (nonempty : pFail ≠ []) :
    falsePositiveRate pFail threshold ≤ 2 / 100 ↔
      pFail.countP (fun p => threshold ≤ p) ≤ pFail.length / 50 := by
  have count : 0 < pFail.length := List.length_pos_of_ne_nil nonempty
  have asReal : (0 : ℝ) < pFail.length := by exact_mod_cast count
  rw [falsePositiveRate, if_neg count.ne', div_le_iff₀ asReal,
    Nat.le_div_iff_mul_le (by decide)]
  constructor
  · intro bound
    have scaled :
        ((pFail.countP fun p => threshold ≤ p) : ℝ) * 50 ≤
          pFail.length := by
      linarith
    exact_mod_cast scaled
  · intro bound
    have scaled :
        ((pFail.countP fun p => threshold ≤ p) : ℝ) * 50 ≤
          pFail.length := by
      exact_mod_cast bound
    linarith

/-- At the default target the quantile separates what its upper score does. -/
theorem firstExcluded_lt_quantile_iff
    (enough : 50 ≤ nominalS.length) :
    firstExcluded nominalS <
        quantile nominalS (1 - TARGET_NOMINAL_FPR) ↔
      firstExcluded nominalS < targetScore nominalS := by
  have nonempty : nominalS ≠ [] := List.ne_nil_of_length_pos (by omega)
  obtain ⟨last, isLast⟩ :=
    Nat.exists_eq_add_of_le' (show 1 ≤ nominalS.length by omega)
  have virtual :
      virtualIndex nominalS (1 - TARGET_NOMINAL_FPR) = 499 / 500 * last := by
    rw [virtualIndex, TARGET_NOMINAL_FPR, isLast]
    push_cast
    ring
  have blocks : ((last / 500 : Nat) : ℝ) * 500 ≤ last := by
    exact_mod_cast Nat.div_mul_le_self last 500
  have nextBlock : (last : ℝ) < ((last / 500 : Nat) + 1) * 500 := by
    exact_mod_cast Nat.lt_mul_of_div_lt (Nat.lt_succ_self _) (by decide)
  have ceil :
      ⌈virtualIndex nominalS (1 - TARGET_NOMINAL_FPR)⌉ =
        (last - last / 500 : Nat) := by
    rw [virtual, Int.ceil_eq_iff, Int.cast_natCast,
      Nat.cast_sub (Nat.div_le_self last 500)]
    constructor <;> linarith
  have position :
      ((nominalS.length - 1 - nominalS.length / 50 : Nat) : ℝ) ≤
        virtualIndex nominalS (1 - TARGET_NOMINAL_FPR) := by
    have before :
        ((nominalS.length - 1 - nominalS.length / 50 : Nat) : ℝ) +
          ((last / 500 : Nat) + 1) ≤ last := by
      have exact :
          nominalS.length - 1 - nominalS.length / 50 + (last / 500 + 1) ≤
            last := by
        omega
      exact_mod_cast exact
    rw [virtual]
    linarith
  rw [firstExcluded, ranked_lt_quantile_iff, ceil, targetScore,
    Int.toNat_natCast, isLast, Nat.add_sub_cancel]
  · norm_num [TARGET_NOMINAL_FPR]
  · norm_num [TARGET_NOMINAL_FPR]
  · exact nonempty
  · exact position

/-- How many scores calibration at the default target leaves. -/
theorem HorizonHead.countP_calibrated_le_gate_iff
    (positive : 0 < head.k)
    (enough : 50 ≤ nominalS.length) :
    (nominalS.map ((head.calibrateThreshold realNumpy nominalS).predict
        realNumpy)).countP (fun p => P_FAIL_THRESHOLD ≤ p) ≤
          nominalS.length / 50 ↔
      head.predict realNumpy (firstExcluded nominalS) < P_FAIL_THRESHOLD ∨
        firstExcluded nominalS < targetScore nominalS := by
  rw [countP_calibrated_le_iff positive (by norm_num [P_FAIL_THRESHOLD])
    (by norm_num [P_FAIL_THRESHOLD]) (by omega)]
  exact or_congr_right (firstExcluded_lt_quantile_iff enough)

/-- The gate holds unless too many scores are equal at the new threshold. -/
theorem HorizonHead.calibrateThreshold_meets_gate_iff
    (positive : 0 < head.k)
    (enough : 50 ≤ nominalS.length) :
    falsePositiveRate
        (nominalS.map
          ((head.calibrateThreshold realNumpy nominalS).predict realNumpy))
        P_FAIL_THRESHOLD ≤ 2 / 100 ↔
      head.predict realNumpy (firstExcluded nominalS) < P_FAIL_THRESHOLD ∨
        firstExcluded nominalS < targetScore nominalS := by
  have nonempty : nominalS ≠ [] := List.ne_nil_of_length_pos (by omega)
  rw [falsePositiveRate_le_iff (by simpa using nonempty), List.length_map]
  exact countP_calibrated_le_gate_iff positive enough

end Real

section FiftyScores

/-! Fifty nominal scores, of which some are clipped at the upper bound. -/

noncomputable def clippedScores (clipped : Nat) : List ℝ :=
  List.replicate (50 - clipped) 0 ++ List.replicate clipped 1

theorem length_clippedScores
    {clipped : Nat}
    (atMost : clipped ≤ 50) :
    (clippedScores clipped).length = 50 := by
  simp [clippedScores, atMost]

theorem ranked_clippedScores (clipped position : Nat) :
    ranked (clippedScores clipped) position =
      (clippedScores clipped).getD position 0 := by
  apply ranked_of_pairwise
  rw [clippedScores, List.pairwise_append]
  refine ⟨List.pairwise_replicate.mpr (Or.inr le_rfl),
    List.pairwise_replicate.mpr (Or.inr le_rfl), ?_⟩
  intro low lowMember high highMember
  rw [List.eq_of_mem_replicate lowMember, List.eq_of_mem_replicate highMember]
  norm_num

/-- One clipped score among fifty is spared. -/
theorem HorizonHead.calibrateThreshold_meets_gate_iff_oneClipped :
    falsePositiveRate
        ((clippedScores 1).map
          ((HorizonHead.calibrateThreshold realNumpy {}
            (clippedScores 1)).predict realNumpy))
        P_FAIL_THRESHOLD ≤ 2 / 100 := by
  refine (calibrateThreshold_meets_gate_iff (by norm_num [DEFAULT_K])
    (length_clippedScores (by decide)).ge).mpr (Or.inr ?_)
  rw [firstExcluded, targetScore, ranked_clippedScores, ranked_clippedScores,
    length_clippedScores (by decide)]
  exact (zero_lt_one : (0 : ℝ) < 1)

/--
A head with `k = 10`: of fifty scores two are clipped; they are equal to the
quantile and stay at the threshold.
-/
theorem HorizonHead.clipped_scores_break_gate :
    ¬ ∀ (head : HorizonHead ℝ) (nominalS : List ℝ),
      0 < head.k → 50 ≤ nominalS.length →
        (∀ s ∈ nominalS, 0 ≤ s ∧ s ≤ 1) →
          falsePositiveRate
            (nominalS.map
              ((head.calibrateThreshold realNumpy nominalS).predict realNumpy))
            P_FAIL_THRESHOLD ≤ 2 / 100 := by
  intro meets
  let head : HorizonHead ℝ := { k := 10 }
  have positive : 0 < head.k := by
    norm_num [head]
  have enough : 50 ≤ (clippedScores 2).length :=
    (length_clippedScores (by decide)).ge
  have bounded : ∀ s ∈ clippedScores 2, 0 ≤ s ∧ s ≤ 1 := by
    intro s member
    rcases List.mem_append.mp member with low | high
    · rw [List.eq_of_mem_replicate low]
      norm_num
    · rw [List.eq_of_mem_replicate high]
      norm_num
  have rate := meets head (clippedScores 2) positive enough bounded
  rw [falsePositiveRate_le_iff (by simp [clippedScores]), List.length_map,
    countP_calibrated_le_gate_iff positive enough, firstExcluded, targetScore,
    ranked_clippedScores, ranked_clippedScores,
    length_clippedScores (by decide)] at rate
  rcases rate with wasBelow | different
  · rw [← not_le, threshold_le_predict_iff positive
      (by norm_num [P_FAIL_THRESHOLD]) (by norm_num [P_FAIL_THRESHOLD]),
      not_le] at wasBelow
    have logBound := Real.log_le_sub_one_of_pos (show (0 : ℝ) < 7 / 3 by
      norm_num)
    have point :
        (1 : ℝ) < 55 / 100 + Real.log (7 / 10 / (1 - 7 / 10)) / 10 :=
      wasBelow
    norm_num at point logBound
    linarith
  · exact lt_irrefl (1 : ℝ) different

end FiftyScores

end Python

end OpticsSoftfail
