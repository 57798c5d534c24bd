import Mathlib.Algebra.Order.Field.Basic
import Mathlib.Data.Rat.Cast.Order
import Mathlib.Tactic.Linarith
import Mathlib.Tactic.Positivity
import OpticsSoftfail.FloatScore
import OpticsSoftfail.GenerateCommand
import OpticsSoftfail.HorizonLabels

namespace OpticsSoftfail

namespace Corpus

/-!
# The trace of one synthetic link

`generate_link` computes whole arrays, one entry a second; the model computes
the entry of one second, and a trace is the list of its seconds.  The random
draws are a parameter, as are the functions of numpy.  The numbers are exact.
-/

/-- The functions of numpy and `math` that the generator calls. -/
structure SignalNumpy (Value : Type) where
  exp : Value → Value
  sin : Value → Value
  sqrt : Value → Value
  erfc : Value → Value
  /-- `np.power(10.0, x)`. -/
  power10 : Value → Value
  pi : Value

/--
`rng.normal(0.0, sigma, n)` of the generator with a seed, which is called four
times for a trace.
-/
abbrev Noise (Value : Type) :=
  (seed call n : Nat) → (sigma : Value) → (position : Nat) → Value

section Rounding

variable {Value : Type} [Field Value] [LinearOrder Value] [FloorRing Value]

/-- `np.rint`, which takes a half to the even neighbour. -/
def rint (value : Value) : Int :=
  roundEven value

/-- `np.round(value, 4)`. -/
def round4 (value : Value) : Value :=
  rint (value * (10 ^ 4 : Nat)) / (10 ^ 4 : Nat)

end Rounding

section Constants

variable {Value : Type} [Field Value]

/-- `BER_FLOOR` of the generator. -/
def BER_FLOOR : Value := 1 / (10 ^ 15 : Nat)

def BER_CEIL : Value := 1 / (2 : Nat)

def OSNR_DB_PER_PUMP_MA : Value := (4 : Nat) / (100 : Nat)

def OSNR_DB_PER_BIAS_MA : Value := (3 : Nat) / (100 : Nat)

def PINCH_OSNR_PER_LOSS_DB : Value := (8 : Nat) / (10 : Nat)

def DIRTY_OSNR_PER_LOSS_DB : Value := (5 : Nat) / (10 : Nat)

def DIRTY_BER_DECADES : Value := (5 : Nat) / (10 : Nat)

def DIRTY_RIPPLE_DB : Value := (2 : Nat) / (10 : Nat)

def DIRTY_RIPPLE_HZ : Value := (5 : Nat) / (100 : Nat)

def LOS_OSNR_DB : Value := 0

def LOS_BER : Value := 1 / (10 : Nat)

def LOS_RX_DBM : Value := -((40 : Nat) : Value)

end Constants

/-- `np.clip`. -/
def clip
    {Value : Type}
    [LinearOrder Value]
    (low high value : Value) : Value :=
  min (max value low) high

/-- The text of a label. -/
def Label.text : Label → String
  | .nominal => "nominal"
  | .edfaAging => "edfa_aging"
  | .fiberPinch => "fiber_pinch"
  | .dirtyConnector => "dirty_connector"
  | .laserDrift => "laser_drift"
  | .los => "los"

/-- One row over `RAW_COLUMNS`. -/
structure RawRow (Value : Type) where
  tsUnixMs : Int
  linkId : String
  channelId : String
  osnrDb : Value
  ber : Value
  laserBiasMa : Value
  edfaPumpMa : Value
  rxPowerDbm : Value
  label : Label
  deriving Repr, DecidableEq

/-- The arrays `osnr`, `bias`, `pump`, `rx` and `ber_mult` at one second. -/
structure Signals (Value : Type) where
  osnr : Value
  bias : Value
  pump : Value
  rx : Value
  berMult : Value

section Model

variable {Value : Type} [Field Value] [LinearOrder Value]

/-- `is_hard_fail`, on one element of the arrays. -/
def isHardFail (osnrDb ber : Value) : Bool :=
  FloatScore.number osnrDb < Python.Generator.HARD_OSNR_DB ||
    Python.Generator.HARD_BER < FloatScore.number ber

/-- `ber_from_osnr`. -/
def berFromOsnr (numpy : SignalNumpy Value) (osnrDb : Value) : Value :=
  let half : Value := (5 : Nat) / (10 : Nat)
  let hundred : Value := (100 : Nat)
  let lin := numpy.power10 (clip (-hundred) hundred osnrDb / (10 : Nat))
  let arg := numpy.sqrt (lin / (2 : Nat)) * half
  clip BER_FLOOR BER_CEIL (half * numpy.erfc arg)

/-- `ramp_progress`. -/
def rampProgress
    (numpy : SignalNumpy Value)
    (t onsetS tauS : Value) : Value :=
  let delta := max (t - onsetS) 0
  let prog := 1 - numpy.exp (-delta / tauS)
  if onsetS < t then prog else 0

/-- The four signals without any impairment. -/
def nominalSignals
    (noise : Noise Value)
    (spec : LinkSpec)
    (position : Nat) : Signals Value :=
  let c := spec.constants
  let n := spec.durationS.toNat
  { osnr := c.osnr0Db + noise spec.seed 0 n c.osnrSigmaDb position
    bias := c.laserBias0Ma + noise spec.seed 1 n c.biasSigmaMa position
    pump := c.edfaPump0Ma + noise spec.seed 2 n c.pumpSigmaMa position
    rx := c.rx0Dbm + noise spec.seed 3 n c.rxSigmaDb position
    berMult := 1 }

/-- The branches on the label before the error rate is computed. -/
def impair
    (numpy : SignalNumpy Value)
    (label : Label)
    (severity prog t : Value)
    (signals : Signals Value) : Signals Value :=
  match label with
  | .edfaAging =>
      let pumpRise := severity * prog
      { signals with
        pump := signals.pump + pumpRise
        osnr := signals.osnr - OSNR_DB_PER_PUMP_MA * pumpRise }
  | .fiberPinch =>
      let extraLoss := severity * prog
      { signals with
        rx := signals.rx - extraLoss
        osnr := signals.osnr - PINCH_OSNR_PER_LOSS_DB * extraLoss }
  | .dirtyConnector =>
      let extraLoss := severity * prog
      let ripple :=
        DIRTY_RIPPLE_DB *
          numpy.sin ((2 : Nat) * numpy.pi * DIRTY_RIPPLE_HZ * t)
      { signals with
        rx := signals.rx - extraLoss + ripple
        osnr :=
          signals.osnr - DIRTY_OSNR_PER_LOSS_DB * extraLoss + ripple
        berMult := numpy.power10 (DIRTY_BER_DECADES * prog) }
  | .laserDrift =>
      let biasRise := severity * prog
      { signals with
        bias := signals.bias + biasRise
        osnr := signals.osnr - OSNR_DB_PER_BIAS_MA * biasRise }
  | .nominal => signals
  | .los => signals

variable [FloorRing Value]

/-- The row of one second. -/
def linkRow
    (numpy : SignalNumpy Value)
    (noise : Noise Value)
    (startTsMs : Int)
    (spec : LinkSpec)
    (position : Nat) : RawRow Value :=
  let t : Value := position
  let prog := rampProgress numpy t spec.onsetS spec.tauS
  let signals :=
    impair numpy spec.label spec.severity prog t
      (nominalSignals noise spec position)
  let ber :=
    clip BER_FLOOR BER_CEIL
      (berFromOsnr numpy signals.osnr * signals.berMult)
  let collapsed : Bool := spec.label = .los ∧ (spec.onsetS : Value) ≤ t
  { tsUnixMs := startTsMs + 1000 * position
    linkId := spec.linkId
    channelId := spec.channelId
    osnrDb := round4 (if collapsed then LOS_OSNR_DB else signals.osnr)
    ber := if collapsed then LOS_BER else ber
    laserBiasMa := round4 signals.bias
    edfaPumpMa := round4 signals.pump
    rxPowerDbm := round4 (if collapsed then LOS_RX_DBM else signals.rx)
    label := spec.label }

/-- `generate_link`. -/
def generateLink
    (numpy : SignalNumpy Value)
    (noise : Noise Value)
    (startTsMs : Int)
    (spec : LinkSpec) : List (RawRow Value) :=
  (List.range spec.durationS.toNat).map
    (linkRow numpy noise startTsMs spec)

/-- The row is a hard failure. -/
def RawRow.failsHard (row : RawRow Value) : Bool :=
  isHardFail row.osnrDb row.ber

end Model

section RoundingOrder

variable {Value : Type} [Field Value] [LinearOrder Value] [FloorRing Value]

variable [IsStrictOrderedRing Value]

theorem round4_mono {low high : Value} (atMost : low ≤ high) :
    round4 low ≤ round4 high := by
  have scaled : low * (10 ^ 4 : Nat) ≤ high * (10 ^ 4 : Nat) :=
    mul_le_mul_of_nonneg_right atMost (Nat.cast_nonneg _)
  exact div_le_div_of_nonneg_right (Int.cast_le.mpr (roundEven_mono scaled))
    (Nat.cast_nonneg _)

end RoundingOrder

section Clipping

variable {Value : Type} [LinearOrder Value] {low high : Value}

theorem clip_mono {first second : Value} (atMost : first ≤ second) :
    clip low high first ≤ clip low high second :=
  min_le_min_right high (max_le_max_right low atMost)

theorem low_le_clip (ordered : low ≤ high) (value : Value) :
    low ≤ clip low high value :=
  le_min (le_max_right value low) ordered

end Clipping

section Laws

variable {Value : Type} [Field Value] [LinearOrder Value]

/-- What the generator relies on in the functions it calls. -/
structure SignalNumpy.Lawful (numpy : SignalNumpy Value) : Prop where
  exp_mono : Monotone numpy.exp
  exp_zero : numpy.exp 0 = 1
  sqrt_mono : Monotone numpy.sqrt
  power10_mono : Monotone numpy.power10
  power10_pos : ∀ value, 0 < numpy.power10 value
  erfc_anti : Antitone numpy.erfc

variable {numpy : SignalNumpy Value}

theorem berMult_impair_nonneg
    (lawful : numpy.Lawful)
    {label : Label}
    {severity prog t : Value}
    {signals : Signals Value}
    (nonneg : 0 ≤ signals.berMult) :
    0 ≤ (impair numpy label severity prog t signals).berMult := by
  cases label with
  | dirtyConnector => exact (lawful.power10_pos _).le
  | edfaAging => exact nonneg
  | fiberPinch => exact nonneg
  | laserDrift => exact nonneg
  | nominal => exact nonneg
  | los => exact nonneg

variable [IsStrictOrderedRing Value]

theorem berFloor_pos : 0 < (BER_FLOOR : Value) := by
  rw [BER_FLOOR]
  positivity

theorem berFloor_le_berCeil : (BER_FLOOR : Value) ≤ BER_CEIL := by
  rw [BER_FLOOR, BER_CEIL]
  exact one_div_le_one_div_of_le (by norm_num)
    (Nat.cast_le.mpr (by norm_num))

/-- A lower ratio of signal to noise does not lower the error rate. -/
theorem berFromOsnr_anti (lawful : numpy.Lawful) :
    Antitone (berFromOsnr numpy) := by
  intro low high atMost
  have powers
      (bound : Value) :
      numpy.power10 (clip (-bound) bound low / (10 : Nat)) ≤
        numpy.power10 (clip (-bound) bound high / (10 : Nat)) :=
    lawful.power10_mono
      (div_le_div_of_nonneg_right (clip_mono atMost) (Nat.cast_nonneg _))
  have half : (0 : Value) ≤ (5 : Nat) / (10 : Nat) := by
    positivity
  have roots :=
    mul_le_mul_of_nonneg_right
      (lawful.sqrt_mono
        (div_le_div_of_nonneg_right (powers (100 : Nat))
          (Nat.cast_nonneg 2 : (0 : Value) ≤ (2 : Nat)))) half
  exact clip_mono (mul_le_mul_of_nonneg_left (lawful.erfc_anti roots) half)

theorem berFromOsnr_pos (osnrDb : Value) : 0 < berFromOsnr numpy osnrDb :=
  berFloor_pos.trans_le (low_le_clip berFloor_le_berCeil _)

/-! ## The ramp of an impairment -/

theorem rampProgress_nonneg
    (lawful : numpy.Lawful)
    {t onsetS tauS : Value}
    (tauPositive : 0 < tauS) :
    0 ≤ rampProgress numpy t onsetS tauS := by
  simp only [rampProgress]
  split_ifs
  · have exponent : -max (t - onsetS) 0 / tauS ≤ 0 :=
      div_nonpos_of_nonpos_of_nonneg
        (neg_nonpos.mpr (le_max_right _ _)) tauPositive.le
    have atMostOne := lawful.exp_mono exponent
    rw [lawful.exp_zero] at atMostOne
    exact sub_nonneg.mpr atMostOne
  · exact le_rfl

/-- An earlier onset and a shorter time constant put the ramp higher. -/
theorem rampProgress_mono
    (lawful : numpy.Lawful)
    {t onsetS tauS earlier shorter : Value}
    (onset : earlier ≤ onsetS)
    (tau : shorter ≤ tauS)
    (shorterPositive : 0 < shorter) :
    rampProgress numpy t onsetS tauS ≤
      rampProgress numpy t earlier shorter := by
  by_cases started : onsetS < t
  · have delta : max (t - onsetS) 0 ≤ max (t - earlier) 0 :=
      max_le_max_right 0 (sub_le_sub_left onset t)
    have quotient :
        max (t - onsetS) 0 / tauS ≤ max (t - earlier) 0 / shorter :=
      div_le_div₀ (le_max_right _ _) delta shorterPositive tau
    have exponents :
        -max (t - earlier) 0 / shorter ≤ -max (t - onsetS) 0 / tauS := by
      rw [neg_div, neg_div]
      exact neg_le_neg quotient
    simp only [rampProgress, if_pos started, if_pos (onset.trans_lt started)]
    exact sub_le_sub_left (lawful.exp_mono exponents) 1
  · have notYet : rampProgress numpy t onsetS tauS = 0 :=
      if_neg started
    rw [notYet]
    exact rampProgress_nonneg lawful shorterPositive

/-! ## What an impairment does to the signals -/

section Impairment

variable {label : Label} {severity prog harder further t : Value}
variable {signals : Signals Value}

theorem load_mono
    (severityNonneg : 0 ≤ severity)
    (progNonneg : 0 ≤ prog)
    (harderLoad : severity ≤ harder)
    (furtherLoad : prog ≤ further) :
    severity * prog ≤ harder * further :=
  mul_le_mul harderLoad furtherLoad progNonneg
    (severityNonneg.trans harderLoad)

/-- The stronger impairment leaves the lower ratio of signal to noise. -/
theorem osnr_impair_anti
    (load : severity * prog ≤ harder * further) :
    (impair numpy label harder further t signals).osnr ≤
      (impair numpy label severity prog t signals).osnr := by
  have scaled
      (coefficient : Value)
      (nonneg : 0 ≤ coefficient) :
      coefficient * (severity * prog) ≤ coefficient * (harder * further) :=
    mul_le_mul_of_nonneg_left load nonneg
  cases label with
  | edfaAging =>
      exact sub_le_sub_left
        (scaled OSNR_DB_PER_PUMP_MA (by rw [OSNR_DB_PER_PUMP_MA]; positivity))
        _
  | fiberPinch =>
      exact sub_le_sub_left
        (scaled PINCH_OSNR_PER_LOSS_DB
          (by rw [PINCH_OSNR_PER_LOSS_DB]; positivity)) _
  | dirtyConnector =>
      refine add_le_add_left (sub_le_sub_left ?_ _) _
      exact scaled DIRTY_OSNR_PER_LOSS_DB
        (by rw [DIRTY_OSNR_PER_LOSS_DB]; positivity)
  | laserDrift =>
      exact sub_le_sub_left
        (scaled OSNR_DB_PER_BIAS_MA (by rw [OSNR_DB_PER_BIAS_MA]; positivity))
        _
  | nominal =>
      exact le_rfl
  | los =>
      exact le_rfl

/-- Only a dirty connector multiplies the error rate, and it grows. -/
theorem berMult_impair_mono
    (lawful : numpy.Lawful)
    (furtherLoad : prog ≤ further) :
    (impair numpy label severity prog t signals).berMult ≤
      (impair numpy label harder further t signals).berMult := by
  cases label with
  | dirtyConnector =>
      refine lawful.power10_mono (mul_le_mul_of_nonneg_left furtherLoad ?_)
      rw [DIRTY_BER_DECADES]
      positivity
  | edfaAging => exact le_rfl
  | fiberPinch => exact le_rfl
  | laserDrift => exact le_rfl
  | nominal => exact le_rfl
  | los => exact le_rfl

end Impairment

end Laws

section Severity

/-! ## Harsher specifications -/

/-- One link, impaired at least as strongly, as early and as fast. -/
structure LinkSpec.Milder (milder harsher : LinkSpec) : Prop where
  linkId : harsher.linkId = milder.linkId
  channelId : harsher.channelId = milder.channelId
  label : harsher.label = milder.label
  durationS : harsher.durationS = milder.durationS
  seed : harsher.seed = milder.seed
  constants : harsher.constants = milder.constants
  severityNonneg : 0 ≤ milder.severity
  severity : milder.severity ≤ harsher.severity
  onsetS : harsher.onsetS ≤ milder.onsetS
  tauS : harsher.tauS ≤ milder.tauS

variable {Value : Type} [Field Value]
variable {noise : Noise Value}
variable {milder harsher : LinkSpec}

theorem nominalSignals_milder
    (order : milder.Milder harsher)
    (position : Nat) :
    nominalSignals noise harsher position =
      nominalSignals noise milder position := by
  simp only [nominalSignals, order.seed, order.durationS, order.constants]

variable [LinearOrder Value]

theorem isHardFail_iff {osnrDb ber : Value} :
    isHardFail osnrDb ber ↔
      osnrDb < (8 : Nat) ∨ 1 / ((1000 : Nat) : Value) < ber := by
  rw [isHardFail, Bool.or_eq_true]
  exact or_congr decide_eq_true_iff decide_eq_true_iff

theorem isHardFail_mono
    {osnrDb ber lower higher : Value}
    (osnr : lower ≤ osnrDb)
    (errors : ber ≤ higher)
    (fails : isHardFail osnrDb ber) :
    isHardFail lower higher := by
  rw [isHardFail_iff] at fails ⊢
  exact fails.imp osnr.trans_lt fun above => above.trans_le errors

variable [IsStrictOrderedRing Value] [FloorRing Value]
variable {numpy : SignalNumpy Value} {startTsMs : Int}

/-- Without light the link fails hard. -/
theorem isHardFail_los :
    isHardFail (round4 (LOS_OSNR_DB : Value)) LOS_BER := by
  have dark : round4 (LOS_OSNR_DB : Value) = 0 := by
    simp [round4, LOS_OSNR_DB, rint, roundEven]
  have below : (0 : Value) < (8 : Nat) := by
    norm_num
  rw [dark, isHardFail_iff]
  exact Or.inl below

/-- In every second in which the milder link fails hard, the other one does. -/
theorem failsHard_linkRow_mono
    (lawful : numpy.Lawful)
    (order : milder.Milder harsher)
    (position : Nat)
    (fails : (linkRow numpy noise startTsMs milder position).failsHard) :
    (linkRow numpy noise startTsMs harsher position).failsHard := by
  have onset : (harsher.onsetS : Value) ≤ milder.onsetS :=
    Rat.cast_le.mpr order.onsetS
  have tauPositive (spec : LinkSpec) : (0 : Value) < spec.tauS :=
    Rat.cast_pos.mpr spec.tauPositive
  have further :
      rampProgress numpy (position : Value) milder.onsetS milder.tauS ≤
        rampProgress numpy (position : Value) harsher.onsetS harsher.tauS :=
    rampProgress_mono lawful onset (Rat.cast_le.mpr order.tauS)
      (tauPositive harsher)
  have load :=
    load_mono (Rat.cast_nonneg.mpr order.severityNonneg)
      (rampProgress_nonneg lawful (tauPositive milder))
      (Rat.cast_le.mpr order.severity) further
  simp only [RawRow.failsHard, linkRow] at fails ⊢
  rw [nominalSignals_milder order, order.label]
  by_cases dark : milder.label = .los ∧ (harsher.onsetS : Value) ≤ position
  · simp only [dark, decide_true, if_true, and_self]
    exact isHardFail_los
  · -- Then the milder link has light as well, and both are compared.
    have lit : ¬ (milder.label = .los ∧ (milder.onsetS : Value) ≤ position) :=
      fun milderDark => dark ⟨milderDark.1, onset.trans milderDark.2⟩
    simp only [lit, dark, decide_false, Bool.false_eq_true, if_false] at fails ⊢
    have osnr :=
      @osnr_impair_anti _ _ _ numpy _ milder.label _ _ _ _ (position : Value)
        (nominalSignals noise milder position) load
    refine isHardFail_mono (round4_mono osnr) (clip_mono ?_) fails
    exact mul_le_mul (berFromOsnr_anti lawful osnr)
      (berMult_impair_mono lawful further)
      (berMult_impair_nonneg lawful zero_le_one) (berFromOsnr_pos _).le

end Severity

end Corpus

end OpticsSoftfail
