import OpticsSoftfail.FeatureFrame
import OpticsSoftfail.IngestSample

namespace OpticsSoftfail

/-!
# The rolling window of the ingest

`Window` holds at most `capacity` samples, oldest first.  That bound and the
positive capacity are fields of the structure, so they hold of every window
that can be built.
-/

/-- `kWindowN`. -/
def kWindowN : Nat :=
  60

/-- `Channel`. -/
inductive Channel where
  | kOsnrDb
  | kLog10Ber
  | kLaserBiasMa
  | kEdfaPumpMa
  | kRxPowerDbm
  deriving Repr, DecidableEq

/-- `channel_name`. -/
def channelName : Channel → String
  | .kOsnrDb => "osnr_db"
  | .kLog10Ber => "log10_ber"
  | .kLaserBiasMa => "laser_bias_ma"
  | .kEdfaPumpMa => "edfa_pump_ma"
  | .kRxPowerDbm => "rx_power_dbm"

/-- `WindowStats`. -/
structure WindowStats (Value : Type) where
  osnrMean : Value
  osnrStd : Value
  osnrSlope : Value
  log10BerMean : Value
  log10BerStd : Value
  log10BerSlope : Value
  laserBiasMean : Value
  laserBiasSlope : Value
  deriving Repr, DecidableEq

/-- The loop `while (samples_.size() > capacity_) samples_.pop_front()`. -/
def evict {Item : Type} (capacity : Nat) : List Item → List Item
  | [] => []
  | oldest :: rest =>
      if capacity < (oldest :: rest).length then evict capacity rest
      else oldest :: rest

/-- The loop keeps the newest `capacity` items. -/
theorem evict_eq_drop
    {Item : Type}
    (capacity : Nat)
    (items : List Item) :
    evict capacity items = items.drop (items.length - capacity) := by
  induction items with
  | nil =>
      simp [evict]
  | cons oldest rest inductionHypothesis =>
      simp only [evict]
      split
      · rename_i tooMany
        rw [inductionHypothesis]
        have longer :
            (oldest :: rest).length - capacity =
              (rest.length - capacity) + 1 := by
          simp only [List.length_cons] at tooMany ⊢
          omega
        rw [longer, List.drop_succ_cons]
      · rename_i fits
        rw [Nat.sub_eq_zero_of_le (not_lt.mp fits), List.drop_zero]

theorem length_evict_le
    {Item : Type}
    (capacity : Nat)
    (items : List Item) :
    (evict capacity items).length ≤ capacity := by
  rw [evict_eq_drop, List.length_drop]
  omega

/-- `Window`. -/
structure Window (Value : Type) where
  capacity : Nat
  samples : List (Sample Value)
  positive : 0 < capacity
  within : samples.length ≤ capacity
  deriving Repr, DecidableEq

namespace Window

variable {Value : Type}

/-- The constructor; capacity zero stands for the default. -/
def ofCapacity (capacity : Nat) : Window Value where
  capacity := if capacity = 0 then kWindowN else capacity
  samples := []
  positive := by
    split
    · decide
    · rename_i nonzero
      exact Nat.pos_of_ne_zero nonzero
  within := Nat.zero_le _

/-- `push`. -/
def push
    (window : Window Value)
    (sample : Sample Value) : Window Value where
  capacity := window.capacity
  samples := evict window.capacity (window.samples ++ [sample])
  positive := window.positive
  within := length_evict_le _ _

/-- `full`. -/
def full (window : Window Value) : Bool :=
  window.samples.length = window.capacity

theorem full_iff {window : Window Value} :
    window.full = true ↔ window.samples.length = window.capacity := by
  simp [full]

/-- `size`. -/
def size (window : Window Value) : Nat :=
  window.samples.length

/-- `back`; `none` is the exception thrown for an empty window. -/
def back (window : Window Value) : Option (Sample Value) :=
  window.samples.getLast?

section Series

variable [Field Value] [LinearOrder Value]

/-- `series`. -/
def series
    (library : IngestLibrary Value)
    (window : Window Value)
    (channel : Channel) : List Value :=
  window.samples.map fun sample =>
    match channel with
    | .kOsnrDb => sample.osnrDb
    | .kLog10Ber => Cpp.log10Ber library.log10 sample.ber
    | .kLaserBiasMa => sample.laserBiasMa
    | .kEdfaPumpMa => sample.edfaPumpMa
    | .kRxPowerDbm => sample.rxPowerDbm

/-- `stats`. -/
def stats
    (library : IngestLibrary Value)
    (window : Window Value) : WindowStats Value :=
  let osnr := window.series library .kOsnrDb
  let lber := window.series library .kLog10Ber
  let bias := window.series library .kLaserBiasMa
  { osnrMean := Cpp.mean osnr
    osnrStd := Cpp.stddev library.sqrt osnr
    osnrSlope := Cpp.olsSlope osnr
    log10BerMean := Cpp.mean lber
    log10BerStd := Cpp.stddev library.sqrt lber
    log10BerSlope := Cpp.olsSlope lber
    laserBiasMean := Cpp.mean bias
    laserBiasSlope := Cpp.olsSlope bias }

end Series

/-- A push moves the window on by one sample. -/
theorem samples_push
    (window : Window Value)
    (sample : Sample Value) :
    (window.push sample).samples =
      if window.full then window.samples.tail ++ [sample]
      else window.samples ++ [sample] := by
  have within := window.within
  have positive := window.positive
  simp only [push, full, evict_eq_drop, List.length_append,
    List.length_singleton]
  by_cases isFull : window.samples.length = window.capacity
  · have one :
        window.samples.length + 1 - window.capacity = 1 := by
      omega
    have nonempty : 1 ≤ window.samples.length := by
      omega
    simp only [isFull, decide_true, if_true] at one ⊢
    rw [one, List.drop_append_of_le_length nonempty, List.drop_one]
  · have none :
        window.samples.length + 1 - window.capacity = 0 := by
      omega
    simp only [isFull, decide_false, Bool.false_eq_true, if_false]
    rw [none, List.drop_zero]

@[simp] theorem capacity_push
    (window : Window Value)
    (sample : Sample Value) :
    (window.push sample).capacity = window.capacity :=
  rfl

/-- The pushed sample is the newest one. -/
theorem back_push
    (window : Window Value)
    (sample : Sample Value) :
    (window.push sample).back = some sample := by
  rw [back, samples_push]
  split <;> simp

end Window

/-- The `channels` array of `build_frame`. -/
def frameChannels : List Channel :=
  [.kOsnrDb, .kLog10Ber, .kLaserBiasMa, .kEdfaPumpMa, .kRxPowerDbm]

/-- The `stats` object of a frame. -/
def statsObject
    {Value : Type}
    (stats : WindowStats Value) : Dict String Value where
  entries := [
    ("osnr_mean", stats.osnrMean),
    ("osnr_std", stats.osnrStd),
    ("osnr_slope", stats.osnrSlope),
    ("log10_ber_mean", stats.log10BerMean),
    ("log10_ber_std", stats.log10BerStd),
    ("log10_ber_slope", stats.log10BerSlope),
    ("laser_bias_mean", stats.laserBiasMean),
    ("laser_bias_slope", stats.laserBiasSlope)]
  keysNodup := by
    simp only [List.map_cons, List.map_nil]
    decide

/-- `build_frame`; `none` is the exception of `back`. -/
def buildFrame
    {Value : Type}
    [Field Value] [LinearOrder Value]
    (library : IngestLibrary Value)
    (window : Window Value) : Option (Frame Value) :=
  match window.back with
  | none => none
  | some last =>
      some {
        tsUnixMs := last.tsUnixMs
        linkId := last.linkId
        channelId := last.channelId
        n := window.size
        seq :=
          frameChannels.foldl
            (fun seq channel =>
              seq.set (channelName channel)
                (window.series library channel)) Dict.empty
        stats := statsObject (window.stats library) }

/-- A window that just took a sample yields a frame of that sample. -/
theorem buildFrame_push
    {Value : Type}
    [Field Value] [LinearOrder Value]
    (library : IngestLibrary Value)
    (window : Window Value)
    (sample : Sample Value) :
    ∃ frame,
      buildFrame library (window.push sample) = some frame ∧
        frame.tsUnixMs = sample.tsUnixMs ∧
        frame.linkId = sample.linkId ∧
        frame.channelId = sample.channelId := by
  simp only [buildFrame, window.back_push sample]
  exact ⟨_, rfl, rfl, rfl, rfl⟩

end OpticsSoftfail
