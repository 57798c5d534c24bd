import OpticsSoftfail.Dict
import OpticsSoftfail.Statistics

namespace OpticsSoftfail

/-!
# Feature frames and their Python reference

A feature frame is the contract between ingest and inference.  `features.py`
builds frames from the raw samples of one key; a sample is a dictionary in which
`channel_id` may be missing and the two optional readings may be missing or
`None`.
-/

/-- One feature frame. -/
structure Frame (Value : Type) where
  tsUnixMs : Int
  linkId : String
  channelId : String
  n : Int
  seq : Dict String (List Value)
  stats : Dict String Value
  deriving Repr, DecidableEq

/-- A raw sample as a Python dictionary. -/
structure SampleRecord (Value : Type) where
  tsUnixMs : Int
  linkId : String
  channelId : Option String
  osnrDb : Value
  ber : Value
  laserBiasMa : Value
  edfaPumpMa : Option Value
  rxPowerDbm : Option Value
  deriving Repr, DecidableEq

/-- The exceptions the frame construction can raise. -/
inductive FeatureError where
  | valueError (message : String)
  | indexError
  | keyError (key : String)
  deriving Repr, DecidableEq

namespace Python

variable {Value : Type}

/-- `WINDOW_N`. -/
def WINDOW_N : Nat :=
  60

/-- `EDFA_PUMP_DEFAULT`. -/
def EDFA_PUMP_DEFAULT [Zero Value] : Value :=
  0

/-- `RX_POWER_DEFAULT`. -/
def RX_POWER_DEFAULT [Ring Value] : Value :=
  ((-99 : Int) : Value)

/-- The functions numpy supplies. -/
structure Numpy (Value : Type) where
  log10 : Value → Value
  sqrt : Value → Value

/-- `sequences_from_samples`. -/
def sequencesFromSamples
    [Field Value] [Max Value]
    (numpy : Numpy Value)
    (samples : List (SampleRecord Value)) :
    Dict String (List Value) where
  entries := [
    ("osnr_db", samples.map fun sample => sample.osnrDb),
    ("log10_ber",
      log10Ber numpy.log10 (samples.map fun sample => sample.ber)),
    ("laser_bias_ma", samples.map fun sample => sample.laserBiasMa),
    ("edfa_pump_ma",
      samples.map fun sample =>
        sample.edfaPumpMa.getD EDFA_PUMP_DEFAULT),
    ("rx_power_dbm",
      samples.map fun sample =>
        sample.rxPowerDbm.getD RX_POWER_DEFAULT)]
  keysNodup := by
    simp only [List.map_cons, List.map_nil]
    decide

/-- `seq[name]`. -/
def subscript
    {Item : Type}
    (dict : Dict String Item)
    (name : String) : Except FeatureError Item :=
  match dict.get? name with
  | some item => .ok item
  | none => .error (.keyError name)

/-- The dictionary `compute_stats` returns, for its three series. -/
def statsOf
    [Field Value] [DecidableEq Value]
    (numpy : Numpy Value)
    (osnr lber bias : List Value) : Dict String Value where
  entries := [
    ("osnr_mean", mean osnr),
    ("osnr_std", std numpy.sqrt osnr),
    ("osnr_slope", olsSlope osnr),
    ("log10_ber_mean", mean lber),
    ("log10_ber_std", std numpy.sqrt lber),
    ("log10_ber_slope", olsSlope lber),
    ("laser_bias_mean", mean bias),
    ("laser_bias_slope", olsSlope bias)]
  keysNodup := by
    simp only [List.map_cons, List.map_nil]
    decide

/-- `compute_stats`. -/
def computeStats
    [Field Value] [DecidableEq Value]
    (numpy : Numpy Value)
    (seq : Dict String (List Value)) :
    Except FeatureError (Dict String Value) := do
  let osnr ← subscript seq "osnr_db"
  let lber ← subscript seq "log10_ber"
  let bias ← subscript seq "laser_bias_ma"
  return statsOf numpy osnr lber bias

/-- `make_frame`. -/
def makeFrame
    [Field Value] [Max Value] [DecidableEq Value]
    (numpy : Numpy Value)
    (samples : List (SampleRecord Value))
    (windowN : Nat) : Except FeatureError (Frame Value) :=
  if samples.length ≠ windowN then
    .error (.valueError
      ("expected " ++ toString windowN ++ " samples, got " ++
        toString samples.length))
  else
    match samples.getLast? with
    | none => .error .indexError
    | some last => do
        let seq := sequencesFromSamples numpy samples
        let stats ← computeStats numpy seq
        return {
          tsUnixMs := last.tsUnixMs
          linkId := last.linkId
          channelId := last.channelId.getD "C1"
          n := windowN
          seq := seq
          stats := stats }

/-- The loop of `iter_frames`, started with a buffer. -/
def iterFramesFrom
    [Field Value] [Max Value] [DecidableEq Value]
    (numpy : Numpy Value)
    (windowN : Nat) :
    List (SampleRecord Value) →
      List (SampleRecord Value) →
      Except FeatureError (List (Frame Value))
  | _, [] => .ok []
  | buffer, sample :: rest =>
      let appended := buffer ++ [sample]
      let kept :=
        if windowN < appended.length then appended.tail else appended
      if kept.length = windowN then do
        let frame ← makeFrame numpy kept windowN
        let later ← iterFramesFrom numpy windowN kept rest
        return frame :: later
      else
        iterFramesFrom numpy windowN kept rest

/-- `list(iter_frames(samples, window_n))`. -/
def iterFrames
    [Field Value] [Max Value] [DecidableEq Value]
    (numpy : Numpy Value)
    (samples : List (SampleRecord Value))
    (windowN : Nat) : Except FeatureError (List (Frame Value)) :=
  iterFramesFrom numpy windowN [] samples

end Python

end OpticsSoftfail
