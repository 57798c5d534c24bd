import Mathlib.Algebra.Order.Ring.Rat
import Mathlib.Data.Rat.Floor
import OpticsSoftfail.IngestSeparation

namespace OpticsSoftfail

/-!
# The live path refines the Python reference

For one key, the frames the handler builds are the frames `iter_frames` yields
on the accepted samples of that key.  The buffer of the generator and the
samples of the window evolve alike, and each frame is computed alike, with
`log10` and `sqrt` the same functions on both sides.
-/

variable {Value : Type}

/-- The accepted sample as the dictionary the reference reads. -/
def Sample.toRecord (sample : Sample Value) : SampleRecord Value where
  tsUnixMs := sample.tsUnixMs
  linkId := sample.linkId
  channelId := some sample.channelId
  osnrDb := sample.osnrDb
  ber := sample.ber
  laserBiasMa := sample.laserBiasMa
  edfaPumpMa := some sample.edfaPumpMa
  rxPowerDbm := some sample.rxPowerDbm

/-- Numpy with the ingest's own `log10` and `sqrt`. -/
def IngestLibrary.numpy
    (library : IngestLibrary Value) : Python.Numpy Value where
  log10 := library.log10
  sqrt := library.sqrt

/-- Maps with the same entries in the same order are equal. -/
theorem Dict.eq_of_entries
    {Key Item : Type}
    {first second : Dict Key Item}
    (same : first.entries = second.entries) :
    first = second := by
  cases first
  cases second
  cases same
  rfl

/-- One round of the generator's loop is one push. -/
theorem kept_eq_push
    (window : Window Value)
    (capacity : window.capacity = Python.WINDOW_N)
    (sample : Sample Value) :
    (if Python.WINDOW_N <
          (window.samples.map Sample.toRecord ++
            [sample.toRecord]).length then
        (window.samples.map Sample.toRecord ++ [sample.toRecord]).tail
      else
        window.samples.map Sample.toRecord ++ [sample.toRecord]) =
      (window.push sample).samples.map Sample.toRecord := by
  have within := window.within
  rw [Window.samples_push]
  by_cases full : window.full
  · have length := Window.full_iff.mp full
    have nonempty : window.samples ≠ [] := by
      intro empty
      have positive := window.positive
      rw [← length, empty] at positive
      cases positive
    rw [if_pos (by simp [length, capacity]), if_pos full,
      List.tail_append_of_ne_nil (by simpa using nonempty)]
    simp
  · have shorter : window.samples.length ≠ window.capacity :=
      fun length => full (Window.full_iff.mpr length)
    rw [if_neg (by simp; omega), if_neg full]
    simp

section

variable [Field Value] [LinearOrder Value]

/-- The floor under the error rate is the same on both sides. -/
theorem log10Ber_eq
    (log10 : Value → Value)
    (values : List Value) :
    values.map (Cpp.log10Ber log10) = Python.log10Ber log10 values := by
  simp only [Python.log10Ber]
  congr 1
  funext value
  have sameFloor : (Python.BER_FLOOR : Value) = Cpp.kBerFloor := rfl
  rw [Cpp.log10Ber, sameFloor, max_def]
  by_cases above : Cpp.kBerFloor < value
  · rw [if_pos above, if_neg (not_le.mpr above)]
  · rw [if_neg above, if_pos (not_lt.mp above)]

/-- The five series of a window. -/
theorem series_eq_sequences
    (library : IngestLibrary Value)
    (window : Window Value) :
    frameChannels.foldl
        (fun seq channel =>
          seq.set (channelName channel)
            (window.series library channel)) Dict.empty =
      Python.sequencesFromSamples library.numpy
        (window.samples.map Sample.toRecord) := by
  apply Dict.eq_of_entries
  simp only [Python.sequencesFromSamples, ← log10Ber_eq]
  simp [frameChannels, channelName, Dict.set, Dict.putEntries,
    Dict.empty, Window.series, Sample.toRecord, Function.comp_def,
    IngestLibrary.numpy]

/-- The eight statistics of a nonempty window. -/
theorem stats_eq_computeStats
    [CharZero Value]
    (library : IngestLibrary Value)
    (window : Window Value)
    (nonempty : window.samples ≠ []) :
    Python.computeStats library.numpy
        (Python.sequencesFromSamples library.numpy
          (window.samples.map Sample.toRecord)) =
      .ok (statsObject (window.stats library)) := by
  have someSeries (channel : Channel) :
      window.series library channel ≠ [] := by
    simpa [Window.series] using nonempty
  rw [← series_eq_sequences]
  have read :
      Python.computeStats library.numpy
          (frameChannels.foldl
            (fun seq channel =>
              seq.set (channelName channel)
                (window.series library channel)) Dict.empty) =
        .ok (Python.statsOf library.numpy
          (window.series library .kOsnrDb)
          (window.series library .kLog10Ber)
          (window.series library .kLaserBiasMa)) := by
    simp [Python.computeStats, Python.subscript, frameChannels,
      channelName, Dict.get?_set, bind, Except.bind, pure, Except.pure]
  rw [read]
  congr 1
  apply Dict.eq_of_entries
  simp only [Python.statsOf, statsObject, Window.stats, mean_eq,
    olsSlope_eq, IngestLibrary.numpy,
    stddev_eq library.sqrt (someSeries .kOsnrDb),
    stddev_eq library.sqrt (someSeries .kLog10Ber)]

/-- A full window yields the frame the reference makes of its samples. -/
theorem buildFrame_eq_makeFrame
    [CharZero Value]
    (library : IngestLibrary Value)
    (window : Window Value)
    (full : window.samples.length = Python.WINDOW_N) :
    ∃ frame,
      buildFrame library window = some frame ∧
        Python.makeFrame library.numpy
            (window.samples.map Sample.toRecord) Python.WINDOW_N =
          .ok frame := by
  have nonempty : window.samples ≠ [] := by
    intro empty
    rw [empty] at full
    cases full
  obtain ⟨last, isLast⟩ :
      ∃ last, window.samples.getLast? = some last :=
    ⟨_, List.getLast?_eq_some_getLast nonempty⟩
  have stats := stats_eq_computeStats library window nonempty
  simp only [buildFrame, Window.back, isLast]
  refine ⟨_, rfl, ?_⟩
  simp only [Python.makeFrame, List.length_map, full, ne_eq,
    not_true_eq_false, if_false, List.getLast?_map, isLast,
    Option.map_some, stats, series_eq_sequences, Window.size]
  rfl

/-- The generator, started with the window's samples as its buffer. -/
theorem iterFramesFrom_eq
    [CharZero Value]
    (library : IngestLibrary Value)
    (window : Window Value)
    (capacity : window.capacity = Python.WINDOW_N)
    (samples : List (Sample Value)) :
    ∃ frames,
      (fullWindows window samples).map (buildFrame library) =
          frames.map some ∧
        Python.iterFramesFrom library.numpy Python.WINDOW_N
            (window.samples.map Sample.toRecord)
            (samples.map Sample.toRecord) =
          .ok frames := by
  induction samples generalizing window with
  | nil =>
      exact ⟨[], rfl, rfl⟩
  | cons sample rest inductionHypothesis =>
      obtain ⟨later, built, yielded⟩ :=
        inductionHypothesis (window.push sample) capacity
      simp only [List.map_cons, Python.iterFramesFrom,
        kept_eq_push window capacity, List.length_map, fullWindows]
      by_cases full : (window.push sample).full
      · have length := Window.full_iff.mp full
        rw [Window.capacity_push, capacity] at length
        obtain ⟨frame, isBuilt, isMade⟩ :=
          buildFrame_eq_makeFrame library (window.push sample) length
        refine ⟨frame :: later, ?_, ?_⟩
        · rw [if_pos full, List.map_cons, isBuilt, built,
            List.map_cons]
        · rw [if_pos length, isMade, yielded]
          rfl
      · have shorter :
            (window.push sample).samples.length ≠ Python.WINDOW_N := by
          intro length
          apply full
          rw [Window.full_iff, length, Window.capacity_push, capacity]
        refine ⟨later, ?_, ?_⟩
        · rw [if_neg full, built]
        · rw [if_neg shorter, yielded]

section

variable [FloorRing Value]

/-- The frames the handler builds from samples of one key, in order. -/
def framesOfKey
    (library : IngestLibrary Value)
    (lines : List (List UInt8))
    (key : String) : List (Option (Frame Value)) :=
  ((ingestEmissions library lines).filter fun emission =>
    emission.sample.key = key).map fun emission =>
      buildFrame library emission.window

/-- What the handler does for one key, in terms of its accepted samples. -/
structure RefinesReference
    (library : IngestLibrary Value)
    (lines : List (List UInt8))
    (key : String) : Prop where
  /-- The frames are those of `iter_frames`, and none fails to be built. -/
  frames :
    ∃ frames,
      framesOfKey library lines key = frames.map some ∧
        Python.iterFrames library.numpy
            ((acceptedWithKey library lines key).map Sample.toRecord)
            Python.WINDOW_N =
          .ok frames
  /-- From the 60th sample on, each frame holds the last 60, oldest first. -/
  windows :
    ((ingestEmissions library lines).filter fun emission =>
        emission.sample.key = key).map
          (fun emission => emission.window.samples) =
      (List.range
          ((acceptedWithKey library lines key).length - 59)).map
        fun start =>
          ((acceptedWithKey library lines key).drop start).take 60

/-- Whatever the lines and the key, the live path refines the reference. -/
theorem live_path_refines_reference
    [IsStrictOrderedRing Value]
    (library : IngestLibrary Value)
    (lines : List (List UInt8))
    (key : String) :
    RefinesReference library lines key where
  frames := by
    obtain ⟨frames, built, yielded⟩ := iterFramesFrom_eq library
      (Windows.windowFor (Dict.empty : Windows Value) key) rfl
      (acceptedWithKey library lines key)
    refine ⟨frames, ?_, yielded⟩
    rw [← built, framesOfKey, acceptedWithKey,
      ← Windows.windows_of_key, List.map_map, ingestEmissions,
      Windows.emissions_eq_sampleEmissions]
    rfl
  windows := by
    rw [samples_of_key, slices_eq_map_range (by decide)]
    rfl

end

end

/-- Sixty-one samples of one pair, an unreadable line and another pair. -/
def interleavedLines : List (List UInt8) :=
  List.replicate 30 (sampleLine "a" "b|c") ++ [[]] ++
    List.replicate 31 (sampleLine "a" "b|c")

/-- Two windows of the samples of key `a|b|c`, around a malformed line. -/
theorem live_path_refines_reference_interleaved :
    (framesOfKey collisionLibrary interleavedLines "a|b|c").length = 2 ∧
      RefinesReference collisionLibrary interleavedLines "a|b|c" :=
  ⟨by decide +kernel,
    live_path_refines_reference collisionLibrary interleavedLines
      "a|b|c"⟩

end OpticsSoftfail
