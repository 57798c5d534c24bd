import OpticsSoftfail.IngestWindow
import OpticsSoftfail.SlidingWindows

namespace OpticsSoftfail

/-!
# The line handler of the ingest

The handler keeps one window for each key `link_id|channel_id`.  An accepted
sample is pushed into the window of its key, and a frame is built whenever that
window is full.  What a run emits for one key is then a matter of the accepted
samples of that key alone, and distinct pairs stay apart exactly as far as their
keys do.  The counters, which are only logged, are not modelled.
-/

/-- `window_key`. -/
def windowKey (linkId channelId : String) : String :=
  linkId ++ "|" ++ channelId

/-- The map of windows in `main`. -/
abbrev Windows (Value : Type) := Dict String (Window Value)

/-- A frame to be built: the sample that completed a window, and the window. -/
structure Emission (Value : Type) where
  sample : Sample Value
  window : Window Value
  deriving Repr, DecidableEq

variable {Value : Type}

/-- The key of a sample. -/
def Sample.key (sample : Sample Value) : String :=
  windowKey sample.linkId sample.channelId

namespace Windows

/-- The window of a key, created when it is missing. -/
def windowFor
    (windows : Windows Value)
    (key : String) : Window Value :=
  (windows.get? key).getD (Window.ofCapacity kWindowN)

/-- The handler on an accepted sample. -/
def handleSample
    (windows : Windows Value)
    (sample : Sample Value) : Windows Value × Option (Emission Value) :=
  let window := (windows.windowFor sample.key).push sample
  (windows.set sample.key window,
    if window.full then some ⟨sample, window⟩ else none)

/-- The handler on one line. -/
def handleLine
    [Ring Value] [LinearOrder Value] [FloorRing Value]
    (library : IngestLibrary Value)
    (windows : Windows Value)
    (line : List UInt8) : Windows Value × Option (Emission Value) :=
  match acceptedSample? library line with
  | none => (windows, none)
  | some sample => windows.handleSample sample

/-- What the handler emits for a sequence of lines. -/
def emissions
    [Ring Value] [LinearOrder Value] [FloorRing Value]
    (library : IngestLibrary Value)
    (windows : Windows Value) :
    List (List UInt8) → List (Emission Value)
  | [] => []
  | line :: rest =>
      let handled := windows.handleLine library line
      handled.2.toList ++ emissions library handled.1 rest

/-- What the handler emits for a sequence of accepted samples. -/
def sampleEmissions
    (windows : Windows Value) :
    List (Sample Value) → List (Emission Value)
  | [] => []
  | sample :: rest =>
      let handled := windows.handleSample sample
      handled.2.toList ++ sampleEmissions handled.1 rest

end Windows

/-- The accepted samples of a sequence of lines, in arrival order. -/
def acceptedSamples
    [Ring Value] [LinearOrder Value] [FloorRing Value]
    (library : IngestLibrary Value)
    (lines : List (List UInt8)) : List (Sample Value) :=
  lines.filterMap (acceptedSample? library)

/-- The accepted samples of one key. -/
def acceptedWithKey
    [Ring Value] [LinearOrder Value] [FloorRing Value]
    (library : IngestLibrary Value)
    (lines : List (List UInt8))
    (key : String) : List (Sample Value) :=
  (acceptedSamples library lines).filter fun sample =>
    sample.key = key

/-- The emissions of `main`, which starts without any window. -/
def ingestEmissions
    [Ring Value] [LinearOrder Value] [FloorRing Value]
    (library : IngestLibrary Value)
    (lines : List (List UInt8)) : List (Emission Value) :=
  Windows.emissions library Dict.empty lines

namespace Windows

/-- Rejected lines have no influence. -/
theorem emissions_eq_sampleEmissions
    [Ring Value] [LinearOrder Value] [FloorRing Value]
    (library : IngestLibrary Value)
    (windows : Windows Value)
    (lines : List (List UInt8)) :
    windows.emissions library lines =
      windows.sampleEmissions (acceptedSamples library lines) := by
  induction lines generalizing windows with
  | nil =>
      rfl
  | cons line rest inductionHypothesis =>
      cases accepted : acceptedSample? library line with
      | none =>
          simp [emissions, handleLine, acceptedSamples, accepted,
            inductionHypothesis]
      | some sample =>
          simp [emissions, handleLine, acceptedSamples, accepted,
            sampleEmissions, inductionHypothesis]

/-- A sample goes into the window of its key and leaves the others alone. -/
theorem windowFor_handleSample
    (windows : Windows Value)
    (sample : Sample Value)
    (key : String) :
    (windows.handleSample sample).1.windowFor key =
      if sample.key = key then (windows.windowFor key).push sample
      else windows.windowFor key := by
  simp only [handleSample, windowFor, Dict.get?_set]
  by_cases same : sample.key = key
  · simp [same]
  · simp [same, Ne.symm same]

end Windows

/-- The full windows while samples are pushed one after the other. -/
def fullWindows
    (window : Window Value) : List (Sample Value) → List (Window Value)
  | [] => []
  | sample :: rest =>
      let pushed := window.push sample
      if pushed.full then pushed :: fullWindows pushed rest
      else fullWindows pushed rest

/-- The windows emitted for a key are the full windows of its own samples. -/
theorem Windows.windows_of_key
    (windows : Windows Value)
    (samples : List (Sample Value))
    (key : String) :
    ((windows.sampleEmissions samples).filter fun emission =>
        emission.sample.key = key).map Emission.window =
      fullWindows (windows.windowFor key)
        (samples.filter fun sample => sample.key = key) := by
  induction samples generalizing windows with
  | nil =>
      rfl
  | cons sample rest inductionHypothesis =>
      have later := inductionHypothesis (windows.handleSample sample).1
      rw [windowFor_handleSample] at later
      by_cases same : sample.key = key
      · subst same
        rw [if_pos rfl] at later
        have emitted :
            (windows.handleSample sample).2 =
              if ((windows.windowFor sample.key).push sample).full then
                some ⟨sample,
                  (windows.windowFor sample.key).push sample⟩
              else none :=
          rfl
        simp only [sampleEmissions, List.filter_append, List.map_append,
          later, List.filter_cons_of_pos, decide_true, fullWindows,
          emitted]
        split <;> simp
      · rw [if_neg same] at later
        have silent :
            (((windows.handleSample sample).2.toList.filter
              fun emission => emission.sample.key = key)) = [] := by
          simp only [handleSample]
          split <;> simp [same]
        simp [sampleEmissions, List.filter_append, silent, later, same]

/-- What the next push keeps of the window. -/
def Window.pending (window : Window Value) : List (Sample Value) :=
  if window.full then window.samples.tail else window.samples

theorem Window.samples_push_eq_pending
    (window : Window Value)
    (sample : Sample Value) :
    (window.push sample).samples = window.pending ++ [sample] := by
  rw [samples_push, pending]
  split <;> rfl

theorem Window.length_pending_lt (window : Window Value) :
    window.pending.length < window.capacity := by
  have within := window.within
  have positive := window.positive
  simp only [pending, full, decide_eq_true_eq]
  split
  · rw [List.length_tail]
    omega
  · omega

/-- The full windows hold all stretches of the capacity's length. -/
theorem samples_fullWindows
    (window : Window Value)
    (samples : List (Sample Value)) :
    (fullWindows window samples).map Window.samples =
      slices window.capacity (window.pending ++ samples) := by
  induction samples generalizing window with
  | nil =>
      rw [List.append_nil,
        slices_eq_nil_of_short window.length_pending_lt]
      rfl
  | cons sample rest inductionHypothesis =>
      have later := inductionHypothesis (window.push sample)
      have pushed := window.samples_push_eq_pending sample
      have regroup :
          window.pending ++ sample :: rest =
            (window.push sample).samples ++ rest := by
        rw [pushed, List.append_assoc, List.singleton_append]
      rw [Window.capacity_push] at later
      rw [regroup]
      by_cases isFull : (window.push sample).full
      · have length :
            (window.push sample).samples.length = window.capacity :=
          Window.full_iff.mp isFull
        simp only [fullWindows, isFull, if_true, List.map_cons, later,
          Window.pending]
        -- The window is nonempty and the first of the slices.
        obtain ⟨oldest, others, shape⟩ :=
          List.exists_cons_of_length_pos
            (length ▸ window.positive)
        rw [shape] at length ⊢
        simp only [List.cons_append, slices, List.tail_cons]
        rw [if_pos (by simp only [List.length_cons,
          List.length_append] at length ⊢; omega)]
        rw [← List.cons_append, ← length, List.take_left]
      · simp only [fullWindows, isFull, Bool.false_eq_true, if_false,
          later, Window.pending]

/-- Each emission pushed its sample into a window. -/
theorem exists_push_of_mem_sampleEmissions
    {windows : Windows Value}
    {samples : List (Sample Value)}
    {emission : Emission Value}
    (member : emission ∈ windows.sampleEmissions samples) :
    ∃ before : Window Value,
      emission.window = before.push emission.sample := by
  induction samples generalizing windows with
  | nil =>
      simp [Windows.sampleEmissions] at member
  | cons sample rest inductionHypothesis =>
      simp only [Windows.sampleEmissions, List.mem_append] at member
      rcases member with isFirst | later
      · simp only [Windows.handleSample] at isFirst
        split at isFirst
        · simp only [Option.toList_some, List.mem_singleton] at isFirst
          subst emission
          exact ⟨windows.windowFor sample.key, rfl⟩
        · simp at isFirst
      · exact inductionHypothesis later

/-- The samples of the emissions are some of those that were accepted. -/
theorem Windows.samples_sublist
    (windows : Windows Value)
    (samples : List (Sample Value)) :
    ((windows.sampleEmissions samples).map Emission.sample).Sublist
      samples := by
  induction samples generalizing windows with
  | nil =>
      exact List.Sublist.refl _
  | cons sample rest inductionHypothesis =>
      have first :
          ((windows.handleSample sample).2.toList.map
            Emission.sample).Sublist [sample] := by
        simp only [handleSample]
        split
        · exact List.Sublist.refl _
        · exact List.nil_sublist _
      rw [sampleEmissions, List.map_append]
      exact first.append (inductionHypothesis _)

section FromStart

/-! ## Runs of `main` -/

variable [Ring Value] [LinearOrder Value] [FloorRing Value]

/-- The windows emitted for a key, as runs of its accepted samples. -/
theorem samples_of_key
    (library : IngestLibrary Value)
    (lines : List (List UInt8))
    (key : String) :
    ((ingestEmissions library lines).filter fun emission =>
        emission.sample.key = key).map
          (fun emission => emission.window.samples) =
      slices kWindowN (acceptedWithKey library lines key) := by
  have windows := Windows.windows_of_key
    (Dict.empty : Windows Value) (acceptedSamples library lines) key
  have samples := samples_fullWindows
    (Windows.windowFor (Dict.empty : Windows Value) key)
    (acceptedWithKey library lines key)
  rw [acceptedWithKey, ← windows, List.map_map] at samples
  rw [ingestEmissions, Windows.emissions_eq_sampleEmissions]
  exact samples

/-- What an emission of `main` consists of. -/
structure EmissionSpec
    (library : IngestLibrary Value)
    (lines : List (List UInt8))
    (emission : Emission Value) : Prop where
  /-- The window has just taken the sample. -/
  pushed :
    ∃ before : Window Value,
      emission.window = before.push emission.sample
  length : emission.window.samples.length = kWindowN
  /-- It holds accepted samples of the sample's key. -/
  own :
    ∀ sample ∈ emission.window.samples,
      sample ∈ acceptedWithKey library lines emission.sample.key

theorem emissionSpec
    {library : IngestLibrary Value}
    {lines : List (List UInt8)}
    {emission : Emission Value}
    (member : emission ∈ ingestEmissions library lines) :
    EmissionSpec library lines emission := by
  have ofKey :
      emission.window.samples ∈
        slices kWindowN
          (acceptedWithKey library lines emission.sample.key) := by
    rw [← samples_of_key]
    exact List.mem_map_of_mem
      (f := fun emission : Emission Value => emission.window.samples)
      (List.mem_filter.mpr ⟨member, by simp⟩)
  obtain ⟨length, own⟩ := mem_of_mem_slices ofKey
  rw [ingestEmissions, Windows.emissions_eq_sampleEmissions] at member
  exact {
    pushed := exists_push_of_mem_sampleEmissions member
    length := length
    own := own }

/-- Of a key that emits, all samples but the first 59 complete a window. -/
theorem countP_emissions_of_key
    {library : IngestLibrary Value}
    {lines : List (List UInt8)}
    {emission : Emission Value}
    (member : emission ∈ ingestEmissions library lines) :
    (ingestEmissions library lines).countP
        (fun other => other.sample.key = emission.sample.key) + 59 =
      (acceptedSamples library lines).countP
        (fun sample => sample.key = emission.sample.key) := by
  have lengths := congrArg List.length
    (samples_of_key library lines emission.sample.key)
  rw [List.length_map, length_slices (by decide), acceptedWithKey,
    ← List.countP_eq_length_filter, ← List.countP_eq_length_filter]
    at lengths
  have some :
      0 < (ingestEmissions library lines).countP
        (fun other => other.sample.key = emission.sample.key) :=
    List.countP_pos_iff.mpr ⟨emission, member, by simp⟩
  rw [kWindowN] at lengths
  omega

end FromStart

end OpticsSoftfail
