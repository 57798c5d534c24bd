import OpticsSoftfail.HealerEvidence
import OpticsSoftfail.IngestSeparation
import OpticsSoftfail.PostedFrames
import OpticsSoftfail.ReplayFrames

namespace OpticsSoftfail

namespace DetectionPath

/-!
# From the samples to a reroute

The ingest turns samples into frames, infer turns frames into observations, and
the healer counts observations until it reroutes a link.  Frames and
observations may be lost on the way and may overtake one another.  A reroute is
nevertheless backed by as many windows of its link as the thresholds ask for,
and so by enough samples that the ingest accepted.
-/

open InferTasks Python

variable {Value : Type} [Field Value] [LinearOrder Value]

/-- What one process of infer scores with. -/
structure Detector (Value : Type) [Field Value] where
  features : Numpy Value
  numpy : ScoringNumpy Value
  pipeline : Pipeline Value

/-- What the thread computes from a frame. -/
def Detector.score?
    (detector : Detector Value)
    (frame : Frame Value) : Option (FrameScore (FloatScore Value)) :=
  (scorePipelineFrame detector.features detector.numpy detector.pipeline
    (frameDict frame)).map fun scores => {
      tsUnixMs := frame.tsUnixMs
      sIf := scores.sIf
      sAe := scores.sAe
      pFail10m := scores.pFail10m }

/-- The observation of a frame. -/
def Detector.observe?
    (detector : Detector Value)
    (frame : Frame Value) : Option (Observation (FloatScore Value)) :=
  (detector.score? frame).map fun score => {
    tsUnixMs := score.tsUnixMs
    linkId := frame.linkId
    channelId := frame.channelId
    sIf := score.sIf
    sAe := score.sAe
    pFail10m := score.pFail10m }

/-- A series as a JSON array. -/
def seriesJson (series : List Value) : Json Value :=
  .array (series.map fun value => .number (.finite value))

/-- The document of a frame. -/
def frameJson (frame : Frame Value) : Json Value :=
  .object [
    ("ts_unix_ms", .number (.finite (frame.tsUnixMs : Value))),
    ("link_id", .string frame.linkId),
    ("channel_id", .string frame.channelId),
    ("n", .number (.finite (frame.n : Value))),
    ("seq", .object (frame.seq.entries.map fun entry =>
      (entry.1, seriesJson entry.2))),
    ("stats", .object (frame.stats.entries.map fun entry =>
      (entry.1, .number (.finite entry.2))))]

/-- Infer loads the frame that was dumped, and scores it with the detector. -/
structure ReadsFrame
    (decoder : Decoder Value)
    (score : Json Value → Option (FrameScore (FloatScore Value)))
    (detector : Detector Value)
    (frame : Frame Value)
    (text : List Char) : Prop where
  loads : decoder.loads text = .value (frameJson frame)
  scores : score (frameJson frame) = detector.score? frame

variable {decoder : Decoder Value}
variable {score : Json Value → Option (FrameScore (FloatScore Value))}
variable {detector : Detector Value} {frame : Frame Value}

/-- The line of a frame has the observation of the frame. -/
theorem ReadsFrame.observed?
    {text : List Char}
    (reads : ReadsFrame decoder score detector frame text) :
    InferTasks.observed? decoder score text = detector.observe? frame := by
  have isFrame : decoder.lineFrame? text = some (frameJson frame) := by
    rw [Decoder.lineFrame?, Decoder.handleLine, reads.loads]
    rfl
  rw [InferTasks.observed?, isFrame, Option.bind_some, reads.scores]
  rfl

variable [FloorRing Value]

/-- The observation of the window of an emission. -/
def observed?
    (library : IngestLibrary Value)
    (detector : Detector Value)
    (emission : Emission Value) : Option (Observation (FloatScore Value)) :=
  (buildFrame library emission.window).bind detector.observe?

/-- The frames that the handler of the ingest passes to `send_line`. -/
def builtFrames
    (library : IngestLibrary Value)
    (ingested : List Bytes) : List (Frame Value) :=
  (ingestEmissions library ingested).filterMap fun emission =>
    buildFrame library emission.window

/--
A run of everything between the handler of the ingest and the posts of infer:
the calls of `send_line`, the connections and the tasks that handle them.
-/
structure LinkRun
    (library : IngestLibrary Value)
    (detector : Detector Value)
    (ingested : List Bytes) where
  decoder : Decoder Value
  exceedsLimits : List Char → Bool
  score : Json Value → Option (FrameScore (FloatScore Value))
  dump : Frame Value → List Char
  calls : List SendCall
  events : List (Event (FloatScore Value))
  final : State Value (FloatScore Value)
  agrees : ∀ line, (decoder.loads line).loaded = loads exceedsLimits line
  dumps :
    ∀ frame ∈ builtFrames library ingested,
      FrameLink.IsFrameDump exceedsLimits (dump frame)
  reads :
    ∀ frame ∈ builtFrames library ingested,
      ReadsFrame decoder score detector frame (dump frame)
  lines :
    calls.map SendCall.line =
      (builtFrames library ingested).map fun frame =>
        Utf8.encode (dump frame)
  run : Transition.run? (step? decoder) initial events = some final
  scored :
    Transition.AllSteps (step? decoder) (ScoredBy score) initial events
  /-- What has arrived of the connections' bytes. -/
  delivered :
    ∀ connection,
      arrivals connection events <+:
        (DownstreamClient.initial.sendAll calls).1.connections.getD
          connection []

section Posts

/-! ## What infer posts -/

variable {library : IngestLibrary Value} {ingested : List Bytes}

/-- The observations that infer has posted, in this order. -/
def LinkRun.posted
    (link : LinkRun library detector ingested) :
    List (Observation (FloatScore Value)) :=
  link.final.posts.map Post.observation

/-- Every observation is that of a window of its own. -/
theorem posted_subperm (link : LinkRun library detector ingested) :
    link.posted.Subperm
      ((ingestEmissions library ingested).filterMap
        (observed? library detector)) := by
  let texts := (builtFrames library ingested).map link.dump
  have dumps : ∀ text ∈ texts,
      FrameLink.IsFrameDump link.exceedsLimits text := by
    intro text member
    obtain ⟨frame, isBuilt, rfl⟩ := List.mem_map.mp member
    exact link.dumps frame isBuilt
  have lines : link.calls.map SendCall.line = texts.map Utf8.encode :=
    link.lines.trans List.map_map.symm
  have posts :=
    posts_are_observed_once link.agrees link.run link.scored dumps lines
      link.delivered
  have same :
      texts.filterMap (InferTasks.observed? link.decoder link.score) =
        (ingestEmissions library ingested).filterMap
          (observed? library detector) := by
    have alike :
        (builtFrames library ingested).filterMap
            (InferTasks.observed? link.decoder link.score ∘ link.dump) =
          (builtFrames library ingested).filterMap detector.observe? :=
      List.filterMap_congr fun frame member =>
        (link.reads frame member).observed?
    rw [List.filterMap_map, alike, builtFrames, List.filterMap_filterMap]
    rfl
  rwa [same] at posts

/--
The observation is that of an emission, whose window holds the latest sixty
samples of its key up to the sample that the observation speaks of.
-/
structure OfWindow
    (library : IngestLibrary Value)
    (detector : Detector Value)
    (ingested : List Bytes)
    (observation : Observation (FloatScore Value))
    (emission : Emission Value) : Prop where
  observed : observed? library detector emission = some observation
  tsUnixMs : observation.tsUnixMs = emission.sample.tsUnixMs
  linkId : observation.linkId = emission.sample.linkId
  channelId : observation.channelId = emission.sample.channelId
  length : emission.window.samples.length = 60
  newest : emission.window.samples.getLast? = some emission.sample
  ofKey :
    emission.window.samples <:+:
      acceptedWithKey library ingested emission.sample.key

theorem ofWindow
    {observation : Observation (FloatScore Value)}
    {emission : Emission Value}
    (member : emission ∈ ingestEmissions library ingested)
    (observed : observed? library detector emission = some observation) :
    OfWindow library detector ingested observation emission := by
  obtain ⟨⟨before, isPush⟩, length, _⟩ := emissionSpec member
  obtain ⟨frame, built, stamp, link, channel⟩ :=
    buildFrame_push library before emission.sample
  rw [← isPush] at built
  have isObserved := observed
  rw [DetectionPath.observed?, built, Option.bind_some,
    Detector.observe?] at isObserved
  obtain ⟨score, isScore, rfl⟩ := Option.map_eq_some_iff.mp isObserved
  obtain ⟨scores, _, rfl⟩ := Option.map_eq_some_iff.mp isScore
  have inKey :
      emission.window.samples ∈
        slices kWindowN
          (acceptedWithKey library ingested emission.sample.key) := by
    rw [← samples_of_key]
    exact List.mem_map_of_mem
      (f := fun emission : Emission Value => emission.window.samples)
      (List.mem_filter.mpr ⟨member, by simp⟩)
  exact {
    observed
    tsUnixMs := stamp
    linkId := link
    channelId := channel
    length
    newest := by
      rw [isPush]
      exact before.back_push emission.sample
    ofKey := infix_of_mem_slices (by decide) inKey }

/--
However the connections break and the tasks take turns, every observation that
infer posts is that of a full window, and no two are of the same emission.
-/
theorem observations_are_of_windows
    (link : LinkRun library detector ingested) :
    ∃ emissions,
      emissions.Subperm (ingestEmissions library ingested) ∧
        List.Forall₂ (OfWindow library detector ingested) link.posted
          emissions := by
  obtain ⟨emissions, among, related⟩ :=
    exists_subperm_of_subperm_filterMap (posted_subperm link)
  refine ⟨emissions, among, ?_⟩
  refine List.forall₂_of_length_eq_of_get related.length_eq ?_
  intro position inside within
  exact ofWindow (among.subset (List.get_mem emissions ⟨position, within⟩))
    (related.get inside within)

end Posts

section Counting

variable {Value Time : Type} [LinearOrder Value]
variable {healer : Healer (FloatScore Value) Time}

/-- The observation is of the link and not below the threshold. -/
def Counts
    (healer : Healer (FloatScore Value) Time)
    (linkId : String)
    (observation : Observation (FloatScore Value)) : Prop :=
  observation.linkId = linkId ∧
    ¬ observation.pFail10m < healer.thresholds.pFailThreshold

instance decidableCounts
    (linkId : String)
    (observation : Observation (FloatScore Value)) :
    Decidable (Counts healer linkId observation) :=
  inferInstanceAs (Decidable (_ ∧ _))

/-- The final stretch consists of observations that count. -/
theorem stretchLength_le_countP
    (linkId : String)
    (calls : List (ObserveCall (FloatScore Value) Time)) :
    healer.stretchLength linkId calls ≤
      (calls.map ObserveCall.observation).countP
        (fun observation => Counts healer linkId observation) := by
  rw [List.countP_map]
  have counted (call : ObserveCall (FloatScore Value) Time)
      (member :
        call ∈ (calls.filter fun call =>
            call.observation.linkId = linkId).rtakeWhile fun call =>
          ¬ call.observation.pFail10m <
            healer.thresholds.pFailThreshold) :
      Counts healer linkId call.observation := by
    have reaches := List.mem_rtakeWhile_imp member
    have ofLink := (List.rtakeWhile_suffix _ _).subset member
    exact ⟨by simpa using (List.mem_filter.mp ofLink).2,
      by simpa using reaches⟩
  calc
    healer.stretchLength linkId calls =
        ((calls.filter fun call =>
            call.observation.linkId = linkId).rtakeWhile fun call =>
          ¬ call.observation.pFail10m <
            healer.thresholds.pFailThreshold).countP
          ((fun observation => decide (Counts healer linkId observation)) ∘
            ObserveCall.observation) :=
      (List.countP_eq_length.mpr fun call member => by
        simpa using counted call member).symm
    _ ≤ calls.countP
          ((fun observation => decide (Counts healer linkId observation)) ∘
            ObserveCall.observation) :=
      ((List.rtakeWhile_suffix _ _).sublist.trans
        List.filter_sublist).countP_le

variable [Field Time] [LinearOrder Time] [FloorRing Time]

/-- An emission needs as many observations as the thresholds ask for. -/
theorem le_countP_of_emitted
    {before : List (ObserveCall (FloatScore Value) Time)}
    {call : ObserveCall (FloatScore Value) Time}
    (emitted :
      (healer.observe (healer.linksAfter Dict.empty before) call).2.action =
        .rerouteEmitted) :
    max 1 healer.thresholds.consecutiveWindows.toNat ≤
      ((before ++ [call]).map ObserveCall.observation).countP
        (fun observation =>
          Counts healer call.observation.linkId observation) := by
  obtain ⟨reaches, enough, _, _⟩ := Healer.observe_emitted_iff.mp emitted
  rw [Healer.consecutive_eq_stretchLength] at enough
  have stretch := healer.stretchLength_snoc_same before call
  rw [if_neg reaches] at stretch
  refine le_trans ?_ (stretchLength_le_countP _ _)
  rw [stretch]
  omega

end Counting

section Reroutes

/-! ## What a reroute needs -/

variable {Time : Type} [Field Time] [LinearOrder Time] [FloorRing Time]
variable {library : IngestLibrary Value} {ingested : List Bytes}
variable {healer : Healer (FloatScore Value) Time}

/-- No window is emitted for the first samples of a link. -/
theorem countP_emissions_of_link
    (separate : KeysSeparate library { line | line ∈ ingested })
    {emission : Emission Value}
    (member : emission ∈ ingestEmissions library ingested) :
    (ingestEmissions library ingested).countP
        (fun other => other.sample.linkId = emission.sample.linkId) + 59 ≤
      (acceptedSamples library ingested).countP
        (fun sample => sample.linkId = emission.sample.linkId) := by
  let accepted := acceptedSamples library ingested
  let emitted := (ingestEmissions library ingested).map Emission.sample
  let ofLink (sample : Sample Value) : Bool :=
    sample.linkId = emission.sample.linkId
  let ofKey (sample : Sample Value) : Bool :=
    sample.key = emission.sample.key
  have among : emitted.Sublist accepted := by
    have isRun :
        emitted =
          (Windows.sampleEmissions Dict.empty accepted).map
            Emission.sample :=
      congrArg (List.map Emission.sample)
        (Windows.emissions_eq_sampleEmissions library Dict.empty ingested)
    rw [isRun]
    exact Windows.samples_sublist _ _
  have isAccepted : emission.sample ∈ accepted :=
    among.subset (List.mem_map_of_mem member)
  have linkOfKey :
      (accepted.filter ofKey).countP ofLink = accepted.countP ofKey := by
    rw [List.countP_eq_length_filter (p := ofKey)]
    refine List.countP_eq_length.mpr fun sample inKey => ?_
    obtain ⟨isSample, sameKey⟩ := List.mem_filter.mp inKey
    obtain ⟨line, inLines, isFrom⟩ := mem_acceptedSamples.mp isSample
    obtain ⟨newest, newestInLines, newestFrom⟩ :=
      mem_acceptedSamples.mp isAccepted
    have pair := separate line inLines newest newestInLines sample
      emission.sample isFrom newestFrom (by simpa [ofKey] using sameKey)
    simpa [ofLink] using pair.1
  have first : emitted.countP ofKey + 59 = accepted.countP ofKey := by
    rw [List.countP_map]
    exact countP_emissions_of_key member
  have others :=
    (among.filter fun sample => !ofKey sample).countP_le (p := ofLink)
  calc
    (ingestEmissions library ingested).countP
          (fun other => other.sample.linkId = emission.sample.linkId) + 59 =
        emitted.countP ofLink + 59 := by
      rw [List.countP_map]
      rfl
    _ = (emitted.filter ofKey).countP ofLink +
          (emitted.filter fun sample => !ofKey sample).countP ofLink + 59 := by
      rw [← List.countP_eq_countP_filter_add]
    _ ≤ emitted.countP ofKey +
          (accepted.filter fun sample => !ofKey sample).countP ofLink +
            59 := by
      rw [List.countP_eq_length_filter (p := ofKey)]
      gcongr
      exact List.countP_le_length
    _ = (accepted.filter ofKey).countP ofLink +
          (accepted.filter fun sample => !ofKey sample).countP ofLink := by
      rw [linkOfKey, ← first]
      ring
    _ = accepted.countP ofLink := by
      rw [← List.countP_eq_countP_filter_add]

/--
A reroute of a link is backed by as many windows of the link as the thresholds
ask for.  If the joined keys tell the pairs apart, the ingest has accepted 59
samples of the link more than that.
-/
theorem reroutes_are_backed
    (link : LinkRun library detector ingested)
    {calls : List (ObserveCall (FloatScore Value) Time)}
    (received : (calls.map ObserveCall.observation).Subperm link.posted)
    {before after : List (ObserveCall (FloatScore Value) Time)}
    {call : ObserveCall (FloatScore Value) Time}
    (shape : calls = before ++ call :: after)
    (emitted :
      (healer.observe (healer.linksAfter Dict.empty before) call).2.action =
        .rerouteEmitted) :
    let needed := max 1 healer.thresholds.consecutiveWindows.toNat
    let linkId := call.observation.linkId
    (∃ windows : List (Emission Value),
      windows.Sublist (ingestEmissions library ingested) ∧
        needed ≤ windows.length ∧
        ∀ emission ∈ windows, ∃ observation,
          OfWindow library detector ingested observation emission ∧
            Counts healer linkId observation) ∧
      (KeysSeparate library { line | line ∈ ingested } →
        needed + 59 ≤
          (acceptedSamples library ingested).countP
            (fun sample => sample.linkId = linkId)) := by
  intro needed linkId
  let windows :=
    (ingestEmissions library ingested).filter fun emission =>
      ((observed? library detector emission).map fun observation =>
        decide (Counts healer linkId observation)).getD false
  have enough : needed ≤ windows.length := by
    have front : (before ++ [call]).Sublist calls := by
      rw [shape]
      exact (List.Sublist.refl _).append
        ((List.nil_sublist after).cons_cons call)
    have counted := le_countP_of_emitted emitted
    refine counted.trans ?_
    refine ((front.map ObserveCall.observation).countP_le).trans ?_
    refine ((received.trans (posted_subperm link)).countP_le _).trans ?_
    rw [List.countP_filterMap, List.countP_eq_length_filter]
  have ofWindows (emission : Emission Value) (member : emission ∈ windows) :
      ∃ observation,
        OfWindow library detector ingested observation emission ∧
          Counts healer linkId observation := by
    obtain ⟨isEmission, counts⟩ := List.mem_filter.mp member
    cases observed : observed? library detector emission with
    | none =>
        rw [observed] at counts
        cases counts
    | some observation =>
        rw [observed] at counts
        exact ⟨observation, ofWindow isEmission observed,
          by simpa using counts⟩
  refine ⟨⟨windows, List.filter_sublist, enough, ofWindows⟩, ?_⟩
  intro separate
  have linkOf (emission : Emission Value) (member : emission ∈ windows) :
      emission.sample.linkId = linkId := by
    obtain ⟨observation, isOf, counts⟩ := ofWindows emission member
    exact isOf.linkId.symm.trans counts.1
  have nonempty : 0 < windows.length :=
    (le_max_left 1 _).trans enough
  obtain ⟨emission, member⟩ := List.exists_mem_of_length_pos nonempty
  have fewer :
      windows.length ≤
        (ingestEmissions library ingested).countP
          (fun other => other.sample.linkId = linkId) := by
    rw [← List.countP_eq_length.mpr fun other inWindows =>
      decide_eq_true (linkOf other inWindows)]
    exact List.filter_sublist.countP_le
  have bound :=
    countP_emissions_of_link separate (List.mem_filter.mp member).1
  rw [linkOf emission member] at bound
  exact (Nat.add_le_add_right (enough.trans fewer) 59).trans bound

end Reroutes

section OneWindow

/-! Sixty equal samples, which make one window. -/

open Producer

def sixtyLines : List Bytes :=
  List.replicate 60 (Utf8.encode recordText)

theorem links_sixtyLines :
    (ingestEmissions recordLibrary sixtyLines).map
        (fun emission => (emission.sample.linkId, emission.sample.tsUnixMs)) =
      [("L1", 1710000000000)] := by
  decide +kernel

theorem eq_of_mem_sixtyLines
    {line : Bytes}
    (member : line ∈ sixtyLines) :
    line = Utf8.encode recordText :=
  List.eq_of_mem_replicate member

theorem sixtyLines_separate :
    KeysSeparate recordLibrary { line | line ∈ sixtyLines } := by
  intro first isFirst second isSecond firstSample secondSample fromFirst
    fromSecond _
  rw [eq_of_mem_sixtyLines isFirst] at fromFirst
  rw [eq_of_mem_sixtyLines isSecond, fromFirst] at fromSecond
  obtain rfl := Option.some.inj fromSecond
  exact ⟨rfl, rfl⟩

/-- A detector that knows nothing. -/
def blankDetector : Detector Rat where
  features := recordLibrary.numpy
  numpy := blankNumpy
  pipeline := blankPipeline

def frameText : List Char :=
  "\x7b\"seq\": \x7b\x7d, \"link_id\": \"L1\"\x7d".toList

/-- `json.loads` on the text of the frame. -/
def frameDecoder (frame : Frame Rat) : Decoder Rat where
  loads line :=
    if line = frameText then .value (frameJson frame)
    else if JsonText.accepts line then .value .null
    else .decodeError
  strOther _ := ""

/-- The frame is sent in one piece, scored and posted. -/
def frameEvents (score : FrameScore (FloatScore Rat)) :
    List (Event (FloatScore Rat)) := [
  .connected,
  .task 0 (.received (Utf8.encode frameText ++ [newline])),
  .task 0 .resumed,
  .task 0 (.scored (some score))]

def frameCalls : List SendCall :=
  [⟨Utf8.encode frameText, 1, some [.connected], [.wrote 99]⟩]

/-- What the detector that knows nothing answers is not below a half. -/
theorem blankPipeline_not_below (combined : FloatScore Rat) :
    ¬ combined.map (blankPipeline.horizon.predict blankNumpy.logistic) <
      .number (1 / 2) := by
  intro below
  cases combined with
  | nan =>
      exact below
  | number s =>
      have half : (1 : Rat) / (1 + 1) < 1 / 2 := below
      norm_num at half

/-- The one window makes a frame, and the frame is scored. -/
theorem exists_scored :
    ∃ frame score,
      builtFrames recordLibrary sixtyLines = [frame] ∧
        frame.linkId = "L1" ∧
        frame.tsUnixMs = 1710000000000 ∧
        blankDetector.score? frame = some score ∧
        ¬ score.pFail10m < .number (1 / 2) := by
  obtain ⟨emission, isOnly, ofSample⟩ :=
    List.map_eq_singleton_iff.mp links_sixtyLines
  obtain ⟨isLink, isStamp⟩ := Prod.mk.inj ofSample
  have spec := emissionSpec (isOnly ▸ List.mem_singleton_self emission :
    emission ∈ ingestEmissions recordLibrary sixtyLines)
  obtain ⟨frame, built, reads⟩ :=
    @readsBack_buildFrame _ _ _ recordLibrary _ emission.window spec.length
  obtain ⟨before, isPush⟩ := spec.pushed
  have isFrame := built
  rw [isPush] at isFrame
  obtain ⟨pushed, isPushed, stamp, link, _⟩ :=
    buildFrame_push recordLibrary before emission.sample
  obtain rfl := Option.some.inj (isFrame.symm.trans isPushed)
  obtain ⟨err, isErr⟩ :=
    (blankPipeline.autoencoder.exists_error?_iff blankNumpy.float32
      ((emission.window.samples.map (seqRowOf recordLibrary.log10)).map
        fun row => row.map .number)).mpr
      (by rw [List.length_map, List.length_map, spec.length]; rfl)
  have alone :=
    @score_eq_scoreWindow _ _ _ blankNumpy blankPipeline (fun _ => 0)
      (fun _ => rfl) recordLibrary.numpy frame _ _
      (reads.stats recordLibrary.numpy) reads.matrix
  rw [scoreWindow, isErr, Option.map_some] at alone
  obtain ⟨scores, isScore, combined, isProbability⟩ :
      ∃ scores,
        scorePipelineFrame recordLibrary.numpy blankNumpy blankPipeline
            (frameDict frame) = some scores ∧
          ∃ combined : FloatScore Rat,
            scores.pFail10m =
              combined.map
                (blankPipeline.horizon.predict blankNumpy.logistic) :=
    ⟨_, alone, _, rfl⟩
  refine ⟨frame, ⟨frame.tsUnixMs, scores.sIf, scores.sAe, scores.pFail10m⟩,
    ?_, link.trans isLink, stamp.trans isStamp, ?_, ?_⟩
  · rw [builtFrames, isOnly, List.filterMap_cons, built]
    rfl
  · exact congrArg (Option.map _) isScore
  · rw [isProbability]
    exact blankPipeline_not_below combined

/-- A run in which the only frame is posted. -/
theorem exists_linkRun_of_frame
    {library : IngestLibrary Rat}
    {detector : Detector Rat}
    {ingested : List Bytes}
    {frame : Frame Rat}
    {score : FrameScore (FloatScore Rat)}
    (isOnly : builtFrames library ingested = [frame])
    (isScore : detector.score? frame = some score) :
    ∃ link : LinkRun library detector ingested,
      ∃ observation,
        link.posted = [observation] ∧ observation.linkId = frame.linkId ∧
          observation.tsUnixMs = frame.tsUnixMs ∧
          observation.pFail10m = score.pFail10m := by
  have carried :
      (DownstreamClient.initial.sendAll frameCalls).1.connections =
        [Utf8.encode frameText ++ [newline]] := by
    decide +kernel
  have arrived :
      arrivals 0 (frameEvents score) = Utf8.encode frameText ++ [newline] := by
    simp [arrivals, frameEvents, Event.arrivesOn, TaskEvent.arrives]
  have dump : FrameLink.IsFrameDump (fun _ => false) frameText :=
    ⟨⟨by decide +kernel, by decide +kernel, by decide +kernel⟩,
      by decide +kernel, by decide +kernel, rfl⟩
  have reads :
      ReadsFrame (frameDecoder frame) (fun _ => some score) detector
        frame frameText :=
    ⟨by simp [frameDecoder], isScore.symm⟩
  have agrees (line : List Char) :
      ((frameDecoder frame).loads line).loaded =
        loads (fun _ => false) line := by
    have accepted : JsonText.accepts frameText = true :=
      dump.object.accepted
    by_cases isText : line = frameText
    · simp [frameDecoder, loads, isText, accepted,
        Loads.loaded]
    · by_cases isJson : JsonText.accepts line = true <;>
        simp [frameDecoder, loads, isText, isJson, Loads.loaded]
  let link : LinkRun library detector ingested := {
    decoder := frameDecoder frame
    exceedsLimits := fun _ => false
    score := fun _ => some score
    dump := fun _ => frameText
    calls := frameCalls
    events := frameEvents score
    final := {
      tasks := [⟨[], false, 1, .posting (frameJson frame) true⟩]
      posts := [⟨0, 1,
        Task.observation (frameDecoder frame) (frameJson frame) score⟩] }
    agrees
    dumps := fun _ _ => dump
    reads := by
      intro built member
      rw [isOnly, List.mem_singleton] at member
      exact member ▸ reads
    lines := by
      rw [isOnly]
      rfl
    run := by
      rfl
    scored := by
      refine Transition.allSteps_of_forall_mem ?_ _
      simp [frameEvents, ScoredBy, Task.ScoredBy]
    delivered := by
      intro connection
      cases connection with
      | zero =>
          rw [carried, arrived]
          exact List.prefix_rfl
      | succ connection =>
          exact List.nil_prefix }
  obtain ⟨scores, _, rfl⟩ := Option.map_eq_some_iff.mp isScore
  exact ⟨link, _, rfl, rfl, rfl, rfl⟩

/-- The run in which the frame is posted. -/
theorem exists_linkRun :
    ∃ link : LinkRun recordLibrary blankDetector sixtyLines,
      ∃ observation,
        link.posted = [observation] ∧ observation.linkId = "L1" ∧
          observation.tsUnixMs.natAbs < Binary64.overflow ∧
          ¬ observation.pFail10m < .number (1 / 2) := by
  obtain ⟨frame, score, isOnly, isLink, isStamp, isScore, reaches⟩ :=
    exists_scored
  obtain ⟨link, observation, isPosted, sameLink, sameStamp, sameScore⟩ :=
    exists_linkRun_of_frame isOnly isScore
  have inRange : observation.tsUnixMs.natAbs < Binary64.overflow := by
    rw [sameStamp, isStamp]
    exact Binary64.lt_overflow (by decide)
  exact ⟨link, observation, isPosted, sameLink.trans isLink, inRange,
    sameScore ▸ reaches⟩

/-- The window is posted, and the observation comes from it. -/
theorem observations_are_of_windows_one :
    ∃ link : LinkRun recordLibrary blankDetector sixtyLines,
      link.posted.length = 1 ∧
        ∃ emissions,
          emissions.Subperm (ingestEmissions recordLibrary sixtyLines) ∧
            List.Forall₂ (OfWindow recordLibrary blankDetector sixtyLines)
              link.posted emissions := by
  obtain ⟨link, observation, isPosted, _⟩ := exists_linkRun
  exact ⟨link, by rw [isPosted]; rfl, observations_are_of_windows link⟩

/-- One window is enough for this healer. -/
def promptHealer : Healer (FloatScore Rat) Rat where
  thresholds := {
    pFailThreshold := .number (1 / 2)
    consecutiveWindows := 1
    hysteresisS := 300
    horizonS := 600 }
  topology := Topology.config

/-- The observation arrives, and nobody answers the reroute. -/
def promptCall
    (observation : Observation (FloatScore Rat))
    (inRange : observation.tsUnixMs.natAbs < Binary64.overflow) :
    ObserveCall (FloatScore Rat) Rat where
  observation
  clock := 0
  payloadClock := 0
  rest := .exception "timeout"
  grpc := .exception "timeout"
  inRange

theorem promptHealer_emits
    {observation : Observation (FloatScore Rat)}
    (inRange : observation.tsUnixMs.natAbs < Binary64.overflow)
    (isLink : observation.linkId = "L1")
    (reaches : ¬ observation.pFail10m < .number (1 / 2)) :
    (promptHealer.observe Dict.empty
        (promptCall observation inRange)).2.action =
      .rerouteEmitted := by
  have resolves : promptHealer.PathsResolve observation.linkId := by
    rw [isLink]
    decide +kernel
  exact Healer.observe_emitted_iff.mpr
    ⟨reaches, Int.le_refl 1, rfl, resolves⟩

/-- Its reroute needs the window and the sixty samples. -/
theorem reroutes_are_backed_one :
    ∃ windows : List (Emission Rat),
      windows.Sublist (ingestEmissions recordLibrary sixtyLines) ∧
        1 ≤ windows.length ∧
        1 + 59 ≤
          (acceptedSamples recordLibrary sixtyLines).countP
            (fun sample => sample.linkId = "L1") := by
  obtain ⟨link, observation, isPosted, isLink, inRange, reaches⟩ :=
    exists_linkRun
  have emitted :
      (promptHealer.observe (promptHealer.linksAfter Dict.empty [])
        (promptCall observation inRange)).2.action = .rerouteEmitted :=
    promptHealer_emits inRange isLink reaches
  have received :
      ([promptCall observation inRange].map
        ObserveCall.observation).Subperm link.posted := by
    rw [isPosted]
    exact List.Subperm.refl _
  obtain ⟨⟨windows, among, enough, _⟩, samples⟩ :=
    reroutes_are_backed link received rfl emitted
  exact ⟨windows, among, enough, isLink ▸ samples sixtyLines_separate⟩

end OneWindow

end DetectionPath

end OpticsSoftfail
