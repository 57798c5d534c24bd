import OpticsSoftfail.FloatScore
import OpticsSoftfail.HealerHoldOff

namespace OpticsSoftfail

/-!
# The evidence behind a reroute

The run counter of a link counts observations of all its channels, and it
counts every score that is not below the threshold.  Two questions follow.
Which channel's observations make the healer emit?  And what does an emission
say about the scores, when they need not be comparable with the threshold?
-/

/-- At least `count` items at the front of a list pass a test. -/
theorem le_length_takeWhile_iff
    {Item : Type}
    {test : Item → Bool}
    {items : List Item}
    {count : Nat} :
    count ≤ (items.takeWhile test).length ↔
      (items.take count).length = count ∧
        ∀ item ∈ items.take count, test item = true := by
  induction items generalizing count with
  | nil =>
      cases count with
      | zero =>
          simp
      | succ count =>
          simp
  | cons head rest inductionHypothesis =>
      cases count with
      | zero =>
          simp
      | succ count =>
          cases passes : test head with
          | true =>
              simp [passes, inductionHypothesis]
          | false =>
              simp [passes]

/-- At least `count` items at the end of a list pass a test. -/
theorem le_length_rtakeWhile_iff
    {Item : Type}
    {test : Item → Bool}
    {items : List Item}
    {count : Nat} :
    count ≤ (items.rtakeWhile test).length ↔
      (items.rtake count).length = count ∧
        ∀ item ∈ items.rtake count, test item = true := by
  rw [List.rtakeWhile, List.length_reverse, le_length_takeWhile_iff,
    List.rtake_eq_reverse_take_reverse, List.length_reverse]
  simp only [List.mem_reverse]

namespace Healer

variable {Score Time : Type}

/-- The observations of one link, over all its channels. -/
def ofLink
    (linkId : String)
    (calls : List (ObserveCall Score Time)) :
    List (ObserveCall Score Time) :=
  calls.filter fun call => call.observation.linkId = linkId

/-- The observations of one channel of a link. -/
def ofChannel
    (linkId channelId : String)
    (calls : List (ObserveCall Score Time)) :
    List (ObserveCall Score Time) :=
  (ofLink linkId calls).filter fun call =>
    call.observation.channelId = channelId

/-- `consecutive_windows`; an emission always takes one observation. -/
def windowsNeeded (healer : Healer Score Time) : Nat :=
  (max 1 healer.thresholds.consecutiveWindows).toNat

/-- The latest observations of a stream meet a condition, as many as needed. -/
structure RecentWindows
    (healer : Healer Score Time)
    (condition : ObserveCall Score Time → Prop)
    (stream : List (ObserveCall Score Time)) : Prop where
  enough :
    (stream.rtake healer.windowsNeeded).length = healer.windowsNeeded
  each : ∀ call ∈ stream.rtake healer.windowsNeeded, condition call

/-- The score of an observation is at or above the threshold. -/
def AtThreshold
    [LE Score]
    (healer : Healer Score Time)
    (call : ObserveCall Score Time) : Prop :=
  healer.thresholds.pFailThreshold ≤ call.observation.pFail10m

/-- A long enough final stretch is the same as enough recent windows. -/
theorem windowsNeeded_le_stretchLength_iff
    [LT Score] [DecidableLT Score]
    {healer : Healer Score Time}
    {linkId : String}
    {calls : List (ObserveCall Score Time)} :
    healer.windowsNeeded ≤ healer.stretchLength linkId calls ↔
      healer.RecentWindows
        (fun call =>
          ¬ call.observation.pFail10m < healer.thresholds.pFailThreshold)
        (ofLink linkId calls) := by
  rw [stretchLength, le_length_rtakeWhile_iff]
  simp only [decide_eq_true_eq]
  exact
    ⟨fun both => ⟨both.1, both.2⟩,
      fun recent => ⟨recent.1, recent.2⟩⟩

/-- With ordered scores, those windows are at the threshold. -/
theorem windowsNeeded_le_runLength_iff
    [LinearOrder Score]
    {healer : Healer Score Time}
    {linkId : String}
    {calls : List (ObserveCall Score Time)} :
    healer.windowsNeeded ≤ healer.runLength linkId calls ↔
      healer.RecentWindows healer.AtThreshold (ofLink linkId calls) := by
  rw [runLength_eq_stretchLength, windowsNeeded_le_stretchLength_iff]
  simp only [not_lt]
  rfl

section Channels

variable
  [LinearOrder Score]
  [Field Time] [LinearOrder Time] [FloorRing Time]

/-- No hold-off of the link is active at the observation. -/
def Rested
    (healer : Healer Score Time)
    (before : List (ObserveCall Score Time))
    (call : ObserveCall Score Time) : Prop :=
  ∀ last,
    lastEmission call.observation.linkId
        (healer.trace Dict.empty before) = some last →
    healer.thresholds.hysteresisS ≤
      Binary64.sub (observationTime call) last

/-- The recent windows of the link make the last of them emit, if rested. -/
theorem emits_of_recentWindows
    {healer : Healer Score Time}
    {before : List (ObserveCall Score Time)}
    {call : ObserveCall Score Time}
    (resolves : healer.PathsResolve call.observation.linkId)
    (recent :
      healer.RecentWindows healer.AtThreshold
        (ofLink call.observation.linkId (before ++ [call])))
    (rested : healer.Rested before call) :
    (healer.observe (healer.linksAfter Dict.empty before)
      call).2.action = .rerouteEmitted := by
  apply (emitted_iff_emissionDue healer before call).mpr
  refine ⟨?_, resolves, rested⟩
  have long := windowsNeeded_le_runLength_iff.mpr recent
  unfold windowsNeeded at long
  exact Int.toNat_le.mp long

/--
Once the recent windows of a link, over all its channels, are at the threshold,
the link has been rerouted.
-/
theorem emissions_ne_nil_of_recentWindows
    {healer : Healer Score Time}
    {linkId : String}
    (resolves : healer.PathsResolve linkId)
    {calls : List (ObserveCall Score Time)}
    (recent :
      healer.RecentWindows healer.AtThreshold (ofLink linkId calls)) :
    emissions linkId (healer.trace Dict.empty calls) ≠ [] := by
  induction calls using List.reverseRecOn with
  | nil =>
      have enough := recent.enough
      simp only [ofLink, List.filter_nil, List.rtake_nil,
        List.length_nil, windowsNeeded] at enough
      omega
  | append_singleton calls call inductionHypothesis =>
      rw [trace_append, emissions_append]
      by_cases ofThisLink : call.observation.linkId = linkId
      · subst ofThisLink
        by_cases rested : healer.Rested calls call
        · have emitted := emits_of_recentWindows resolves recent rested
          simp [trace, emissions, emitted]
        · -- A hold-off is only ever started by an earlier emission.
          simp only [Rested, not_forall] at rested
          obtain ⟨last, wasEmitted, _⟩ := rested
          intro noEmissions
          have noneBefore := (List.append_eq_nil_iff.mp noEmissions).1
          simp [lastEmission, noneBefore] at wasEmitted
      · have sameStream :
            ofLink linkId (calls ++ [call]) = ofLink linkId calls := by
          simp [ofLink, ofThisLink]
        rw [sameStream] at recent
        intro noEmissions
        exact inductionHypothesis recent
          (List.append_eq_nil_iff.mp noEmissions).1

/-- What the observations of a link do, whichever channels they come from. -/
structure LinkReroutes
    (healer : Healer Score Time)
    (linkId : String)
    (calls : List (ObserveCall Score Time)) : Prop where
  /-- A reroute has been emitted, no later than at the last observation. -/
  rerouted : emissions linkId (healer.trace Dict.empty calls) ≠ []
  /-- It is emitted at the last observation when no hold-off is active. -/
  atLast :
    ∀ before call,
      calls = before ++ [call] →
      call.observation.linkId = linkId →
      healer.Rested before call →
      (healer.observe (healer.linksAfter Dict.empty before)
        call).2.action = .rerouteEmitted

/--
Whenever the last observations of a link, counted over all its channels, are at
the threshold, the link has been rerouted.
-/
theorem link_reroutes_at_threshold
    {healer : Healer Score Time}
    {linkId : String}
    (resolves : healer.PathsResolve linkId)
    {calls : List (ObserveCall Score Time)}
    (recent :
      healer.RecentWindows healer.AtThreshold (ofLink linkId calls)) :
    healer.LinkReroutes linkId calls where
  rerouted := emissions_ne_nil_of_recentWindows resolves recent
  atLast before call shape ofThisLink rested := by
    subst shape ofThisLink
    exact emits_of_recentWindows resolves recent rested

end Channels

section MaskedRun

/-! Two channels of `L1` in turn, one failing and one healthy. -/

/-- A window of the healthy channel. -/
def healthyCall (seconds : UInt16) : ObserveCall Rat Rat :=
  { failingCall seconds with
    observation :=
      { (failingCall seconds).observation with
        channelId := "C2"
        pFail10m := 1 / 10 } }

/-- Each failing window but the last is followed by a healthy one. -/
def maskedCalls : List (ObserveCall Rat Rat) :=
  [failingCall 0, healthyCall 0, failingCall 1, healthyCall 1]

instance decidableAtThreshold
    (healer : Healer Rat Rat)
    (call : ObserveCall Rat Rat) :
    Decidable (healer.AtThreshold call) :=
  inferInstanceAs (Decidable (_ ≤ _))

/-- The last three windows of one channel are high, and nothing is emitted. -/
theorem healthy_channel_masks_failing_one :
    ¬ ∀ (healer : Healer Rat Rat)
        (channelId : String)
        (before : List (ObserveCall Rat Rat))
        (call : ObserveCall Rat Rat),
      healer.PathsResolve call.observation.linkId →
      healer.RecentWindows healer.AtThreshold
        (ofChannel call.observation.linkId channelId
          (before ++ [call])) →
      healer.Rested before call →
      emissions call.observation.linkId
        (healer.trace Dict.empty (before ++ [call])) ≠ [] := by
  intro claim
  have recent :
      configHealer.RecentWindows configHealer.AtThreshold
        (ofChannel "L1" "C1" (maskedCalls ++ [failingCall 2])) :=
    ⟨by decide +kernel, by decide +kernel⟩
  have neverEmitted :
      lastEmission "L1"
        (configHealer.trace Dict.empty maskedCalls) = none := by
    decide +kernel
  have rested : configHealer.Rested maskedCalls (failingCall 2) := by
    intro last emitted
    rw [show (failingCall 2).observation.linkId = "L1" from rfl,
      neverEmitted] at emitted
    cases emitted
  apply claim configHealer "C1" maskedCalls (failingCall 2)
    (by decide) recent rested
  decide +kernel

/-- Without the healthy channel the third window emits. -/
theorem link_reroutes_at_threshold_config :
    configHealer.LinkReroutes "L1"
      (twoFailingCalls ++ [failingCall 2]) :=
  link_reroutes_at_threshold (by decide)
    ⟨by decide +kernel, by decide +kernel⟩

end MaskedRun

section Unordered

variable {Value : Type} [LinearOrder Value]

/-- The score is below the threshold or at it; of `nan` neither is true. -/
def Comparable
    (healer : Healer (FloatScore Value) Time)
    (call : ObserveCall (FloatScore Value) Time) : Prop :=
  call.observation.pFail10m < healer.thresholds.pFailThreshold ∨
    healer.AtThreshold call

/-- Under an ordinary threshold only `nan` is not comparable. -/
theorem comparable_iff_ne_nan
    {healer : Healer (FloatScore Value) Time}
    {threshold : Value}
    (ordinary : healer.thresholds.pFailThreshold = .number threshold)
    (call : ObserveCall (FloatScore Value) Time) :
    healer.Comparable call ↔ call.observation.pFail10m ≠ .nan := by
  unfold Comparable AtThreshold
  rw [ordinary]
  cases call.observation.pFail10m with
  | number score =>
      exact iff_of_true (lt_or_ge score threshold) (by simp)
  | nan =>
      simp only [ne_eq, not_true_eq_false, iff_false, not_or]
      exact ⟨id, id⟩

variable [Field Time] [LinearOrder Time] [FloorRing Time]

/-- The emission, if any, rests on scores at the threshold. -/
def EmitsOnEvidence
    (healer : Healer (FloatScore Value) Time)
    (before : List (ObserveCall (FloatScore Value) Time))
    (call : ObserveCall (FloatScore Value) Time) : Prop :=
  (healer.observe (healer.linksAfter Dict.empty before)
      call).2.action = .rerouteEmitted →
  healer.RecentWindows healer.AtThreshold
    (ofLink call.observation.linkId (before ++ [call]))

/-- If the observation passes every check, its recent scores are comparable. -/
def RecentlyComparable
    (healer : Healer (FloatScore Value) Time)
    (before : List (ObserveCall (FloatScore Value) Time))
    (call : ObserveCall (FloatScore Value) Time) : Prop :=
  healer.Qualifies (healer.linksAfter Dict.empty before) call →
  ∀ recent ∈
      (ofLink call.observation.linkId
        (before ++ [call])).rtake healer.windowsNeeded,
    healer.Comparable recent

/-- An observation that passes every check follows enough that count. -/
theorem recentWindows_of_qualifies
    [LT Score] [DecidableLT Score]
    {healer : Healer Score Time}
    {before : List (ObserveCall Score Time)}
    {call : ObserveCall Score Time}
    (qualifies :
      healer.Qualifies (healer.linksAfter Dict.empty before) call) :
    healer.RecentWindows
      (fun recent =>
        ¬ recent.observation.pFail10m <
          healer.thresholds.pFailThreshold)
      (ofLink call.observation.linkId (before ++ [call])) := by
  rw [← windowsNeeded_le_stretchLength_iff, stretchLength_snoc_same,
    if_neg qualifies.reached]
  have counted := qualifies.enough
  rw [consecutive_eq_stretchLength] at counted
  simp only [windowsNeeded, Int.toNat_le]
  push_cast
  omega

/-- One call emits on evidence exactly when its windows are comparable. -/
theorem emitsOnEvidence_iff
    (healer : Healer (FloatScore Value) Time)
    (before : List (ObserveCall (FloatScore Value) Time))
    (call : ObserveCall (FloatScore Value) Time) :
    healer.EmitsOnEvidence before call ↔
      healer.RecentlyComparable before call := by
  unfold EmitsOnEvidence RecentlyComparable
  rw [observe_emitted_iff_qualifies]
  constructor
  · intro evidence qualifies recent member
    exact Or.inr ((evidence qualifies).each recent member)
  · intro comparable qualifies
    have counted := recentWindows_of_qualifies qualifies
    refine ⟨counted.enough, ?_⟩
    intro recent member
    rcases comparable qualifies recent member with below | reached
    · exact (counted.each recent member below).elim
    · exact reached

/--
Over a run, every reroute rests on evidence exactly when none is emitted with
an unordered score among the windows it counts.
-/
theorem evidence_iff_recently_comparable
    (healer : Healer (FloatScore Value) Time)
    (calls : List (ObserveCall (FloatScore Value) Time)) :
    (∀ before call after,
        calls = before ++ call :: after →
        healer.EmitsOnEvidence before call) ↔
      ∀ before call after,
        calls = before ++ call :: after →
        healer.RecentlyComparable before call := by
  simp only [emitsOnEvidence_iff]

/-- The default healer, with scores that may be `nan`. -/
def floatHealer : Healer (FloatScore Rat) Rat where
  thresholds := {
    pFailThreshold := .number (7 / 10)
    consecutiveWindows := 3
    hysteresisS := 300
    horizonS := 600 }
  topology := Topology.config

/-- An observation of `L1` whose score is not a number. -/
def nanCall (seconds : UInt16) : ObserveCall (FloatScore Rat) Rat where
  observation := {
    tsUnixMs := 1710000000000 + seconds.toNat * 1000
    linkId := "L1"
    channelId := "C1"
    sIf := .number 0
    sAe := .number 0
    pFail10m := .nan }
  clock := 0
  payloadClock := 0
  rest := .exception "timeout"
  grpc := .exception "timeout"
  inRange := stamp_inRange seconds

/-- Three scores that are not numbers make the healer emit. -/
theorem nan_scores_emit :
    ¬ ∀ (healer : Healer (FloatScore Rat) Rat)
        (before : List (ObserveCall (FloatScore Rat) Rat))
        (call : ObserveCall (FloatScore Rat) Rat),
      1 ≤ healer.thresholds.consecutiveWindows →
      healer.EmitsOnEvidence before call := by
  intro claim
  have emitted :
      (floatHealer.observe
        (floatHealer.linksAfter Dict.empty [nanCall 0, nanCall 1])
        (nanCall 2)).2.action = .rerouteEmitted := by
    decide +kernel
  have evidence :=
    claim floatHealer [nanCall 0, nanCall 1] (nanCall 2)
      (by decide) emitted
  exact evidence.each (nanCall 2) (by decide +kernel)

end Unordered

end Healer

end OpticsSoftfail
