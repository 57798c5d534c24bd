import OpticsSoftfail.HealerConcurrency

namespace OpticsSoftfail

namespace Healer

/-!
# What arms the hold-off, and what it suppresses

The hold-off starts with an attempt: `last_reroute_ts` is assigned after the two
egress calls whatever they returned.  It ends by a one-sided comparison: an
observation is suppressed when its time minus that of the last emission is below
`hysteresis_s`, which is also true of every observation stamped earlier than the
emission.
-/

variable {Score Time : Type}

/-- Both egress calls of the observation fail. -/
structure EgressFails (call : ObserveCall Score Time) : Prop where
  rest : (emitRest call.rest).ok = false
  grpc : (emitGrpc call.grpc).ok = false

section AnyScore

variable
  [LT Score] [DecidableLT Score]
  [Field Time] [LinearOrder Time] [FloorRing Time]

/-- The observation gets as far as the hysteresis test. -/
structure ReachesHoldOff
    (healer : Healer Score Time)
    (links : Links Time)
    (call : ObserveCall Score Time) : Prop where
  reached :
    ¬ call.observation.pFail10m < healer.thresholds.pFailThreshold
  enough :
    healer.thresholds.consecutiveWindows ≤
      (linkState links call.observation.linkId).consecutive + 1

/-- The observation passes every check before the egress calls. -/
structure Qualifies
    (healer : Healer Score Time)
    (links : Links Time)
    (call : ObserveCall Score Time) : Prop
    extends ReachesHoldOff healer links call where
  rested :
    ∀ last,
      (linkState links call.observation.linkId).lastRerouteTs = some last →
      healer.thresholds.hysteresisS ≤
        Binary64.sub (observationTime call) last
  resolves : healer.PathsResolve call.observation.linkId

/-- An observation emits exactly when it qualifies. -/
theorem observe_emitted_iff_qualifies
    {healer : Healer Score Time}
    {links : Links Time}
    {call : ObserveCall Score Time} :
    (healer.observe links call).2.action = .rerouteEmitted ↔
      healer.Qualifies links call := by
  rw [observe_emitted_iff, heldOff_eq_false_iff, now_eq_observationTime]
  constructor
  · rintro ⟨reached, enough, rested, resolves⟩
    exact ⟨⟨reached, enough⟩, rested, resolves⟩
  · rintro ⟨⟨reached, enough⟩, rested, resolves⟩
    exact ⟨reached, enough, rested, resolves⟩

/-- An observation is suppressed exactly when it fails the hysteresis test. -/
theorem observe_suppressed_iff
    {healer : Healer Score Time}
    {links : Links Time}
    {call : ObserveCall Score Time} :
    (healer.observe links call).2.action = .suppressedHysteresis ↔
      healer.ReachesHoldOff links call ∧
        healer.heldOff
          (linkState links call.observation.linkId).lastRerouteTs
          (now call) = true := by
  have shape := decide_shape healer links call
  cases decided : (healer.decideObservation links call).2 with
  | emit payload moment =>
      rw [observe_of_emit decided]
      obtain ⟨_, _, rested, _⟩ := decide_emit_iff.mp decided
      simp [ObserveResult.action, rested]
  | answer result =>
      rw [observe_of_answer decided]
      rw [decided] at shape
      cases shape with
      | belowThreshold below =>
          refine iff_of_false (by simp [ObserveResult.action]) ?_
          exact fun suppressed => suppressed.1.reached below
      | counting _ few =>
          refine iff_of_false (by simp [ObserveResult.action]) ?_
          exact fun suppressed =>
            not_le.mpr few suppressed.1.enough
      | suppressed reached enough held =>
          exact iff_of_true rfl ⟨⟨reached, enough⟩, held⟩
      | noPath _ _ rested _ =>
          simp [ObserveResult.action, rested]

/-- Observations of other links leave a link's state alone. -/
theorem linkState_linksAfter_of_others
    (healer : Healer Score Time)
    (links : Links Time)
    {linkId : String}
    {calls : List (ObserveCall Score Time)}
    (others : ∀ call ∈ calls, call.observation.linkId ≠ linkId) :
    linkState (healer.linksAfter links calls) linkId =
      linkState links linkId := by
  induction calls generalizing links with
  | nil =>
      rfl
  | cons call rest inductionHypothesis =>
      have later :=
        inductionHypothesis (healer.observe links call).1
          (fun other member => others other (by simp [member]))
      have ofOther := others call (by simp)
      rw [linkState_observe, if_neg ofOther.symm] at later
      exact later

/-- The replies to the egress calls do not reach the link table. -/
theorem observe_links_of_replies
    (healer : Healer Score Time)
    (links : Links Time)
    (call : ObserveCall Score Time)
    (rest : RestReply)
    (grpc : GrpcReply) :
    (healer.observe links { call with rest := rest, grpc := grpc }).1 =
      (healer.observe links call).1 := by
  have sameDecision :
      healer.decideObservation links
          { call with rest := rest, grpc := grpc } =
        healer.decideObservation links call := rfl
  cases decided : (healer.decideObservation links call).2 with
  | answer result =>
      rw [observe_of_answer decided,
        observe_of_answer (sameDecision ▸ decided), sameDecision]
  | emit payload moment =>
      rw [observe_of_emit decided,
        observe_of_emit (sameDecision ▸ decided), sameDecision]

/-- A qualifying observation is answered with the results of its egress. -/
theorem observe_of_qualifies
    {healer : Healer Score Time}
    {links : Links Time}
    {call : ObserveCall Score Time}
    (qualifies : healer.Qualifies links call) :
    ∃ payload,
      (healer.observe links call).2 =
        .rerouteEmitted call.observation.linkId payload
          (emitRest call.rest) (emitGrpc call.grpc) := by
  have emitted := observe_emitted_iff_qualifies.mpr qualifies
  obtain ⟨payload, moment, decided⟩ :=
    observe_emitted_iff_decision.mp emitted
  exact ⟨payload, congrArg Prod.snd (observe_of_emit decided)⟩

/-- The link's state after a qualifying observation. -/
theorem linkState_of_qualifies
    {healer : Healer Score Time}
    {links : Links Time}
    {call : ObserveCall Score Time}
    (qualifies : healer.Qualifies links call) :
    linkState (healer.observe links call).1 call.observation.linkId =
      { consecutive :=
          (linkState links call.observation.linkId).consecutive + 1
        observations :=
          (linkState links call.observation.linkId).observations + 1
        lastRerouteTs := some (observationTime call)
        rerouted := true } := by
  have emitted := observe_emitted_iff_qualifies.mpr qualifies
  rw [linkState_observe, if_pos rfl, if_pos emitted, if_pos emitted,
    if_neg qualifies.reached, now_eq_observationTime]

/-- What an attempt whose egress calls both fail leaves behind. -/
structure FailedAttemptArms
    (healer : Healer Score Time)
    (before : List (ObserveCall Score Time))
    (call : ObserveCall Score Time) : Prop where
  /-- The failures are reported in the answer. -/
  answered :
    ∃ payload rest grpc,
      (healer.observe (healer.linksAfter Dict.empty before) call).2 =
          .rerouteEmitted call.observation.linkId payload rest grpc ∧
        rest.ok = false ∧ grpc.ok = false
  /-- The attempt counts as a reroute. -/
  armed :
    (linkState
        (healer.observe (healer.linksAfter Dict.empty before) call).1
        call.observation.linkId).lastRerouteTs =
          some (observationTime call) ∧
      (linkState
        (healer.observe (healer.linksAfter Dict.empty before) call).1
        call.observation.linkId).rerouted = true
  /-- Other replies would have left the same state. -/
  asAfterSuccess :
    ∀ rest grpc,
      (healer.observe (healer.linksAfter Dict.empty before)
          { call with rest := rest, grpc := grpc }).1 =
        (healer.observe (healer.linksAfter Dict.empty before) call).1
  /-- The link's next observation at the threshold meets the hold-off. -/
  next :
    ∀ between later,
      (∀ other ∈ between,
        other.observation.linkId ≠ call.observation.linkId) →
      later.observation.linkId = call.observation.linkId →
      ¬ later.observation.pFail10m < healer.thresholds.pFailThreshold →
      (healer.observe
          (healer.linksAfter Dict.empty (before ++ call :: between))
          later).2.action =
        if healer.thresholds.hysteresisS ≤
            Binary64.sub (observationTime later) (observationTime call) then
          .rerouteEmitted
        else
          .suppressedHysteresis

/-- After an attempt, the hold-off alone decides the next observation. -/
theorem action_after_attempt
    {healer : Healer Score Time}
    {links after : Links Time}
    {call later : ObserveCall Score Time}
    (qualifies : healer.Qualifies links call)
    (stands :
      linkState after call.observation.linkId =
        linkState (healer.observe links call).1 call.observation.linkId)
    (sameLink : later.observation.linkId = call.observation.linkId)
    (reached :
      ¬ later.observation.pFail10m < healer.thresholds.pFailThreshold) :
    (healer.observe after later).2.action =
      if healer.thresholds.hysteresisS ≤
          Binary64.sub (observationTime later) (observationTime call) then
        .rerouteEmitted
      else
        .suppressedHysteresis := by
  rw [linkState_of_qualifies qualifies, ← sameLink] at stands
  have enough :
      healer.thresholds.consecutiveWindows ≤
        (linkState after later.observation.linkId).consecutive + 1 := by
    have counted := qualifies.enough
    rw [stands, sameLink]
    simp only
    omega
  have stored :
      (linkState after later.observation.linkId).lastRerouteTs =
        some (observationTime call) := by
    rw [stands]
  split
  · rename_i elapsed
    apply observe_emitted_iff_qualifies.mpr
    refine ⟨⟨reached, enough⟩, ?_, sameLink ▸ qualifies.resolves⟩
    rw [stored]
    rintro _ ⟨⟩
    exact elapsed
  · rename_i tooEarly
    apply observe_suppressed_iff.mpr
    refine ⟨⟨reached, enough⟩, ?_⟩
    rw [stored]
    simpa [heldOff, now_eq_observationTime] using tooEarly

/--
An attempt whose egress calls both fail arms the hold-off as a successful one
does, in every reachable state.
-/
theorem failed_attempt_arms_holdOff
    {healer : Healer Score Time}
    {before : List (ObserveCall Score Time)}
    {call : ObserveCall Score Time}
    (qualifies :
      healer.Qualifies (healer.linksAfter Dict.empty before) call)
    (fails : EgressFails call) :
    healer.FailedAttemptArms before call where
  answered := by
    obtain ⟨payload, answer⟩ := observe_of_qualifies qualifies
    exact ⟨payload, _, _, answer, fails.rest, fails.grpc⟩
  armed := by
    rw [linkState_of_qualifies qualifies]
    exact ⟨rfl, rfl⟩
  asAfterSuccess rest grpc :=
    observe_links_of_replies healer _ call rest grpc
  next between later others sameLink reached := by
    apply action_after_attempt qualifies _ sameLink reached
    have unfolded :
        healer.linksAfter Dict.empty (before ++ call :: between) =
          healer.linksAfter
            (healer.observe (healer.linksAfter Dict.empty before)
              call).1 between := by
      rw [linksAfter_append]
      rfl
    rw [unfolded]
    exact linkState_linksAfter_of_others healer _ others

end AnyScore

section FailedRun

/-! The default healer and an observation both egress calls of which fail. -/

theorem third_call_qualifies :
    configHealer.Qualifies
      (configHealer.linksAfter Dict.empty twoFailingCalls)
      (failingCall 2) := by
  rw [← observe_emitted_iff_qualifies]
  decide +kernel

theorem egressFails_failingCall (seconds : UInt16) :
    EgressFails (failingCall seconds) :=
  ⟨rfl, rfl⟩

/-- The failed attempt is recorded as a reroute of the link. -/
theorem failed_emission_arms_holdOff :
    ¬ ∀ (healer : Healer Rat Rat)
        (before : List (ObserveCall Rat Rat))
        (call : ObserveCall Rat Rat),
      healer.Qualifies (healer.linksAfter Dict.empty before) call →
      EgressFails call →
      (linkState
          (healer.observe (healer.linksAfter Dict.empty before) call).1
          call.observation.linkId).lastRerouteTs =
        (linkState (healer.linksAfter Dict.empty before)
          call.observation.linkId).lastRerouteTs := by
  intro claim
  have unchanged := claim configHealer twoFailingCalls (failingCall 2)
    third_call_qualifies (egressFails_failingCall 2)
  revert unchanged
  decide +kernel

/-- The attempt of the third window arms the default hold-off. -/
theorem failed_attempt_arms_holdOff_config :
    configHealer.FailedAttemptArms twoFailingCalls (failingCall 2) :=
  failed_attempt_arms_holdOff third_call_qualifies
    (egressFails_failingCall 2)

end FailedRun

section Suppression

variable
  [LT Score] [DecidableLT Score]
  [Field Time] [LinearOrder Time] [FloorRing Time]

/--
The observation is suppressed only by an emission of its link stamped less than
`hysteresis_s` before it, and not after it.
-/
def SuppressedInTime
    (healer : Healer Score Time)
    (before : List (ObserveCall Score Time))
    (call : ObserveCall Score Time) : Prop :=
  (healer.observe (healer.linksAfter Dict.empty before)
      call).2.action = .suppressedHysteresis →
  ∃ last,
    lastEmission call.observation.linkId
        (healer.trace Dict.empty before) = some last ∧
      0 ≤ Binary64.sub (observationTime call) last ∧
      Binary64.sub (observationTime call) last <
        healer.thresholds.hysteresisS

/--
If the observation gets to the hysteresis test, the last emission of its link
is not stamped later, or the hold-off (negative in that case) is over anyway.
-/
def StampedInOrder
    (healer : Healer Score Time)
    (before : List (ObserveCall Score Time))
    (call : ObserveCall Score Time) : Prop :=
  healer.ReachesHoldOff (healer.linksAfter Dict.empty before) call →
  ∀ last,
    lastEmission call.observation.linkId
        (healer.trace Dict.empty before) = some last →
    last ≤ observationTime call ∨
      healer.thresholds.hysteresisS ≤
        Binary64.sub (observationTime call) last

/-- One observation is suppressed in time exactly when it is in order. -/
theorem suppressedInTime_iff
    [IsStrictOrderedRing Time]
    (healer : Healer Score Time)
    (before : List (ObserveCall Score Time))
    (call : ObserveCall Score Time) :
    healer.SuppressedInTime before call ↔
      healer.StampedInOrder before call := by
  unfold SuppressedInTime StampedInOrder
  rw [observe_suppressed_iff, lastRerouteTs_eq_lastEmission,
    now_eq_observationTime]
  cases lastEmission call.observation.linkId
      (healer.trace Dict.empty before) with
  | none =>
      simp [heldOff]
  | some last =>
      simp only [heldOff, decide_eq_true_eq, Option.some.injEq,
        exists_eq_left', forall_eq', Binary64.sub_nonneg_iff]
      constructor
      · intro inTime reaches
        rcases lt_or_ge (Binary64.sub (observationTime call) last)
          healer.thresholds.hysteresisS with early | ended
        · exact Or.inl (inTime ⟨reaches, early⟩).1
        · exact Or.inr ended
      · rintro inOrder ⟨reaches, early⟩
        rcases inOrder reaches with notLater | ended
        · exact ⟨notLater, early⟩
        · exact (not_le.mpr early ended).elim

/--
Over a run, every suppression is bounded in time exactly when every observation
that gets to the hysteresis test is stamped in order.
-/
theorem suppression_bounded_iff_in_order
    [IsStrictOrderedRing Time]
    (healer : Healer Score Time)
    (calls : List (ObserveCall Score Time)) :
    (∀ before call after,
        calls = before ++ call :: after →
        healer.SuppressedInTime before call) ↔
      ∀ before call after,
        calls = before ++ call :: after →
        healer.StampedInOrder before call := by
  simp only [suppressedInTime_iff]

end Suppression

section RunsBackwards

/-! Two channels of one link, each with increasing timestamps of its own. -/

/-- Channel `C1` of `L1` runs a thousand seconds ahead of channel `C2`. -/
def aheadCalls : List (ObserveCall Rat Rat) :=
  [failingCall 1000, failingCall 1001, failingCall 1002]

/-- The first window of the channel that is behind. -/
def behindCall : ObserveCall Rat Rat :=
  { failingCall 0 with
    observation :=
      { (failingCall 0).observation with channelId := "C2" } }

/-- It is suppressed by an emission a thousand seconds in its future. -/
theorem later_emission_suppresses :
    ¬ ∀ (healer : Healer Rat Rat)
        (calls before after : List (ObserveCall Rat Rat))
        (call : ObserveCall Rat Rat),
      calls = before ++ call :: after →
      healer.SuppressedInTime before call := by
  intro claim
  have suppressed :
      (configHealer.observe
        (configHealer.linksAfter Dict.empty aheadCalls)
        behindCall).2.action = .suppressedHysteresis := by
    decide +kernel
  have inFuture :
      ∀ last ∈ lastEmission "L1"
          (configHealer.trace Dict.empty aheadCalls),
        ¬ 0 ≤ Binary64.sub (observationTime behindCall) last := by
    decide +kernel
  obtain ⟨last, emitted, notLater, _⟩ :=
    claim configHealer _ aheadCalls [] behindCall rfl suppressed
  exact inFuture last emitted notLater

/-- The equivalence for that run. -/
theorem suppression_bounded_iff_in_order_config :
    (∀ before call after,
        aheadCalls ++ [behindCall] = before ++ call :: after →
        configHealer.SuppressedInTime before call) ↔
      ∀ before call after,
        aheadCalls ++ [behindCall] = before ++ call :: after →
        configHealer.StampedInOrder before call :=
  suppression_bounded_iff_in_order configHealer
    (aheadCalls ++ [behindCall])

end RunsBackwards

end Healer

end OpticsSoftfail
