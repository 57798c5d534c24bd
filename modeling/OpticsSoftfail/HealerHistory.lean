import Mathlib.Algebra.Order.Ring.Rat
import Mathlib.Data.List.DropRight
import Mathlib.Data.Rat.Floor
import OpticsSoftfail.HealerPolicy

namespace OpticsSoftfail

namespace Healer

/-!
# The healer policy as a function of the observation history

The healer keeps three pieces of state for each link.  Over any run they are
functions of the history: the run counter is the length of the longest final
stretch of the link's observations at or above the threshold, and the last
reroute time is the time of the link's latest emission.  The emission rule
stated over the history follows.
-/

variable {Score Time : Type}

/--
The time of an observation: its stamp in seconds, or what the clock shows when
it has none.
-/
def observationTime
    [Field Time] [LinearOrder Time] [FloorRing Time]
    (call : ObserveCall Score Time) : Time :=
  if call.observation.tsUnixMs = 0 then call.clock
  else Binary64.div (Binary64.ofInt call.observation.tsUnixMs) (1000 : Nat)

theorem now_eq_observationTime
    [Field Time] [LinearOrder Time] [FloorRing Time]
    (call : ObserveCall Score Time) :
    now call = observationTime call := by
  rw [now, observationTime, ite_not, Nat.cast_ofNat]

theorem linkState_commit_same
    (links : Links Time)
    (linkId : String)
    (moment : Time) :
    linkState (commitEmission links linkId moment) linkId =
      { linkState links linkId with
        lastRerouteTs := some moment
        rerouted := true } := by
  simp [commitEmission, linkState]

theorem linkState_commit_other
    {links : Links Time}
    {linkId other : String}
    (different : other ≠ linkId)
    {moment : Time} :
    linkState (commitEmission links linkId moment) other =
      linkState links other := by
  simp [commitEmission, linkState, Dict.get?_set_other _ different]

/-- The entries of a trace that emitted a reroute for the link. -/
def emissions
    (linkId : String)
    (entries : List (ObserveCall Score Time × ObserveResult Score)) :
    List (ObserveCall Score Time × ObserveResult Score) :=
  entries.filter fun entry =>
    decide (entry.1.observation.linkId = linkId) &&
      decide (entry.2.action = .rerouteEmitted)

theorem emissions_append
    (linkId : String)
    (first second :
      List (ObserveCall Score Time × ObserveResult Score)) :
    emissions linkId (first ++ second) =
      emissions linkId first ++ emissions linkId second :=
  List.filter_append _ _

/-- Two neighbouring emissions, located in the trace. -/
theorem emissions_split
    {linkId : String}
    {entries earlier later :
      List (ObserveCall Score Time × ObserveResult Score)}
    {first second : ObserveCall Score Time × ObserveResult Score}
    (shape :
      emissions linkId entries =
        earlier ++ first :: second :: later) :
    ∃ before after,
      entries = before ++ second :: after ∧
        emissions linkId before = earlier ++ [first] ∧
        second.1.observation.linkId = linkId ∧
        second.2.action = .rerouteEmitted := by
  have regrouped :
      emissions linkId entries =
        (earlier ++ [first]) ++ second :: later := by
    simp [shape]
  obtain ⟨leading, trailing, rfl, leadingShape, trailingShape⟩ :=
    List.filter_eq_append_iff.mp regrouped
  obtain ⟨skipped, after, rfl, noneSkipped, selected, _⟩ :=
    List.filter_eq_cons_iff.mp trailingShape
  refine ⟨leading ++ skipped, after, by simp, ?_, ?_⟩
  · rw [emissions, List.filter_append, leadingShape,
      List.filter_eq_nil_iff.mpr noneSkipped, List.append_nil]
  · simpa using selected

section Stretch

variable [LT Score] [DecidableLT Score]

/--
The length of the longest final stretch of a link's own observations none of
which is below the threshold.
-/
def stretchLength
    (healer : Healer Score Time)
    (linkId : String)
    (calls : List (ObserveCall Score Time)) : Nat :=
  ((calls.filter fun call =>
      call.observation.linkId = linkId).rtakeWhile fun call =>
    ¬ call.observation.pFail10m <
      healer.thresholds.pFailThreshold).length

theorem stretchLength_snoc_same
    (healer : Healer Score Time)
    (calls : List (ObserveCall Score Time))
    (call : ObserveCall Score Time) :
    healer.stretchLength call.observation.linkId (calls ++ [call]) =
      if call.observation.pFail10m < healer.thresholds.pFailThreshold then
        0
      else
        healer.stretchLength call.observation.linkId calls + 1 := by
  simp only [stretchLength, List.filter_append, List.filter_cons,
    decide_true, ↓reduceIte, List.filter_nil,
    List.rtakeWhile_concat, decide_eq_true_eq]
  by_cases below :
      call.observation.pFail10m < healer.thresholds.pFailThreshold
  · simp [below]
  · simp [below]

theorem stretchLength_snoc_other
    (healer : Healer Score Time)
    (calls : List (ObserveCall Score Time))
    {call : ObserveCall Score Time}
    {linkId : String}
    (other : linkId ≠ call.observation.linkId) :
    healer.stretchLength linkId (calls ++ [call]) =
      healer.stretchLength linkId calls := by
  simp [stretchLength, Ne.symm other]

end Stretch

section AnyScore

variable
  [LT Score] [DecidableLT Score]
  [Field Time] [LinearOrder Time] [FloorRing Time]

/-- An answer given without egress is never an emission. -/
theorem decide_answer_action
    {healer : Healer Score Time}
    {links : Links Time}
    {call : ObserveCall Score Time}
    {result : ObserveResult Score}
    (answered :
      (healer.decideObservation links call).2 = .answer result) :
    result.action ≠ .rerouteEmitted := by
  have shape := decide_shape healer links call
  rw [answered] at shape
  cases shape <;> simp [ObserveResult.action]

/-- A decision to answer ends the call. -/
theorem observe_of_answer
    {healer : Healer Score Time}
    {links : Links Time}
    {call : ObserveCall Score Time}
    {result : ObserveResult Score}
    (answered :
      (healer.decideObservation links call).2 = .answer result) :
    healer.observe links call =
      ((healer.decideObservation links call).1, result) := by
  unfold observe
  cases decided : healer.decideObservation links call with
  | mk after decision =>
      rw [decided] at answered
      simp only at answered
      subst answered
      rfl

/-- A decision to emit is followed by the egress calls and the commit. -/
theorem observe_of_emit
    {healer : Healer Score Time}
    {links : Links Time}
    {call : ObserveCall Score Time}
    {payload : RerouteRequest Score}
    {moment : Time}
    (emits :
      (healer.decideObservation links call).2 =
        .emit payload moment) :
    healer.observe links call =
      (commitEmission (healer.decideObservation links call).1
          call.observation.linkId moment,
        .rerouteEmitted call.observation.linkId payload
          (emitRest call.rest) (emitGrpc call.grpc)) := by
  unfold observe
  cases decided : healer.decideObservation links call with
  | mk after decision =>
      rw [decided] at emits
      simp only at emits
      subst emits
      rfl

/-- A call emits exactly when its decision is to emit. -/
theorem observe_emitted_iff_decision
    {healer : Healer Score Time}
    {links : Links Time}
    {call : ObserveCall Score Time} :
    (healer.observe links call).2.action = .rerouteEmitted ↔
      ∃ payload moment,
        (healer.decideObservation links call).2 =
          .emit payload moment := by
  cases decided : (healer.decideObservation links call).2 with
  | answer result =>
      rw [observe_of_answer decided]
      simp [decide_answer_action decided]
  | emit payload moment =>
      rw [observe_of_emit decided]
      simp [ObserveResult.action]

/-- The emission rule in terms of the stored link state. -/
theorem observe_emitted_iff
    {healer : Healer Score Time}
    {links : Links Time}
    {call : ObserveCall Score Time} :
    (healer.observe links call).2.action = .rerouteEmitted ↔
      ¬ call.observation.pFail10m < healer.thresholds.pFailThreshold ∧
      healer.thresholds.consecutiveWindows ≤
        (linkState links call.observation.linkId).consecutive + 1 ∧
      healer.heldOff
        (linkState links call.observation.linkId).lastRerouteTs
        (now call) = false ∧
      healer.PathsResolve call.observation.linkId := by
  rw [observe_emitted_iff_decision]
  constructor
  · rintro ⟨payload, moment, decided⟩
    obtain ⟨reached, enough, rested, fromPath, toPath, working,
      protection, _, _⟩ := decide_emit_iff.mp decided
    exact ⟨reached, enough, rested,
      by simp [PathsResolve, working, protection]⟩
  · rintro ⟨reached, enough, rested, working, protection⟩
    obtain ⟨fromPath, workingFound⟩ :=
      Option.isSome_iff_exists.mp working
    obtain ⟨toPath, protectionFound⟩ :=
      Option.isSome_iff_exists.mp protection
    exact ⟨_, _, decide_emit_iff.mpr
      ⟨reached, enough, rested, fromPath, toPath, workingFound,
        protectionFound, rfl, rfl⟩⟩

/-- Every link's state after one uninterrupted call. -/
theorem linkState_observe
    (healer : Healer Score Time)
    (links : Links Time)
    (call : ObserveCall Score Time)
    (linkId : String) :
    linkState (healer.observe links call).1 linkId =
      if linkId = call.observation.linkId then
        { consecutive :=
            if call.observation.pFail10m <
                healer.thresholds.pFailThreshold then 0
            else (linkState links linkId).consecutive + 1
          observations := (linkState links linkId).observations + 1
          lastRerouteTs :=
            if (healer.observe links call).2.action =
                .rerouteEmitted then some (now call)
            else (linkState links linkId).lastRerouteTs
          rerouted :=
            if (healer.observe links call).2.action =
                .rerouteEmitted then true
            else (linkState links linkId).rerouted }
      else linkState links linkId := by
  have same := linkState_decide_same healer links call
  cases decided : (healer.decideObservation links call).2 with
  | answer result =>
      have notEmitted := decide_answer_action decided
      rw [observe_of_answer decided]
      by_cases ofLink : linkId = call.observation.linkId
      · subst ofLink
        simp [same, notEmitted]
      · rw [if_neg ofLink]
        exact linkState_decide_other healer links call ofLink
  | emit payload moment =>
      obtain ⟨_, _, _, _, _, _, _, _, isNow⟩ :=
        decide_emit_iff.mp decided
      rw [observe_of_emit decided]
      by_cases ofLink : linkId = call.observation.linkId
      · subst ofLink
        rw [linkState_commit_same, same]
        simp [ObserveResult.action, isNow]
      · rw [if_neg ofLink, linkState_commit_other ofLink]
        exact linkState_decide_other healer links call ofLink

/-- The states agree in what `observe` reads. -/
structure Alike (left right : LinkState Time) : Prop where
  consecutive : left.consecutive = right.consecutive
  lastRerouteTs : left.lastRerouteTs = right.lastRerouteTs

/-- The answer to a call depends only on the state of its own link. -/
theorem observe_result_congr
    {healer : Healer Score Time}
    {left right : Links Time}
    {call : ObserveCall Score Time}
    (alike :
      Alike (linkState left call.observation.linkId)
        (linkState right call.observation.linkId)) :
    (healer.observe left call).2 = (healer.observe right call).2 := by
  have sameDecision :
      (healer.decideObservation left call).2 =
        (healer.decideObservation right call).2 := by
    simp only [decideObservation, alike.consecutive, alike.lastRerouteTs]
    split <;> rfl
  cases leftDecided : (healer.decideObservation left call).2 with
  | answer result =>
      rw [observe_of_answer leftDecided,
        observe_of_answer (sameDecision ▸ leftDecided)]
  | emit payload moment =>
      rw [observe_of_emit leftDecided,
        observe_of_emit (sameDecision ▸ leftDecided)]

/-- States that agree still do so after the same call. -/
theorem alike_observe
    {healer : Healer Score Time}
    {left right : Links Time}
    {linkId : String}
    (alike : Alike (linkState left linkId) (linkState right linkId))
    (call : ObserveCall Score Time) :
    Alike (linkState (healer.observe left call).1 linkId)
      (linkState (healer.observe right call).1 linkId) := by
  rw [linkState_observe, linkState_observe]
  by_cases ofLink : linkId = call.observation.linkId
  · subst ofLink
    rw [if_pos rfl, if_pos rfl, observe_result_congr alike]
    exact ⟨by simp only [alike.consecutive],
      by simp only [alike.lastRerouteTs]⟩
  · rw [if_neg ofLink, if_neg ofLink]
    exact alike

/-- The link table after a sequence of uninterrupted calls. -/
def linksAfter
    (healer : Healer Score Time)
    (links : Links Time)
    (calls : List (ObserveCall Score Time)) : Links Time :=
  calls.foldl (fun current call => (healer.observe current call).1) links

/-- Every call of a run with its answer. -/
def trace
    (healer : Healer Score Time) :
    Links Time →
      List (ObserveCall Score Time) →
      List (ObserveCall Score Time × ObserveResult Score)
  | _, [] => []
  | links, call :: rest =>
      (call, (healer.observe links call).2) ::
        trace healer (healer.observe links call).1 rest

theorem linksAfter_append
    (healer : Healer Score Time)
    (links : Links Time)
    (first second : List (ObserveCall Score Time)) :
    healer.linksAfter links (first ++ second) =
      healer.linksAfter (healer.linksAfter links first) second := by
  simp [linksAfter]

theorem linksAfter_snoc
    (healer : Healer Score Time)
    (links : Links Time)
    (calls : List (ObserveCall Score Time))
    (call : ObserveCall Score Time) :
    healer.linksAfter links (calls ++ [call]) =
      (healer.observe (healer.linksAfter links calls) call).1 := by
  simp [linksAfter]

theorem trace_append
    (healer : Healer Score Time)
    (links : Links Time)
    (first second : List (ObserveCall Score Time)) :
    healer.trace links (first ++ second) =
      healer.trace links first ++
        healer.trace (healer.linksAfter links first) second := by
  induction first generalizing links with
  | nil =>
      rfl
  | cons call rest inductionHypothesis =>
      simp only [List.cons_append, trace, inductionHypothesis]
      rfl

theorem map_fst_trace
    (healer : Healer Score Time)
    (links : Links Time)
    (calls : List (ObserveCall Score Time)) :
    (healer.trace links calls).map Prod.fst = calls := by
  induction calls generalizing links with
  | nil =>
      rfl
  | cons call rest inductionHypothesis =>
      simp [trace, inductionHypothesis]

/-- An entry of a trace is the answer to its call after the calls before it. -/
theorem trace_split
    {healer : Healer Score Time}
    {links : Links Time}
    {calls : List (ObserveCall Score Time)}
    {earlier later :
      List (ObserveCall Score Time × ObserveResult Score)}
    {entry : ObserveCall Score Time × ObserveResult Score}
    (shape : healer.trace links calls = earlier ++ entry :: later) :
    ∃ before after,
      calls = before ++ entry.1 :: after ∧
        healer.trace links before = earlier ∧
        (healer.observe (healer.linksAfter links before)
          entry.1).2 = entry.2 := by
  have callsShape :
      calls =
        earlier.map Prod.fst ++
          entry.1 :: later.map Prod.fst := by
    have mapped := congrArg (List.map Prod.fst) shape
    simpa [map_fst_trace] using mapped
  refine ⟨earlier.map Prod.fst, later.map Prod.fst, callsShape, ?_⟩
  rw [callsShape, trace_append] at shape
  have sameLength :
      (healer.trace links (earlier.map Prod.fst)).length =
        earlier.length := by
    have mapped := congrArg List.length
      (map_fst_trace healer links (earlier.map Prod.fst))
    simpa using mapped
  obtain ⟨sameEarlier, sameRest⟩ := List.append_inj shape sameLength
  refine ⟨sameEarlier, ?_⟩
  simp only [trace, List.cons.injEq] at sameRest
  exact congrArg Prod.snd sameRest.1

/-- Observations of other links do not change a link's answers. -/
theorem trace_filter_link
    (healer : Healer Score Time)
    (linkId : String)
    {left right : Links Time}
    (alike : Alike (linkState left linkId) (linkState right linkId))
    (calls : List (ObserveCall Score Time)) :
    (healer.trace left calls).filter
        (fun entry => entry.1.observation.linkId = linkId) =
      healer.trace right
        (calls.filter fun call => call.observation.linkId = linkId) := by
  induction calls generalizing left right with
  | nil =>
      rfl
  | cons call rest inductionHypothesis =>
      by_cases ofLink : call.observation.linkId = linkId
      · subst ofLink
        simp only [trace, List.filter_cons, decide_true, ↓reduceIte,
          observe_result_congr alike,
          inductionHypothesis (alike_observe alike call)]
      · have alikeAfter :
            Alike (linkState (healer.observe left call).1 linkId)
              (linkState right linkId) := by
          rw [linkState_observe, if_neg (Ne.symm ofLink)]
          exact alike
        simp only [trace, List.filter_cons, ofLink, decide_false,
          Bool.false_eq_true, ↓reduceIte,
          inductionHypothesis alikeAfter]

/-- The results of the requests that return, in this order. -/
def answers
    (healer : Healer Score Time) :
    Links Time →
      List (ObserveRequest Score Time) →
      List (ObserveResult Score)
  | _, [] => []
  | links, request :: rest =>
      (healer.observeRequest links request).2.toList ++
        answers healer (healer.observeRequest links request).1 rest

/-- Requests that raise change none of the answers to the others. -/
theorem answers_eq_trace
    (healer : Healer Score Time)
    {left right : Links Time}
    (alike :
      ∀ linkId, Alike (linkState left linkId) (linkState right linkId))
    (requests : List (ObserveRequest Score Time)) :
    healer.answers left requests =
      (healer.trace right
        (requests.filterMap ObserveRequest.call?)).map Prod.snd := by
  induction requests generalizing left right with
  | nil =>
      rfl
  | cons request rest inductionHypothesis =>
      cases request with
      | inRange call =>
          exact congrArg₂ List.cons
            (observe_result_congr (alike call.observation.linkId))
            (inductionHypothesis fun linkId =>
              alike_observe (alike linkId) call)
      | beyond observation noDouble =>
          have alikeAfter (linkId : String) :
              Alike
                (linkState (healer.observeRequest left
                  (.beyond observation noDouble)).1 linkId)
                (linkState right linkId) := by
            by_cases ofLink : linkId = observation.linkId
            · subst ofLink
              obtain ⟨consecutive, lastRerouteTs⟩ :=
                alike observation.linkId
              exact ⟨by simpa [observeRequest, linkState] using consecutive,
                by simpa [observeRequest, linkState] using lastRerouteTs⟩
            · simpa [observeRequest, linkState,
                Dict.get?_set_other _ ofLink] using alike linkId
          exact inductionHypothesis alikeAfter

/-- The observation time of the link's latest emission. -/
def lastEmission
    (linkId : String)
    (entries : List (ObserveCall Score Time × ObserveResult Score)) :
    Option Time :=
  (emissions linkId entries).getLast?.map fun entry => observationTime entry.1

/-- The stored reroute time is the time of the latest emission. -/
theorem lastRerouteTs_eq_lastEmission
    (healer : Healer Score Time)
    (calls : List (ObserveCall Score Time))
    (linkId : String) :
    (linkState (healer.linksAfter Dict.empty calls)
        linkId).lastRerouteTs =
      lastEmission linkId (healer.trace Dict.empty calls) := by
  induction calls using List.reverseRecOn with
  | nil =>
      rfl
  | append_singleton calls call inductionHypothesis =>
      rw [linksAfter_snoc, linkState_observe, trace_append]
      by_cases ofLink : linkId = call.observation.linkId
      · by_cases emitted :
            (healer.observe (healer.linksAfter Dict.empty calls)
              call).2.action = .rerouteEmitted
        · simp [lastEmission, emissions, trace, ofLink, emitted,
            now_eq_observationTime]
        · rw [if_pos ofLink]
          simpa [lastEmission, emissions, trace, emitted] using
            inductionHypothesis
      · rw [if_neg ofLink, inductionHypothesis]
        simp [lastEmission, emissions, trace, Ne.symm ofLink]

/-- The stored run counter is the length of the final stretch. -/
theorem consecutive_eq_stretchLength
    (healer : Healer Score Time)
    (calls : List (ObserveCall Score Time))
    (linkId : String) :
    (linkState (healer.linksAfter Dict.empty calls)
        linkId).consecutive =
      healer.stretchLength linkId calls := by
  induction calls using List.reverseRecOn with
  | nil =>
      rfl
  | append_singleton calls call inductionHypothesis =>
      rw [linksAfter_snoc, linkState_observe]
      by_cases ofLink : linkId = call.observation.linkId
      · subst ofLink
        rw [if_pos rfl, stretchLength_snoc_same]
        simp only [inductionHypothesis]
        split <;> simp
      · rw [if_neg ofLink, stretchLength_snoc_other healer calls ofLink]
        exact inductionHypothesis

end AnyScore

section RunLength

variable [LinearOrder Score]

/--
The length of the longest final stretch of a link's own observations that all
reach the threshold.
-/
def runLength
    (healer : Healer Score Time)
    (linkId : String)
    (calls : List (ObserveCall Score Time)) : Nat :=
  ((calls.filter fun call =>
      call.observation.linkId = linkId).rtakeWhile fun call =>
    healer.thresholds.pFailThreshold ≤ call.observation.pFail10m).length

/-- Ordered scores reach the threshold when they are not below it. -/
theorem runLength_eq_stretchLength
    (healer : Healer Score Time)
    (linkId : String)
    (calls : List (ObserveCall Score Time)) :
    healer.runLength linkId calls =
      healer.stretchLength linkId calls := by
  simp only [runLength, stretchLength, not_lt]

theorem runLength_snoc_same
    (healer : Healer Score Time)
    (calls : List (ObserveCall Score Time))
    (call : ObserveCall Score Time) :
    healer.runLength call.observation.linkId (calls ++ [call]) =
      if call.observation.pFail10m < healer.thresholds.pFailThreshold then
        0
      else
        healer.runLength call.observation.linkId calls + 1 := by
  simp only [runLength_eq_stretchLength, stretchLength_snoc_same]

end RunLength

theorem heldOff_eq_false_iff
    [Field Time] [LinearOrder Time] [FloorRing Time]
    {healer : Healer Score Time}
    {last : Option Time}
    {moment : Time} :
    healer.heldOff last moment = false ↔
      ∀ stored,
        last = some stored →
        healer.thresholds.hysteresisS ≤ Binary64.sub moment stored := by
  cases last with
  | none =>
      simp [heldOff]
  | some stored =>
      simp [heldOff]

section OrderedScore

variable
  [LinearOrder Score]
  [Field Time] [LinearOrder Time] [FloorRing Time]

/-- The stored run counter is the length of the final stretch. -/
theorem consecutive_eq_runLength
    (healer : Healer Score Time)
    (calls : List (ObserveCall Score Time))
    (linkId : String) :
    (linkState (healer.linksAfter Dict.empty calls)
        linkId).consecutive =
      healer.runLength linkId calls := by
  rw [runLength_eq_stretchLength]
  exact consecutive_eq_stretchLength healer calls linkId

/-- The emission rule stated over the history of a call. -/
structure EmissionDue
    (healer : Healer Score Time)
    (before : List (ObserveCall Score Time))
    (call : ObserveCall Score Time) : Prop where
  longRun :
    max 1 healer.thresholds.consecutiveWindows ≤
      (healer.runLength call.observation.linkId
        (before ++ [call]) : Int)
  resolves : healer.PathsResolve call.observation.linkId
  rested :
    ∀ last,
      lastEmission call.observation.linkId
          (healer.trace Dict.empty before) = some last →
      healer.thresholds.hysteresisS ≤
        Binary64.sub (observationTime call) last

/-- A call emits exactly when its history makes an emission due. -/
theorem emitted_iff_emissionDue
    (healer : Healer Score Time)
    (before : List (ObserveCall Score Time))
    (call : ObserveCall Score Time) :
    (healer.observe (healer.linksAfter Dict.empty before)
        call).2.action = .rerouteEmitted ↔
      healer.EmissionDue before call := by
  have counted :=
    consecutive_eq_runLength healer before call.observation.linkId
  have stored :=
    lastRerouteTs_eq_lastEmission healer before
      call.observation.linkId
  have run := runLength_snoc_same healer before call
  rw [observe_emitted_iff, counted, stored, heldOff_eq_false_iff,
    now_eq_observationTime]
  constructor
  · rintro ⟨reached, enough, rested, resolves⟩
    refine ⟨?_, resolves, rested⟩
    rw [run, if_neg reached]
    push_cast
    omega
  · rintro ⟨longRun, resolves, rested⟩
    by_cases below :
        call.observation.pFail10m < healer.thresholds.pFailThreshold
    · rw [run, if_pos below] at longRun
      push_cast at longRun
      omega
    · rw [run, if_neg below] at longRun
      push_cast at longRun
      exact ⟨below, by omega, rested, resolves⟩

/-- What the history says about every call of a run. -/
structure FollowsHistory
    (healer : Healer Score Time)
    (calls : List (ObserveCall Score Time)) : Prop where
  /-- Each call emits exactly when its history makes an emission due. -/
  emits :
    ∀ before call after,
      calls = before ++ call :: after →
      ((healer.observe (healer.linksAfter Dict.empty before)
          call).2.action = .rerouteEmitted ↔
        healer.EmissionDue before call)
  /-- Consecutive emissions for one link are the hold-off apart. -/
  apart :
    ∀ linkId earlier first second later,
      emissions linkId (healer.trace Dict.empty calls) =
        earlier ++ first :: second :: later →
      healer.thresholds.hysteresisS ≤
        Binary64.sub (observationTime second.1) (observationTime first.1)
  /-- Other links never change the answers for a link. -/
  independent :
    ∀ linkId,
      (healer.trace Dict.empty calls).filter
          (fun entry => entry.1.observation.linkId = linkId) =
        healer.trace Dict.empty
          (calls.filter fun call =>
            call.observation.linkId = linkId)

/-- Consecutive emissions for one link are the hold-off apart. -/
theorem emissions_apart
    (healer : Healer Score Time)
    {calls : List (ObserveCall Score Time)}
    {linkId : String}
    {earlier later :
      List (ObserveCall Score Time × ObserveResult Score)}
    {first second : ObserveCall Score Time × ObserveResult Score}
    (shape :
      emissions linkId (healer.trace Dict.empty calls) =
        earlier ++ first :: second :: later) :
    healer.thresholds.hysteresisS ≤
      Binary64.sub (observationTime second.1) (observationTime first.1) := by
  obtain ⟨leading, trailing, traceShape, leadingShape, rfl,
    emitted⟩ := emissions_split shape
  obtain ⟨before, after, _, traceBefore, answer⟩ :=
    trace_split traceShape
  rw [← answer] at emitted
  have due := (emitted_iff_emissionDue healer before second.1).mp emitted
  apply due.rested
  rw [traceBefore, lastEmission, leadingShape]
  simp

/--
Every run of the healer follows its history specification: requests that raise
change no answer, and the others are answered by their history.
-/
theorem observe_follows_history
    (healer : Healer Score Time)
    (requests : List (ObserveRequest Score Time)) :
    let calls := requests.filterMap ObserveRequest.call?
    healer.answers Dict.empty requests =
        (healer.trace Dict.empty calls).map Prod.snd ∧
      healer.FollowsHistory calls := by
  intro calls
  have answered :
      healer.answers Dict.empty requests =
        (healer.trace Dict.empty calls).map Prod.snd :=
    answers_eq_trace healer (fun _ => ⟨rfl, rfl⟩) requests
  exact ⟨answered, {
    emits := fun before call _ _ => emitted_iff_emissionDue healer before call
    apart := fun _ _ _ _ _ shape => emissions_apart healer shape
    independent := fun linkId =>
      trace_filter_link healer linkId ⟨rfl, rfl⟩ calls }⟩

end OrderedScore

section ConfigRun

/-! The committed configuration, with the default thresholds. -/

/-- The healer with `configs/thresholds.yaml` and `configs/topology.yaml`. -/
def configHealer : Healer Rat Rat where
  thresholds := {
    pFailThreshold := 7 / 10
    consecutiveWindows := 3
    hysteresisS := 300
    horizonS := 600 }
  topology := Topology.config

theorem stamp_inRange (seconds : UInt16) :
    (1710000000000 + seconds.toNat * 1000 : Int).natAbs <
      Binary64.overflow := by
  have small := seconds.toNat_lt
  exact Binary64.lt_overflow (by omega)

/-- An observation of `L1` far above the threshold. -/
def failingCall (seconds : UInt16) : ObserveCall Rat Rat where
  observation := {
    tsUnixMs := 1710000000000 + seconds.toNat * 1000
    linkId := "L1"
    channelId := "C1"
    sIf := 95 / 100
    sAe := 85 / 100
    pFail10m := 9 / 10 }
  clock := 0
  payloadClock := 0
  rest := .exception "timeout"
  grpc := .exception "timeout"
  inRange := stamp_inRange seconds

/-- Two windows of `L1` above the threshold. -/
def twoFailingCalls : List (ObserveCall Rat Rat) :=
  [failingCall 0, failingCall 1]

/--
The third window is due for an emission, one 299 s later is not, and one 300 s
later is.
-/
theorem observe_follows_history_config :
    configHealer.EmissionDue twoFailingCalls (failingCall 2) ∧
      ¬ configHealer.EmissionDue (twoFailingCalls ++ [failingCall 2])
          (failingCall 301) ∧
      configHealer.EmissionDue
        (twoFailingCalls ++ [failingCall 2, failingCall 301])
        (failingCall 302) := by
  obtain ⟨_, follows⟩ :=
    observe_follows_history configHealer
      ((twoFailingCalls ++
        [failingCall 2, failingCall 301, failingCall 302]).map .inRange)
  refine ⟨?_, ?_, ?_⟩
  · exact (follows.emits _ _ [failingCall 301, failingCall 302] rfl).mp
      (by decide +kernel)
  · refine fun due => absurd
      ((follows.emits (twoFailingCalls ++ [failingCall 2]) _
        [failingCall 302] rfl).mpr due) ?_
    decide +kernel
  · exact (follows.emits (twoFailingCalls ++ [failingCall 2, failingCall 301])
      _ [] rfl).mp (by decide +kernel)

end ConfigRun

end Healer

end OpticsSoftfail
