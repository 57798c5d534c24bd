import Mathlib.Algebra.Order.Field.Basic
import OpticsSoftfail.Binary64
import OpticsSoftfail.Json
import OpticsSoftfail.PathManagerState

namespace OpticsSoftfail

/-!
# The healer's threshold and hysteresis policy

`Healer.observe` is modelled in the two atomic pieces the source consists of:
`decideObservation` does everything up to the construction of the payload, and
`commitEmission` does the two assignments after the egress calls.  The REST and
gRPC calls lie between them, and their outcomes enter only the returned result.

Scores are of an open type with a comparison.  Times are doubles: elements of
an ordered field, with the arithmetic of `Binary64`.  What the environment
supplies to one call (clock readings, replies) is part of `ObserveCall`.
-/

/-- `Observation`, the score of one feature window. -/
structure Observation (Score : Type) where
  tsUnixMs : Int
  linkId : String
  channelId : String
  sIf : Score
  sAe : Score
  pFail10m : Score
  deriving Repr, DecidableEq

/-- `LinkState`, with the dataclass defaults. -/
structure LinkState (Time : Type) where
  consecutive : Int := 0
  observations : Int := 0
  lastRerouteTs : Option Time := none
  rerouted : Bool := false
  deriving Repr, DecidableEq

/-- `Thresholds`. -/
structure Thresholds (Score Time : Type) where
  pFailThreshold : Score
  consecutiveWindows : Int
  hysteresisS : Time
  horizonS : Int
  deriving Repr, DecidableEq

/-- The configuration of a `Healer`; its `links` are passed separately. -/
structure Healer (Score Time : Type) where
  thresholds : Thresholds Score Time
  topology : Topology
  deriving Repr, DecidableEq

/-- `Healer.links`. -/
abbrev Links (Time : Type) := Dict String (LinkState Time)

/-- What `httpx.post` does: a response, or any exception. -/
inductive RestReply where
  | response (statusCode : Nat) (body : Option RerouteResponse)
  | exception (error : String)
  deriving Repr, DecidableEq

/-- What the gRPC stub does: a response, or any exception. -/
inductive GrpcReply where
  | response (reply : RerouteResponse)
  | exception (error : String)
  deriving Repr, DecidableEq

/-- The dictionary returned by `_emit_rest` and `_emit_grpc`. -/
structure EgressResult where
  ok : Bool
  statusCode : Option Nat
  body : Option RerouteResponse
  error : Option String
  deriving Repr, DecidableEq

/-- `_emit_rest`: any status below 400 counts as a success. -/
def emitRest : RestReply → EgressResult
  | .response statusCode body => {
      ok := statusCode < 400
      statusCode := some statusCode
      body := body
      error := none }
  | .exception error => {
      ok := false
      statusCode := none
      body := none
      error := some error }

/-- `_emit_grpc`: the `accepted` flag of the reply decides. -/
def emitGrpc : GrpcReply → EgressResult
  | .response reply => {
      ok := reply.accepted
      statusCode := none
      body := some reply
      error := none }
  | .exception error => {
      ok := false
      statusCode := none
      body := none
      error := some error }

/-- The `action` values of the returned dictionaries. -/
inductive Action where
  | belowThreshold
  | counting
  | suppressedHysteresis
  | noProtectionPath
  | rerouteEmitted
  deriving Repr, DecidableEq

/-- The dictionary returned by `observe`. -/
inductive ObserveResult (Score : Type) where
  | belowThreshold (linkId : String) (consecutive : Int)
  | counting (linkId : String) (consecutive : Int)
  | suppressedHysteresis (linkId : String) (consecutive : Int)
  | noProtectionPath (linkId : String)
  | rerouteEmitted
      (linkId : String)
      (request : RerouteRequest Score)
      (rest grpc : EgressResult)
  deriving Repr, DecidableEq

/-- The `action` entry of a result. -/
def ObserveResult.action {Score : Type} : ObserveResult Score → Action
  | .belowThreshold .. => .belowThreshold
  | .counting .. => .counting
  | .suppressedHysteresis .. => .suppressedHysteresis
  | .noProtectionPath .. => .noProtectionPath
  | .rerouteEmitted .. => .rerouteEmitted

/-- One call of `observe` with everything the environment supplies to it. -/
structure ObserveCall (Score Time : Type) where
  observation : Observation Score
  /-- The reading of `self.clock()` in `_now`. -/
  clock : Time
  /-- The later reading of `self.clock()` for the payload. -/
  payloadClock : Time
  rest : RestReply
  grpc : GrpcReply
  /-- The stamp has a double; with another one `_now` raises. -/
  inRange : observation.tsUnixMs.natAbs < Binary64.overflow
  deriving Repr, DecidableEq

/-- A request to `observe`, with any stamp. -/
inductive ObserveRequest (Score Time : Type) where
  | inRange (call : ObserveCall Score Time)
  /-- The division in `_now` raises an `OverflowError`. -/
  | beyond
      (observation : Observation Score)
      (noDouble : Binary64.overflow ≤ observation.tsUnixMs.natAbs)
  deriving Repr, DecidableEq

/-- The call, if it returns. -/
def ObserveRequest.call? {Score Time : Type} :
    ObserveRequest Score Time → Option (ObserveCall Score Time)
  | .inRange call => some call
  | .beyond _ _ => none

/-- What the first part of `observe` ends in. -/
inductive Decision (Score Time : Type) where
  /-- An answer without any egress call. -/
  | answer (result : ObserveResult Score)
  /-- The payload to send, and the `now` to commit afterwards. -/
  | emit (payload : RerouteRequest Score) (now : Time)
  deriving Repr, DecidableEq

/-- `REASON`. -/
def rerouteReason : String :=
  "soft_fail_predicted edfa_or_transceiver_aging"

namespace Healer

variable {Score Time : Type}

/-- `working_path_for_link`: the first working path listing the link. -/
def workingPathForLink
    (healer : Healer Score Time)
    (linkId : String) : Option String :=
  (healer.topology.pathSpecs.entries.find? fun entry =>
    entry.2.role = some "working" &&
      (entry.2.links.getD []).contains linkId).map Prod.fst

/-- `protection_path_for_link`. -/
def protectionPathForLink
    (healer : Healer Score Time)
    (linkId : String) : Option String :=
  healer.topology.protectionMap.get? linkId

/-- `self.links.setdefault(link_id, LinkState())`, as a value. -/
def linkState
    (links : Links Time)
    (linkId : String) : LinkState Time :=
  (links.get? linkId).getD {}

section Observe

variable
  [LT Score] [DecidableLT Score]
  [Field Time] [LinearOrder Time] [FloorRing Time]

/-- `_now`. -/
def now (call : ObserveCall Score Time) : Time :=
  if call.observation.tsUnixMs ≠ 0 then
    Binary64.div (Binary64.ofInt call.observation.tsUnixMs) 1000
  else
    call.clock

/-- The hysteresis test. -/
def heldOff
    (healer : Healer Score Time)
    (lastRerouteTs : Option Time)
    (now : Time) : Bool :=
  match lastRerouteTs with
  | none => false
  | some last => decide (Binary64.sub now last < healer.thresholds.hysteresisS)

/-- The reroute request for one observation. -/
def payload
    (healer : Healer Score Time)
    (call : ObserveCall Score Time)
    (fromPath toPath : String) : RerouteRequest Score where
  fromPath := fromPath
  toPath := toPath
  linkId := call.observation.linkId
  reason := rerouteReason
  pFail10m := call.observation.pFail10m
  sIf := call.observation.sIf
  sAe := call.observation.sAe
  horizonS := healer.thresholds.horizonS
  tsUnixMs :=
    if call.observation.tsUnixMs ≠ 0 then call.observation.tsUnixMs
    else truncateToInt (Binary64.mul call.payloadClock 1000)

/-- `observe` up to the egress calls. -/
def decideObservation
    (healer : Healer Score Time)
    (links : Links Time)
    (call : ObserveCall Score Time) :
    Links Time × Decision Score Time :=
  let linkId := call.observation.linkId
  let state := linkState links linkId
  let seen := { state with observations := state.observations + 1 }
  if call.observation.pFail10m < healer.thresholds.pFailThreshold then
    (links.set linkId { seen with consecutive := 0 },
      .answer (.belowThreshold linkId 0))
  else
    let counted := { seen with consecutive := seen.consecutive + 1 }
    (links.set linkId counted,
      if counted.consecutive < healer.thresholds.consecutiveWindows then
        .answer (.counting linkId counted.consecutive)
      else if healer.heldOff counted.lastRerouteTs (now call) then
        .answer (.suppressedHysteresis linkId counted.consecutive)
      else
        match healer.workingPathForLink linkId,
            healer.protectionPathForLink linkId with
        | some fromPath, some toPath =>
            .emit (healer.payload call fromPath toPath) (now call)
        | _, _ => .answer (.noProtectionPath linkId))

end Observe

/-- The two assignments after the egress calls. -/
def commitEmission
    (links : Links Time)
    (linkId : String)
    (now : Time) : Links Time :=
  links.set linkId
    { linkState links linkId with
      lastRerouteTs := some now
      rerouted := true }

section Observe

variable
  [LT Score] [DecidableLT Score]
  [Field Time] [LinearOrder Time] [FloorRing Time]

/-- `observe`, run without interruption. -/
def observe
    (healer : Healer Score Time)
    (links : Links Time)
    (call : ObserveCall Score Time) :
    Links Time × ObserveResult Score :=
  match healer.decideObservation links call with
  | (decided, .answer result) => (decided, result)
  | (decided, .emit payload now) =>
      (commitEmission decided call.observation.linkId now,
        .rerouteEmitted call.observation.linkId payload
          (emitRest call.rest) (emitGrpc call.grpc))

/-- `observe` with any stamp; without a result an exception has left it. -/
def observeRequest
    (healer : Healer Score Time)
    (links : Links Time) :
    ObserveRequest Score Time → Links Time × Option (ObserveResult Score)
  | .inRange call =>
      ((healer.observe links call).1, some (healer.observe links call).2)
  | .beyond observation _ =>
      let state := linkState links observation.linkId
      (links.set observation.linkId
        { state with observations := state.observations + 1 }, none)

/-- Both topology lookups of `observe` succeed. -/
def PathsResolve
    (healer : Healer Score Time)
    (linkId : String) : Prop :=
  (healer.workingPathForLink linkId).isSome ∧
    (healer.protectionPathForLink linkId).isSome

instance decidablePathsResolve
    (healer : Healer Score Time)
    (linkId : String) :
    Decidable (healer.PathsResolve linkId) :=
  inferInstanceAs (Decidable (_ ∧ _))

/-- The decision touches no other link. -/
theorem linkState_decide_other
    (healer : Healer Score Time)
    (links : Links Time)
    (call : ObserveCall Score Time)
    {linkId : String}
    (other : linkId ≠ call.observation.linkId) :
    linkState (healer.decideObservation links call).1 linkId =
      linkState links linkId := by
  unfold decideObservation linkState
  split <;> simp [Dict.get?_set_other _ other]

/-- The link's state after the decision. -/
theorem linkState_decide_same
    (healer : Healer Score Time)
    (links : Links Time)
    (call : ObserveCall Score Time) :
    linkState (healer.decideObservation links call).1
        call.observation.linkId =
      { linkState links call.observation.linkId with
        observations :=
          (linkState links call.observation.linkId).observations + 1
        consecutive :=
          if call.observation.pFail10m <
              healer.thresholds.pFailThreshold then 0
          else
            (linkState links call.observation.linkId).consecutive +
              1 } := by
  unfold decideObservation
  split <;> simp [linkState]

/-- The checks of `observe` in their order, and what each of them ends in. -/
inductive DecisionShape
    (healer : Healer Score Time)
    (links : Links Time)
    (call : ObserveCall Score Time) :
    Decision Score Time → Prop where
  | belowThreshold
      (below :
        call.observation.pFail10m < healer.thresholds.pFailThreshold) :
      DecisionShape healer links call
        (.answer (.belowThreshold call.observation.linkId 0))
  | counting
      (reached :
        ¬ call.observation.pFail10m < healer.thresholds.pFailThreshold)
      (few :
        (linkState links call.observation.linkId).consecutive + 1 <
          healer.thresholds.consecutiveWindows) :
      DecisionShape healer links call
        (.answer (.counting call.observation.linkId
          ((linkState links call.observation.linkId).consecutive + 1)))
  | suppressed
      (reached :
        ¬ call.observation.pFail10m < healer.thresholds.pFailThreshold)
      (enough :
        healer.thresholds.consecutiveWindows ≤
          (linkState links call.observation.linkId).consecutive + 1)
      (held :
        healer.heldOff
          (linkState links call.observation.linkId).lastRerouteTs
          (now call) = true) :
      DecisionShape healer links call
        (.answer (.suppressedHysteresis call.observation.linkId
          ((linkState links call.observation.linkId).consecutive + 1)))
  | noPath
      (reached :
        ¬ call.observation.pFail10m < healer.thresholds.pFailThreshold)
      (enough :
        healer.thresholds.consecutiveWindows ≤
          (linkState links call.observation.linkId).consecutive + 1)
      (rested :
        healer.heldOff
          (linkState links call.observation.linkId).lastRerouteTs
          (now call) = false)
      (unresolved : ¬ healer.PathsResolve call.observation.linkId) :
      DecisionShape healer links call
        (.answer (.noProtectionPath call.observation.linkId))
  | emits
      (reached :
        ¬ call.observation.pFail10m < healer.thresholds.pFailThreshold)
      (enough :
        healer.thresholds.consecutiveWindows ≤
          (linkState links call.observation.linkId).consecutive + 1)
      (rested :
        healer.heldOff
          (linkState links call.observation.linkId).lastRerouteTs
          (now call) = false)
      (fromPath toPath : String)
      (working :
        healer.workingPathForLink call.observation.linkId =
          some fromPath)
      (protection :
        healer.protectionPathForLink call.observation.linkId =
          some toPath) :
      DecisionShape healer links call
        (.emit (healer.payload call fromPath toPath) (now call))

/-- Every decision has one of the five shapes. -/
theorem decide_shape
    (healer : Healer Score Time)
    (links : Links Time)
    (call : ObserveCall Score Time) :
    DecisionShape healer links call
      (healer.decideObservation links call).2 := by
  unfold decideObservation
  by_cases below :
      call.observation.pFail10m < healer.thresholds.pFailThreshold
  · rw [if_pos below]
    exact .belowThreshold below
  · rw [if_neg below]
    by_cases few :
        (linkState links call.observation.linkId).consecutive + 1 <
          healer.thresholds.consecutiveWindows
    · simp only [few, ↓reduceIte]
      exact .counting below few
    · have enough := not_lt.mp few
      simp only [few, ↓reduceIte]
      cases held :
          healer.heldOff
            (linkState links call.observation.linkId).lastRerouteTs
            (now call) with
      | true =>
          exact .suppressed below enough held
      | false =>
          cases working :
              healer.workingPathForLink call.observation.linkId with
          | none =>
              exact .noPath below enough held
                (by simp [PathsResolve, working])
          | some fromPath =>
              cases protection :
                  healer.protectionPathForLink
                    call.observation.linkId with
              | none =>
                  exact .noPath below enough held
                    (by simp [PathsResolve, protection])
              | some toPath =>
                  exact .emits below enough held fromPath toPath
                    working protection

/--
When the decision is to emit: the score reached the threshold, enough windows
were counted, no hold-off is active, and both paths resolve.
-/
theorem decide_emit_iff
    {healer : Healer Score Time}
    {links : Links Time}
    {call : ObserveCall Score Time}
    {payload : RerouteRequest Score}
    {moment : Time} :
    (healer.decideObservation links call).2 = .emit payload moment ↔
      ¬ call.observation.pFail10m < healer.thresholds.pFailThreshold ∧
      healer.thresholds.consecutiveWindows ≤
        (linkState links call.observation.linkId).consecutive + 1 ∧
      healer.heldOff
        (linkState links call.observation.linkId).lastRerouteTs
        (now call) = false ∧
      ∃ fromPath toPath,
        healer.workingPathForLink call.observation.linkId =
            some fromPath ∧
          healer.protectionPathForLink call.observation.linkId =
            some toPath ∧
          payload = healer.payload call fromPath toPath ∧
          moment = now call := by
  have shape := decide_shape healer links call
  generalize (healer.decideObservation links call).2 = decision at shape
  constructor
  · rintro rfl
    cases shape with
    | emits reached enough rested fromPath toPath working protection =>
        exact ⟨reached, enough, rested, fromPath, toPath, working,
          protection, rfl, rfl⟩
  · rintro ⟨reached, enough, rested, fromPath, toPath, working,
      protection, rfl, rfl⟩
    cases shape with
    | belowThreshold below =>
        exact (reached below).elim
    | counting _ few =>
        exact (not_le.mpr few enough).elim
    | suppressed _ _ held =>
        rw [rested] at held
        cases held
    | noPath _ _ _ unresolved =>
        exact (unresolved (by simp [PathsResolve, working,
          protection])).elim
    | emits _ _ _ _ _ otherWorking otherProtection =>
        rw [working] at otherWorking
        rw [protection] at otherProtection
        cases otherWorking
        cases otherProtection
        rfl

end Observe

end Healer

end OpticsSoftfail
