import OpticsSoftfail.HealerConcurrency
import OpticsSoftfail.PathManagerDelivery

namespace OpticsSoftfail

namespace HealerPce

/-!
# One healer and the path manager it talks to

The healer's calls and the topology state of the path manager run side by side,
started from the same topology.  Each of the two egress calls is delivered and
answered, delivered with its reply lost, or not delivered before the healer
gives up; a request of the last kind stays in flight and may still arrive
later, or never.
-/

/-- What happens to one egress call. -/
inductive Outcome where
  | delivered
  | replyLost (error : String)
  | lost (error : String)
  deriving Repr, DecidableEq

/-- Both parties, the requests in flight and those received so far. -/
structure State (Score Time : Type) where
  healer : HealerThreads.State Score Time
  pce : TopologyState Score
  inFlight : List (RerouteCall Score)
  received : List (RerouteCall Score)
  deriving Repr, DecidableEq

/-- One atomic step of the system. -/
inductive Event (Score Time : Type) where
  | observe (call : ObserveCall Score Time)
  | restCall (index : Nat) (outcome : Outcome)
  | grpcCall (index : Nat) (outcome : Outcome)
  | commit (index : Nat)
  | lateArrival (position : Nat)
  deriving Repr, DecidableEq

variable {Score Time : Type}

/-- Both parties as they start from the topology of the healer. -/
def start (healer : Healer Score Time) : State Score Time where
  healer := HealerThreads.initial
  pce := TopologyState.init healer.topology
  inFlight := []
  received := []

namespace State

/-- The path manager handles one request. -/
def arrive
    (state : State Score Time)
    (request : RerouteCall Score) : State Score Time :=
  { state with
    pce := (state.pce.receive request).1
    received := state.received ++ [request] }

/-- One egress call: the state it leaves and what the caller gets back. -/
def exchange
    (state : State Score Time)
    (request : RerouteCall Score) :
    Outcome → State Score Time × Except String RerouteResponse
  | .delivered =>
      (state.arrive request, .ok (state.pce.receive request).2)
  | .replyLost error => (state.arrive request, .error error)
  | .lost error =>
      ({ state with inFlight := state.inFlight ++ [request] },
        .error error)

@[simp] theorem exchange_healer
    (state : State Score Time)
    (request : RerouteCall Score)
    (outcome : Outcome) :
    (state.exchange request outcome).1.healer = state.healer := by
  cases outcome <;> rfl

end State

/-- `httpx.post` as seen by `_emit_rest`; the endpoint answers with 200. -/
def restReply : Except String RerouteResponse → RestReply
  | .ok response => .response 200 (some response)
  | .error error => .exception error

/-- The stub's `Reroute` as seen by `_emit_grpc`. -/
def grpcReply : Except String RerouteResponse → GrpcReply
  | .ok response => .response response
  | .error error => .exception error

section Step

variable
  [LT Score] [DecidableLT Score]
  [Field Time] [LinearOrder Time] [FloorRing Time]

/-- Let the healer take one of its steps. -/
def healerStep?
    (healer : Healer Score Time)
    (state : State Score Time)
    (event : HealerThreads.Event Score Time) :
    Option (State Score Time) :=
  (HealerThreads.step? healer state.healer event).map fun next =>
    { state with healer := next }

/-- Perform one step of the system. -/
def step?
    (healer : Healer Score Time)
    (state : State Score Time) :
    Event Score Time → Option (State Score Time)
  | .observe call => healerStep? healer state (.observe call)
  | .restCall index outcome =>
      match state.healer.calls[index]? with
      | none => none
      | some call =>
          let done := state.exchange ⟨.rest, call.payload⟩ outcome
          healerStep? healer done.1
            (.restReturns index (restReply done.2))
  | .grpcCall index outcome =>
      match state.healer.calls[index]? with
      | none => none
      | some call =>
          let done := state.exchange ⟨.grpc, call.payload⟩ outcome
          healerStep? healer done.1
            (.grpcReturns index (grpcReply done.2))
  | .commit index => healerStep? healer state (.commit index)
  | .lateArrival position =>
      match state.inFlight[position]? with
      | none => none
      | some request =>
          some { state.arrive request with
            inFlight := state.inFlight.eraseIdx position }

/-- What one step does: the healer moves, after at most one exchange. -/
inductive StepShape
    (healer : Healer Score Time)
    (state : State Score Time) :
    State Score Time → Prop where
  /-- A step of the healer alone. -/
  | alone
      (event : HealerThreads.Event Score Time)
      (next : HealerThreads.State Score Time)
      (stepped :
        HealerThreads.step? healer state.healer event = some next) :
      StepShape healer state { state with healer := next }
  /-- An egress call of one of the emitting calls. -/
  | egress
      (call : HealerThreads.EmittingCall Score Time)
      (isCall : call ∈ state.healer.calls)
      (transport : Transport)
      (outcome : Outcome)
      (event : HealerThreads.Event Score Time)
      (next : HealerThreads.State Score Time)
      (stepped :
        HealerThreads.step? healer state.healer event = some next) :
      StepShape healer state {
        (state.exchange ⟨transport, call.payload⟩ outcome).1 with
        healer := next }
  /-- A request the healer has given up on arrives. -/
  | late
      (position : Nat)
      (request : RerouteCall Score)
      (found : state.inFlight[position]? = some request) :
      StepShape healer state {
        state.arrive request with
        inFlight := state.inFlight.eraseIdx position }

theorem healerStep?_eq_some
    {healer : Healer Score Time}
    {state after : State Score Time}
    {event : HealerThreads.Event Score Time}
    (stepped : healerStep? healer state event = some after) :
    ∃ next,
      HealerThreads.step? healer state.healer event = some next ∧
        after = { state with healer := next } := by
  obtain ⟨next, taken, rfl⟩ := Option.map_eq_some_iff.mp stepped
  exact ⟨next, taken, rfl⟩

/-- Every step of the system has one of the three shapes. -/
theorem step?_shape
    {healer : Healer Score Time}
    {state next : State Score Time}
    {event : Event Score Time}
    (stepped : step? healer state event = some next) :
    StepShape healer state next := by
  cases event with
  | observe call =>
      obtain ⟨after, taken, rfl⟩ := healerStep?_eq_some stepped
      exact .alone _ after taken
  | restCall index outcome =>
      simp only [step?] at stepped
      split at stepped
      · cases stepped
      · rename_i call found
        obtain ⟨after, taken, rfl⟩ := healerStep?_eq_some stepped
        rw [State.exchange_healer] at taken
        exact .egress call (List.mem_of_getElem? found) .rest outcome
          _ after taken
  | grpcCall index outcome =>
      simp only [step?] at stepped
      split at stepped
      · cases stepped
      · rename_i call found
        obtain ⟨after, taken, rfl⟩ := healerStep?_eq_some stepped
        rw [State.exchange_healer] at taken
        exact .egress call (List.mem_of_getElem? found) .grpc outcome
          _ after taken
  | commit index =>
      obtain ⟨after, taken, rfl⟩ := healerStep?_eq_some stepped
      exact .alone _ after taken
  | lateArrival position =>
      simp only [step?] at stepped
      split at stepped
      · cases stepped
      · rename_i request found
        cases stepped
        exact .late position request found

end Step

section HealerSide

/-! What the healer sends, and for which links it considers itself done. -/

/-- A request from the link's working path to its protection path. -/
structure Routed
    (healer : Healer Score Time)
    (request : RerouteRequest Score) : Prop where
  working :
    healer.workingPathForLink request.linkId = some request.fromPath
  protection :
    healer.protectionPathForLink request.linkId = some request.toPath

/-- What the emitting calls say about the link table. -/
structure Emitted
    (healer : Healer Score Time)
    (state : HealerThreads.State Score Time) : Prop where
  routed : ∀ call ∈ state.calls, Routed healer call.payload
  rerouted :
    ∀ linkId,
      (Healer.linkState state.links linkId).rerouted = true →
      ∃ call ∈ state.calls, call.payload.linkId = linkId

theorem emitted_initial (healer : Healer Score Time) :
    Emitted healer HealerThreads.initial where
  routed := by
    intro call member
    simp [HealerThreads.initial] at member
  rerouted := by
    intro linkId isRerouted
    simp [HealerThreads.initial, Healer.linkState] at isRerouted

/-- Moving a call to another stage changes no payload. -/
theorem map_payload_setStage
    {state : HealerThreads.State Score Time}
    {index : Nat}
    {call : HealerThreads.EmittingCall Score Time}
    (found : state.calls[index]? = some call)
    (stage : HealerThreads.Stage) :
    (state.setStage index call stage).calls.map
        HealerThreads.EmittingCall.payload =
      state.calls.map HealerThreads.EmittingCall.payload := by
  obtain ⟨inside, isCall⟩ := List.getElem?_eq_some_iff.mp found
  rw [HealerThreads.State.setStage, List.map_set, ← isCall]
  apply List.ext_getElem?
  intro position
  by_cases same : position = index
  · subst position
    simp [inside]
  · simp [List.getElem?_set_ne (Ne.symm same)]

/-- `Emitted` depends on the payloads of the calls only. -/
theorem Emitted.of_payloads
    {healer : Healer Score Time}
    {state next : HealerThreads.State Score Time}
    (emitted : Emitted healer state)
    (samePayloads :
      next.calls.map HealerThreads.EmittingCall.payload =
        state.calls.map HealerThreads.EmittingCall.payload)
    (rerouted :
      ∀ linkId,
        (Healer.linkState next.links linkId).rerouted = true →
        ∃ call ∈ state.calls, call.payload.linkId = linkId) :
    Emitted healer next where
  routed := by
    intro call member
    have payload := List.mem_map_of_mem
      (f := HealerThreads.EmittingCall.payload) member
    rw [samePayloads] at payload
    obtain ⟨old, oldMember, samePayload⟩ := List.mem_map.mp payload
    rw [← samePayload]
    exact emitted.routed old oldMember
  rerouted := by
    intro linkId isRerouted
    obtain ⟨old, oldMember, ofLink⟩ := rerouted linkId isRerouted
    have payload := List.mem_map_of_mem
      (f := HealerThreads.EmittingCall.payload) oldMember
    rw [← samePayloads] at payload
    obtain ⟨call, member, samePayload⟩ := List.mem_map.mp payload
    exact ⟨call, member, by rw [samePayload, ofLink]⟩

section Decision

variable
  [LT Score] [DecidableLT Score]
  [Field Time] [LinearOrder Time] [FloorRing Time]

/-- A decision never touches the `rerouted` flags. -/
theorem rerouted_decide
    (healer : Healer Score Time)
    (links : Links Time)
    (call : ObserveCall Score Time)
    (linkId : String) :
    (Healer.linkState (healer.decideObservation links call).1
        linkId).rerouted =
      (Healer.linkState links linkId).rerouted := by
  by_cases ofLink : linkId = call.observation.linkId
  · subst ofLink
    rw [Healer.linkState_decide_same]
  · rw [Healer.linkState_decide_other healer links call ofLink]

/-- The payload of an emission is routed by the healer's topology. -/
theorem routed_of_emit
    {healer : Healer Score Time}
    {links : Links Time}
    {call : ObserveCall Score Time}
    {payload : RerouteRequest Score}
    {moment : Time}
    (decided :
      (healer.decideObservation links call).2 = .emit payload moment) :
    Routed healer payload := by
  obtain ⟨_, _, _, fromPath, toPath, working, protection, rfl, _⟩ :=
    Healer.decide_emit_iff.mp decided
  exact ⟨working, protection⟩

/-- Every step of the healer keeps `Emitted`. -/
theorem Emitted.step
    {healer : Healer Score Time}
    {state next : HealerThreads.State Score Time}
    {event : HealerThreads.Event Score Time}
    (emitted : Emitted healer state)
    (stepped : HealerThreads.step? healer state event = some next) :
    Emitted healer next := by
  cases HealerThreads.step?_shape stepped with
  | answered call result decided =>
      refine { routed := emitted.routed, rerouted := ?_ }
      intro linkId isRerouted
      rw [rerouted_decide] at isRerouted
      exact emitted.rerouted linkId isRerouted
  | emits call payload moment decided =>
      refine { routed := ?_, rerouted := ?_ }
      · intro other member
        rcases List.mem_append.mp member with wasThere | isNew
        · exact emitted.routed other wasThere
        · rw [List.mem_singleton.mp isNew]
          exact routed_of_emit decided
      · intro linkId isRerouted
        rw [rerouted_decide] at isRerouted
        obtain ⟨other, member, ofLink⟩ :=
          emitted.rerouted linkId isRerouted
        exact ⟨other, List.mem_append_left _ member, ofLink⟩
  | restReturns index reply call found waiting =>
      exact emitted.of_payloads (map_payload_setStage found _)
        emitted.rerouted
  | grpcReturns index reply call rest found waiting =>
      exact emitted.of_payloads (map_payload_setStage found _)
        emitted.rerouted
  | commits index call rest grpc found waiting =>
      refine Emitted.of_payloads emitted ?_ ?_
      · exact map_payload_setStage found _
      intro linkId isRerouted
      by_cases ofLink : linkId = call.payload.linkId
      · exact ⟨call, List.mem_of_getElem? found, ofLink.symm⟩
      · rw [Healer.linkState_commit_other ofLink] at isRerouted
        exact emitted.rerouted linkId isRerouted

end Decision

end HealerSide

section Agreement

/-- What holds of both parties together after every run. -/
structure Consistent
    (healer : Healer Score Time)
    (state : State Score Time) : Prop where
  emitted : Emitted healer state.healer
  /-- The path manager has handled exactly the received requests. -/
  handled :
    state.pce =
      (TopologyState.init healer.topology).applyAll
        (state.received.map RerouteCall.parsed)
  inFlightRouted :
    ∀ request ∈ state.inFlight, Routed healer request.request
  receivedRouted :
    ∀ request ∈ state.received, Routed healer request.request

theorem consistent_start (healer : Healer Score Time) :
    Consistent healer (start healer) where
  emitted := emitted_initial healer
  handled := rfl
  inFlightRouted := by simp [start]
  receivedRouted := by simp [start]

/-- A routed request that arrives is handled like all others. -/
theorem Consistent.arrive
    {healer : Healer Score Time}
    {state : State Score Time}
    (consistent : Consistent healer state)
    {request : RerouteCall Score}
    (routed : Routed healer request.request) :
    Consistent healer (state.arrive request) where
  emitted := consistent.emitted
  handled := by
    rw [State.arrive, List.map_append, TopologyState.applyAll_append,
      ← consistent.handled]
    rfl
  inFlightRouted := consistent.inFlightRouted
  receivedRouted := by
    intro other member
    rcases List.mem_append.mp member with wasThere | isNew
    · exact consistent.receivedRouted other wasThere
    · rw [List.mem_singleton.mp isNew]
      exact routed

theorem Consistent.exchange
    {healer : Healer Score Time}
    {state : State Score Time}
    (consistent : Consistent healer state)
    {request : RerouteCall Score}
    (routed : Routed healer request.request)
    (outcome : Outcome) :
    Consistent healer (state.exchange request outcome).1 := by
  cases outcome with
  | delivered =>
      exact consistent.arrive routed
  | replyLost error =>
      exact consistent.arrive routed
  | lost error =>
      refine { consistent with inFlightRouted := ?_ }
      intro other member
      rcases List.mem_append.mp member with wasThere | isNew
      · exact consistent.inFlightRouted other wasThere
      · rw [List.mem_singleton.mp isNew]
        exact routed

section Runs

variable
  [LT Score] [DecidableLT Score]
  [Field Time] [LinearOrder Time] [FloorRing Time]

/-- Every step of the system keeps both parties consistent. -/
theorem Consistent.step
    {healer : Healer Score Time}
    {state next : State Score Time}
    {event : Event Score Time}
    (consistent : Consistent healer state)
    (stepped : step? healer state event = some next) :
    Consistent healer next := by
  cases step?_shape stepped with
  | alone event after taken =>
      exact { consistent with emitted := consistent.emitted.step taken }
  | egress call isCall transport outcome event after taken =>
      have routed := consistent.emitted.routed call isCall
      let request : RerouteCall Score := ⟨transport, call.payload⟩
      have isRouted : Routed healer request.request := routed
      exact { consistent.exchange isRouted outcome with
        emitted := consistent.emitted.step taken }
  | late position request found =>
      have routed :=
        consistent.inFlightRouted request (List.mem_of_getElem? found)
      refine { consistent.arrive routed with inFlightRouted := ?_ }
      intro other member
      exact consistent.inFlightRouted other
        (List.mem_of_mem_eraseIdx member)

theorem consistent_of_run
    {healer : Healer Score Time}
    {events : List (Event Score Time)}
    {state : State Score Time}
    (reached :
      Transition.run? (step? healer) (start healer) events =
        some state) :
    Consistent healer state :=
  Transition.run?_invariant
    (fun consistent stepped => Consistent.step consistent stepped)
    (consistent_start healer) reached

end Runs

/-- A working path of the healer is a path of the path manager. -/
theorem Routed.fromKnown
    {healer : Healer Score Time}
    {request : RerouteRequest Score}
    (routed : Routed healer request) :
    (TopologyState.init healer.topology :
        TopologyState Score).paths.contains request.fromPath = true := by
  obtain ⟨entry, found, isFrom⟩ :=
    Option.map_eq_some_iff.mp routed.working
  have member := List.mem_of_find?_eq_some found
  have stored :
      healer.topology.pathSpecs.get? request.fromPath =
        some entry.2 := by
    rw [Dict.get?_eq_some_iff, ← isFrom]
    exact member
  rw [Dict.contains_iff]
  exact ⟨PathState.ofSpec entry.2, by
    simp [TopologyState.init, stored]⟩

/-- Routed requests of one link ask for one and the same move. -/
theorem fixedRoutes_of_routed
    {healer : Healer Score Time}
    {requests : List (RerouteRequest Score)}
    (routed : ∀ request ∈ requests, Routed healer request) :
    TopologyState.FixedRoutes requests := by
  intro first firstMember second secondMember sameLink
  obtain ⟨firstWorking, firstProtection⟩ := routed first firstMember
  obtain ⟨secondWorking, secondProtection⟩ :=
    routed second secondMember
  rw [sameLink] at firstWorking firstProtection
  constructor
  · exact Option.some.inj (firstWorking.symm.trans secondWorking)
  · exact Option.some.inj (firstProtection.symm.trans secondProtection)

section Parsed

variable
  {healer : Healer Score Time}
  {state : State Score Time}

/-- What the path manager was asked to do is routed by the topology. -/
theorem Consistent.parsedRouted
    (consistent : Consistent healer state) :
    ∀ request ∈ state.received.map RerouteCall.parsed,
      Routed healer request := by
  intro request member
  obtain ⟨call, received, rfl⟩ := List.mem_map.mp member
  have routed := consistent.receivedRouted call received
  exact ⟨by simpa using routed.working, by simpa using routed.protection⟩

/-- A link that moved at all rides its protection path. -/
theorem Consistent.moved_protection
    (consistent : Consistent healer state)
    {linkId path : String}
    (moved : state.pce.moved.get? linkId = some path) :
    healer.protectionPathForLink linkId = some path := by
  rw [consistent.handled] at moved
  rcases TopologyState.moved_requested moved with atStart | asked
  · simp [TopologyState.init] at atStart
  · obtain ⟨request, member, rfl, rfl⟩ := asked
    exact (consistent.parsedRouted request member).protection

/-- A link the path manager was asked for rides a path, or its path is full. -/
theorem Consistent.moved_or_full
    (consistent : Consistent healer state)
    {call : RerouteCall Score}
    (received : call ∈ state.received) :
    state.pce.moved.get? call.request.linkId =
        some call.request.toPath ∨
      state.pce.Full call.request.toPath := by
  have served := TopologyState.moved_or_full
    (fixedRoutes_of_routed consistent.parsedRouted)
    (fun request member =>
      (consistent.parsedRouted request member).fromKnown)
    call.parsed (List.mem_map_of_mem received)
  rw [← consistent.handled] at served
  simpa using served

end Parsed

/-- Links marked as rerouted ride their protection path. -/
def Agreement
    (healer : Healer Score Time)
    (state : State Score Time) : Prop :=
  ∀ linkId,
    (Healer.linkState state.healer.links linkId).rerouted = true →
    state.pce.moved.get? linkId = healer.protectionPathForLink linkId

/--
The path manager left the link alone: no request for it arrived, or its
protection path is unknown there or has no unit left.
-/
structure Unserved
    (state : State Score Time)
    (linkId path : String) : Prop where
  notMoved : state.pce.moved.get? linkId = none
  reason :
    (∀ call ∈ state.received, call.request.linkId ≠ linkId) ∨
      state.pce.Full path

/--
After every run of both parties, a link the healer marked as rerouted has a
protection path and rides it, or the path manager left the link alone.  It never
rides any other path.
-/
theorem rerouted_link_rides_or_is_unserved
    [LT Score] [DecidableLT Score]
    [Field Time] [LinearOrder Time] [FloorRing Time]
    (healer : Healer Score Time)
    (events : List (Event Score Time))
    (state : State Score Time)
    (reached :
      Transition.run? (step? healer) (start healer) events =
        some state)
    (linkId : String)
    (rerouted :
      (Healer.linkState state.healer.links linkId).rerouted = true) :
    ∃ path,
      healer.protectionPathForLink linkId = some path ∧
        (state.pce.moved.get? linkId = some path ∨
          Unserved state linkId path) := by
  have consistent := consistent_of_run reached
  obtain ⟨call, member, ofLink⟩ :=
    consistent.emitted.rerouted linkId rerouted
  have routed := consistent.emitted.routed call member
  have protection := routed.protection
  rw [ofLink] at protection
  refine ⟨call.payload.toPath, protection, ?_⟩
  cases moved : state.pce.moved.get? linkId with
  | some path =>
      left
      rw [← protection, consistent.moved_protection moved]
  | none =>
      refine Or.inr ⟨moved, ?_⟩
      by_cases asked :
          ∃ request ∈ state.received, request.request.linkId = linkId
      · obtain ⟨request, received, sameLink⟩ := asked
        have requestProtection :=
          (consistent.receivedRouted request received).protection
        rw [sameLink, protection] at requestProtection
        have samePath := Option.some.inj requestProtection
        rcases consistent.moved_or_full received with rides | full
        · rw [sameLink, moved] at rides
          cases rides
        · rw [samePath]
          exact Or.inr full
      · left
        intro request received sameLink
        exact asked ⟨request, received, sameLink⟩

end Agreement

section Runs

/-! Runs of the committed configuration, emitting at the first window. -/

/-- The committed topology with a given protection map. -/
def eagerHealer (protection : Dict String String) :
    Healer Rat Rat where
  thresholds := {
    pFailThreshold := 7 / 10
    consecutiveWindows := 1
    hysteresisS := 300
    horizonS := 600 }
  topology := { Topology.config with protection := some protection }

/-- The committed topology as it is. -/
def configEagerHealer : Healer Rat Rat :=
  eagerHealer Topology.config.protectionMap

/-- `L1` is protected by a path that the topology does not list. -/
def danglingProtection : Dict String String :=
  Dict.empty.set "L1" "P_prot_L9"

/-- A window of the link far above the threshold. -/
def failingWindow (linkId : String) : ObserveCall Rat Rat where
  observation := {
    (Healer.failingCall 0).observation with linkId := linkId }
  clock := 0
  payloadClock := 0
  rest := .exception ""
  grpc := .exception ""
  inRange := (Healer.failingCall 0).inRange

/-- One call from its decision to its commit, with the given egress. -/
def emission
    (index : Nat)
    (linkId : String)
    (rest grpc : Outcome) : List (Event Rat Rat) :=
  [.observe (failingWindow linkId), .restCall index rest,
    .grpcCall index grpc, .commit index]

/-- After the run the link is marked as rerouted, and has not moved. -/
def MarkedButNotMoved
    (healer : Healer Rat Rat)
    (events : List (Event Rat Rat))
    (linkId : String) : Prop :=
  ∃ state,
    Transition.run? (step? healer) (start healer) events =
        some state ∧
      (Healer.linkState state.healer.links linkId).rerouted = true ∧
      state.pce.moved.get? linkId = none ∧
      (healer.protectionPathForLink linkId).isSome

/-- Two links compete for the one unit of their protection path. -/
def competingEmissions : List (Event Rat Rat) :=
  emission 0 "L1" (.lost "timeout") (.lost "timeout") ++
    emission 1 "L3" .delivered (.replyLost "timeout") ++
    [.lateArrival 0, .lateArrival 0]

/-- `L3` got the unit, and both late requests for `L1` are turned away. -/
theorem rerouted_link_rides_or_is_unserved_competing :
    ∃ state path,
      Transition.run? (step? configEagerHealer)
          (start configEagerHealer) competingEmissions =
            some state ∧
        state.received.length = 4 ∧
        configEagerHealer.protectionPathForLink "L1" = some path ∧
        (state.pce.moved.get? "L1" = some path ∨
          Unserved state "L1" path) := by
  have accepted :
      (Transition.run? (step? configEagerHealer)
        (start configEagerHealer) competingEmissions).isSome := by
    decide +kernel
  have marked :
      ∀ state ∈ Transition.run? (step? configEagerHealer)
          (start configEagerHealer) competingEmissions,
        state.received.length = 4 ∧
          (Healer.linkState state.healer.links "L1").rerouted =
            true := by
    decide +kernel
  obtain ⟨state, reached⟩ := Option.isSome_iff_exists.mp accepted
  obtain ⟨fourRequests, rerouted⟩ := marked state reached
  obtain ⟨path, found, rides⟩ :=
    rerouted_link_rides_or_is_unserved configEagerHealer
      competingEmissions state reached "L1" rerouted
  exact ⟨state, path, reached, fourRequests, found, rides⟩

/-- A run that can be performed is checked on the state it ends in. -/
theorem markedButNotMoved_of_run
    {healer : Healer Rat Rat}
    {events : List (Event Rat Rat)}
    {linkId : String}
    (accepted :
      (Transition.run? (step? healer) (start healer) events).isSome)
    (marked :
      ∀ state ∈ Transition.run? (step? healer) (start healer) events,
        (Healer.linkState state.healer.links linkId).rerouted = true ∧
          state.pce.moved.get? linkId = none ∧
          (healer.protectionPathForLink linkId).isSome) :
    MarkedButNotMoved healer events linkId := by
  obtain ⟨state, reached⟩ := Option.isSome_iff_exists.mp accepted
  exact ⟨state, reached, marked state reached⟩

/-- Such a run contradicts the agreement of the two parties. -/
theorem not_agreement_of_marked
    {healer : Healer Rat Rat}
    {events : List (Event Rat Rat)}
    {linkId : String}
    (marked : MarkedButNotMoved healer events linkId) :
    ¬ ∀ state,
      Transition.run? (step? healer) (start healer) events =
        some state →
      Agreement healer state := by
  intro claim
  obtain ⟨state, reached, isMarked, notMoved, hasPath⟩ := marked
  have agrees := claim state reached linkId isMarked
  rw [notMoved] at agrees
  simp [← agrees] at hasPath

/--
The parties disagree when both calls are lost, when the protection path is
already taken although every call is delivered, and when the protection path is
not in the topology although every call is delivered.
-/
theorem lost_or_rejected_reroutes_break_agreement :
    (¬ ∀ (healer : Healer Rat Rat) events state,
      Transition.run? (step? healer) (start healer) events =
        some state →
      Agreement healer state) ∧
    MarkedButNotMoved configEagerHealer
      (emission 0 "L1" (.lost "timeout") (.lost "timeout")) "L1" ∧
    MarkedButNotMoved configEagerHealer
      (emission 0 "L1" .delivered .delivered ++
        emission 1 "L3" .delivered .delivered) "L3" ∧
    MarkedButNotMoved (eagerHealer danglingProtection)
      (emission 0 "L1" .delivered .delivered) "L1" := by
  have lost :
      MarkedButNotMoved configEagerHealer
        (emission 0 "L1" (.lost "timeout") (.lost "timeout")) "L1" :=
    markedButNotMoved_of_run (by decide +kernel) (by decide +kernel)
  refine ⟨?_, lost, ?_, ?_⟩
  · intro claim
    exact not_agreement_of_marked lost
      (claim configEagerHealer _)
  · exact markedButNotMoved_of_run
      (by decide +kernel) (by decide +kernel)
  · exact markedButNotMoved_of_run
      (by decide +kernel) (by decide +kernel)

end Runs

end HealerPce

end OpticsSoftfail
