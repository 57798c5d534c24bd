import Mathlib.Algebra.GroupWithZero.Nat
import OpticsSoftfail.PathManagerState

namespace OpticsSoftfail

/-!
# The two front ends of the path manager

A reroute arrives as a JSON body on the REST endpoint or as a protobuf message
on the gRPC service.  The two decoders have different default rules: an absent
JSON field gets the default of the model, while an unset protobuf field is
indistinguishable from a zero, and a zero horizon is replaced by 600.  Below,
both decoders and what follows for a payload whose nine fields are all set.
-/

/-- `HORIZON_S`, also the literal in `PathControlService.Reroute`. -/
def horizonSDefault : Int := 600

/-- The protobuf message `optics.v1.RerouteRequest`. -/
structure RerouteMessage (Score : Type) where
  fromPath : String
  toPath : String
  linkId : String
  reason : String
  pFail10m : Score
  sIf : Score
  sAe : Score
  horizonS : Int32
  tsUnixMs : Int64
  deriving DecidableEq

/-- The body of `POST /v1/reroute`; an absent field is `none`. -/
structure RerouteBody (Score : Type) where
  fromPath : Option String
  toPath : Option String
  linkId : Option String
  reason : Option String
  pFail10m : Option Score
  sIf : Option Score
  sAe : Option Score
  horizonS : Option Int
  tsUnixMs : Option Int
  deriving Repr, DecidableEq

namespace RerouteMessage

variable {Score : Type}

/-- The values of the message, as a request. -/
def request (message : RerouteMessage Score) : RerouteRequest Score where
  fromPath := message.fromPath
  toPath := message.toPath
  linkId := message.linkId
  reason := message.reason
  pFail10m := message.pFail10m
  sIf := message.sIf
  sAe := message.sAe
  horizonS := message.horizonS.toInt
  tsUnixMs := message.tsUnixMs.toInt

/-- `parsed` in `PathControlService.Reroute`. -/
def parsed (message : RerouteMessage Score) : RerouteRequest Score :=
  { message.request with
    horizonS :=
      if message.horizonS = 0 then horizonSDefault
      else message.horizonS.toInt }

/-- The JSON body that sets all nine fields to the values of the message. -/
def body (message : RerouteMessage Score) : RerouteBody Score where
  fromPath := some message.fromPath
  toPath := some message.toPath
  linkId := some message.linkId
  reason := some message.reason
  pFail10m := some message.pFail10m
  sIf := some message.sIf
  sAe := some message.sAe
  horizonS := some message.horizonS.toInt
  tsUnixMs := some message.tsUnixMs.toInt

end RerouteMessage

/--
The validated body, with the defaults of the `RerouteRequest` model; without
one of the three required fields validation fails.
-/
def RerouteBody.parsed
    {Score : Type}
    [Zero Score]
    (clockMs : Int)
    (body : RerouteBody Score) : Option (RerouteRequest Score) :=
  match body.fromPath, body.toPath, body.linkId with
  | some fromPath, some toPath, some linkId =>
      some {
        fromPath := fromPath
        toPath := toPath
        linkId := linkId
        reason := body.reason.getD ""
        pFail10m := body.pFail10m.getD 0
        sIf := body.sIf.getD 0
        sAe := body.sAe.getD 0
        horizonS := body.horizonS.getD horizonSDefault
        tsUnixMs := body.tsUnixMs.getD clockMs }
  | _, _, _ => none

namespace TopologyState

variable {Score : Type}

/--
`create_app.reroute`.  A body that fails validation is answered by the
framework, and the state is not consulted.
-/
def restReroute
    [Zero Score]
    (state : TopologyState Score)
    (clockMs : Int)
    (body : RerouteBody Score) :
    TopologyState Score × Option RerouteResponse :=
  match body.parsed clockMs with
  | none => (state, none)
  | some request =>
      let applied := state.applyReroute request
      (applied.1, some applied.2)

/-- `PathControlService.Reroute`. -/
def grpcReroute
    (state : TopologyState Score)
    (message : RerouteMessage Score) :
    TopologyState Score × RerouteResponse :=
  state.applyReroute message.parsed

/-- With all fields set, the REST endpoint applies the values as they are. -/
theorem restReroute_body
    [Zero Score]
    (state : TopologyState Score)
    (clockMs : Int)
    (message : RerouteMessage Score) :
    state.restReroute clockMs message.body =
      ((state.applyReroute message.request).1,
        some (state.applyReroute message.request).2) :=
  rfl

/-- The REST front end is the one of `receive`. -/
theorem restReroute_eq_receive
    [Zero Score]
    (state : TopologyState Score)
    (clockMs : Int)
    (message : RerouteMessage Score) :
    state.restReroute clockMs message.body =
      ((state.receive ⟨.rest, message.request⟩).1,
        some (state.receive ⟨.rest, message.request⟩).2) :=
  rfl

/-- So is the gRPC front end. -/
theorem grpcReroute_eq_receive
    (state : TopologyState Score)
    (message : RerouteMessage Score) :
    state.grpcReroute message =
      state.receive ⟨.grpc, message.request⟩ := by
  have sameParsed :
      message.parsed = RerouteCall.parsed ⟨.grpc, message.request⟩ := by
    have zero : message.horizonS = 0 ↔ message.horizonS.toInt = 0 := by
      rw [← Int32.toInt_inj]
      rfl
    by_cases unset : message.horizonS = 0
    · simp [RerouteCall.parsed, RerouteMessage.parsed,
        RerouteMessage.request, unset, horizonSDefault]
    · have nonzero := mt zero.mpr unset
      simp [RerouteCall.parsed, RerouteMessage.parsed,
        RerouteMessage.request, unset, nonzero]
  rw [grpcReroute, sameParsed, receive]

/-- The answer does not depend on the horizon of the request. -/
theorem applyReroute_response_horizon
    (state : TopologyState Score)
    (request : RerouteRequest Score)
    (horizonS : Int) :
    (state.applyReroute { request with horizonS := horizonS }).2 =
      (state.applyReroute request).2 := by
  simp only [applyReroute, applyLocked]
  split
  · rfl
  · split
    · rfl
    · split
      · rfl
      · split <;> rfl

/-- Nor does it matter for the guards of the commit. -/
theorem commits_horizon_iff
    {state : TopologyState Score}
    {request : RerouteRequest Score}
    {horizonS : Int} :
    state.Commits { request with horizonS := horizonS } ↔
      state.Commits request :=
  ⟨fun commits => ⟨commits.fromKnown, commits.notRiding, commits.spare⟩,
    fun commits => ⟨commits.fromKnown, commits.notRiding, commits.spare⟩⟩

/-- What the two front ends make of one payload with all nine fields set. -/
structure SameOperation
    [Zero Score]
    (state : TopologyState Score)
    (clockMs : Int)
    (message : RerouteMessage Score) : Prop where
  /-- The same `accepted` and the same `message`. -/
  answer :
    (state.restReroute clockMs message.body).2 =
      some (state.grpcReroute message).2
  /-- With a horizon other than zero, the same state. -/
  nonzeroHorizon :
    message.horizonS ≠ 0 →
    (state.restReroute clockMs message.body).1 =
      (state.grpcReroute message).1
  /-- Without a commit, the same state, namely the one before. -/
  uncommitted :
    ¬ state.Commits message.request →
    (state.restReroute clockMs message.body).1 = state ∧
      (state.grpcReroute message).1 = state
  /-- A zero horizon is stored as it is by one and as 600 by the other. -/
  zeroHorizon :
    message.horizonS = 0 →
    state.Commits message.request →
    ∃ record : RerouteRecord Score,
      record.horizonS = 0 ∧
        (state.grpcReroute message).1.reroutes =
          state.reroutes ++ [{ record with horizonS := horizonSDefault }] ∧
        (state.restReroute clockMs message.body).1 =
          { (state.grpcReroute message).1 with
            reroutes := state.reroutes ++ [record] }

/--
REST and gRPC are the same operation, up to the horizon stored for a payload
that sets it to zero.
-/
theorem rest_and_grpc_same_operation
    [Zero Score]
    (state : TopologyState Score)
    (clockMs : Int)
    (message : RerouteMessage Score) :
    state.SameOperation clockMs message where
  answer :=
    congrArg some
      (state.applyReroute_response_horizon message.request _).symm
  nonzeroHorizon nonzero := by
    have sameRequest : message.parsed = message.request := by
      simp [RerouteMessage.parsed, RerouteMessage.request, nonzero]
    rw [restReroute_body, grpcReroute, sameRequest]
  uncommitted notCommits := by
    constructor
    · exact applyReroute_of_not_commits notCommits
    · exact applyReroute_of_not_commits
        (mt commits_horizon_iff.mp notCommits)
  zeroHorizon zero commits := by
    have restState :
        (state.restReroute clockMs message.body).1 =
          state.commit message.request :=
      applyReroute_of_commits commits
    have grpcState :
        (state.grpcReroute message).1 = state.commit message.parsed :=
      applyReroute_of_commits (commits_horizon_iff.mpr commits)
    refine ⟨{ message.request with accepted := true }, ?_, ?_, ?_⟩
    · simp [RerouteMessage.request, zero]
    · rw [grpcState]
      simp [commit, RerouteMessage.parsed, zero]
    · rw [restState, grpcState]
      rfl

/-- A reroute of `L1` that sets its horizon to zero. -/
def zeroHorizonMessage : RerouteMessage Nat where
  fromPath := "P_work_L1"
  toPath := "P_prot_L2"
  linkId := "L1"
  reason := "soft_fail_predicted edfa_or_transceiver_aging"
  pFail10m := 1
  sIf := 1
  sAe := 1
  horizonS := 0
  tsUnixMs := 1710000000000

/-- The records stored for it differ. -/
theorem zero_horizon_stored_differently :
    ¬ ∀ (state : TopologyState Nat) (clockMs : Int)
        (message : RerouteMessage Nat),
      (state.restReroute clockMs message.body).2 =
          some (state.grpcReroute message).2 ∧
        (state.restReroute clockMs message.body).1 =
          (state.grpcReroute message).1 := by
  intro claim
  have sameState :=
    (claim (init Topology.config) 0 zeroHorizonMessage).2
  have sameHorizons : ([0] : List Int) = [600] :=
    congrArg
      (fun state => state.reroutes.map fun record => record.horizonS)
      sameState
  exact absurd (List.cons.inj sameHorizons).1 (by decide)

end TopologyState

end OpticsSoftfail
