import OpticsSoftfail.Topology

namespace OpticsSoftfail

/-!
# The path manager's topology state

`TopologyState` is the stub PCE: for every path a capacity and a status, for
every moved link the path it rides, and the list of accepted reroutes.
`applyReroute` follows the source branch by branch.  Its locked section is a
definition of its own, because the JSONL append happens after the lock is
released.

The scores carried by a request are only copied into the record, so their type
`Score` is left open.  Lines printed to stdout are not modelled.
-/

/-- `RerouteRequest`, the JSON mirror of the protobuf message. -/
structure RerouteRequest (Score : Type) where
  fromPath : String
  toPath : String
  linkId : String
  reason : String
  pFail10m : Score
  sIf : Score
  sAe : Score
  horizonS : Int
  tsUnixMs : Int
  deriving Repr, DecidableEq

/-- `RerouteResponse`. -/
structure RerouteResponse where
  accepted : Bool
  message : String
  deriving Repr, DecidableEq

/-- `request.model_dump()` with `accepted` added. -/
structure RerouteRecord (Score : Type) extends RerouteRequest Score where
  accepted : Bool
  deriving Repr, DecidableEq

/-- The three values of a path's `status`. -/
inductive PathStatus where
  | standby
  | active
  | down
  deriving Repr, DecidableEq

/-- One value of `TopologyState.paths`. -/
structure PathState where
  links : List String
  role : String
  capacity : Int
  capacityTotal : Int
  status : PathStatus
  deriving Repr, DecidableEq

/-- The path built by `TopologyState.__init__` from one topology entry. -/
def PathState.ofSpec (spec : PathSpec) : PathState where
  links := spec.links.getD []
  role := spec.role.getD "working"
  capacity := spec.capacity.getD 1
  capacityTotal := spec.capacity.getD 1
  status := if spec.role = some "protection" then .standby else .active

/-- `TopologyState`: the fields its lock protects. -/
structure TopologyState (Score : Type) where
  protection : Dict String String
  paths : Dict String PathState
  reroutes : List (RerouteRecord Score)
  moved : Dict String String
  deriving Repr, DecidableEq

/-- How the locked section of `apply_reroute` is left. -/
inductive LockedOutcome (Score : Type) where
  /-- One of the four early returns. -/
  | answered : RerouteResponse → LockedOutcome Score
  /-- The reroute was committed; its record still has to reach the log file. -/
  | committed : RerouteRecord Score → LockedOutcome Score
  deriving Repr, DecidableEq

namespace TopologyState

variable {Score : Type}

/-- `TopologyState.__init__`. -/
def init (topology : Topology) : TopologyState Score where
  protection := topology.protectionMap
  paths := topology.pathSpecs.mapValues PathState.ofSpec
  reroutes := []
  moved := Dict.empty

/-- `working_path_for_link`: the first working path listing the link. -/
def workingPathForLink
    (state : TopologyState Score)
    (linkId : String) : Option String :=
  (state.paths.entries.find? fun entry =>
    entry.2.role = "working" && entry.2.links.contains linkId).map Prod.fst

/-- `protection_path_for_link`. -/
def protectionPathForLink
    (state : TopologyState Score)
    (linkId : String) : Option String :=
  state.protection.get? linkId

/-- The five assignments that move one link. -/
def commit
    (state : TopologyState Score)
    (request : RerouteRequest Score) : TopologyState Score :=
  { state with
    paths :=
      (state.paths.modify request.toPath fun target =>
        { target with
          capacity := target.capacity - 1
          status := .active }).modify request.fromPath fun source =>
        { source with status := .down }
    moved := state.moved.set request.linkId request.toPath
    reroutes :=
      state.reroutes ++ [{ request with accepted := true }] }

/-- The body of `with self._lock` in `apply_reroute`. -/
def applyLocked
    (state : TopologyState Score)
    (request : RerouteRequest Score) :
    TopologyState Score × LockedOutcome Score :=
  if state.paths.contains request.fromPath = false then
    (state, .answered {
      accepted := false
      message := "unknown from_path " ++ request.fromPath })
  else
    match state.paths.get? request.toPath with
    | none =>
        (state, .answered {
          accepted := false
          message := "unknown to_path " ++ request.toPath })
    | some target =>
        if state.moved.get? request.linkId = some request.toPath then
          (state, .answered {
            accepted := true
            message :=
              request.linkId ++ " already rides " ++ request.toPath })
        else if target.capacity ≤ 0 then
          (state, .answered {
            accepted := false
            message := request.toPath ++ " has no spare capacity" })
        else
          (state.commit request,
            .committed { request with accepted := true })

/-- The response sent once the locked section has been left. -/
def LockedOutcome.response : LockedOutcome Score → RerouteResponse
  | .answered response => response
  | .committed record => {
      accepted := true
      message :=
        "traffic moved " ++ record.fromPath ++ " -> " ++ record.toPath }

/-- `apply_reroute`, the log file aside. -/
def applyReroute
    (state : TopologyState Score)
    (request : RerouteRequest Score) :
    TopologyState Score × RerouteResponse :=
  let locked := state.applyLocked request
  (locked.1, LockedOutcome.response locked.2)

end TopologyState

/-- The two front ends of the path manager. -/
inductive Transport where
  | rest
  | grpc
  deriving Repr, DecidableEq

/-- A request as it arrives on one of the front ends. -/
structure RerouteCall (Score : Type) where
  transport : Transport
  request : RerouteRequest Score
  deriving Repr, DecidableEq

namespace RerouteCall

variable {Score : Type}

/--
The request handed to `apply_reroute`: REST passes the parsed body on, the gRPC
service rebuilds it and replaces a zero horizon.
-/
def parsed (call : RerouteCall Score) : RerouteRequest Score :=
  match call.transport with
  | .rest => call.request
  | .grpc =>
      { call.request with
        horizonS :=
          if call.request.horizonS = 0 then 600
          else call.request.horizonS }

@[simp] theorem parsed_fromPath (call : RerouteCall Score) :
    call.parsed.fromPath = call.request.fromPath := by
  unfold parsed
  split <;> rfl

@[simp] theorem parsed_toPath (call : RerouteCall Score) :
    call.parsed.toPath = call.request.toPath := by
  unfold parsed
  split <;> rfl

@[simp] theorem parsed_linkId (call : RerouteCall Score) :
    call.parsed.linkId = call.request.linkId := by
  unfold parsed
  split <;> rfl

end RerouteCall

namespace TopologyState

variable {Score : Type}

/-- `create_app.reroute` and `PathControlService.Reroute`. -/
def receive
    (state : TopologyState Score)
    (call : RerouteCall Score) :
    TopologyState Score × RerouteResponse :=
  state.applyReroute call.parsed

/-- The state after a sequence of requests. -/
def applyAll
    (state : TopologyState Score)
    (requests : List (RerouteRequest Score)) : TopologyState Score :=
  requests.foldl (fun current request => (current.applyReroute request).1) state

@[simp] theorem applyAll_nil (state : TopologyState Score) :
    state.applyAll [] = state :=
  rfl

@[simp] theorem applyAll_cons
    (state : TopologyState Score)
    (request : RerouteRequest Score)
    (rest : List (RerouteRequest Score)) :
    state.applyAll (request :: rest) =
      (state.applyReroute request).1.applyAll rest :=
  rfl

theorem applyAll_append
    (state : TopologyState Score)
    (first second : List (RerouteRequest Score)) :
    state.applyAll (first ++ second) =
      (state.applyAll first).applyAll second := by
  simp [applyAll]

/-- A property kept by every request holds after every run. -/
theorem applyAll_invariant
    (property : TopologyState Score → Prop)
    (preserved :
      ∀ {state} request,
        property state → property (state.applyReroute request).1)
    {state : TopologyState Score}
    (holds : property state)
    (requests : List (RerouteRequest Score)) :
    property (state.applyAll requests) := by
  induction requests generalizing state with
  | nil =>
      exact holds
  | cons request rest inductionHypothesis =>
      exact inductionHypothesis (preserved request holds)

/-- The guards of `apply_reroute` that lead to the commit. -/
structure Commits
    (state : TopologyState Score)
    (request : RerouteRequest Score) : Prop where
  fromKnown : state.paths.contains request.fromPath = true
  notRiding : state.moved.get? request.linkId ≠ some request.toPath
  spare :
    ∃ target,
      state.paths.get? request.toPath = some target ∧
        0 < target.capacity

/-- The guards of the idempotent branch: a repeated move. -/
structure Repeats
    (state : TopologyState Score)
    (request : RerouteRequest Score) : Prop where
  fromKnown : state.paths.contains request.fromPath = true
  toKnown : state.paths.contains request.toPath = true
  riding : state.moved.get? request.linkId = some request.toPath

/--
How the locked section is left: by a commit, by the answer to a repeated move,
or by a rejection; only the first changes the state.
-/
theorem applyLocked_cases
    (state : TopologyState Score)
    (request : RerouteRequest Score) :
    (state.Commits request ∧
        state.applyLocked request =
          (state.commit request,
            .committed { request with accepted := true })) ∨
      (state.Repeats request ∧
        ∃ response,
          response.accepted = true ∧
            state.applyLocked request = (state, .answered response)) ∨
      (¬ state.Commits request ∧ ¬ state.Repeats request ∧
        ∃ response,
          response.accepted = false ∧
            state.applyLocked request = (state, .answered response)) := by
  unfold applyLocked
  by_cases fromUnknown :
      state.paths.contains request.fromPath = false
  · have notKnown : state.paths.contains request.fromPath ≠ true := by
      simp [fromUnknown]
    refine Or.inr (Or.inr ⟨?_, ?_, ?_⟩)
    · exact fun commits => notKnown commits.fromKnown
    · exact fun repeats => notKnown repeats.fromKnown
    · simp [fromUnknown]
  · have fromKnown : state.paths.contains request.fromPath = true := by
      simpa using fromUnknown
    cases target? : state.paths.get? request.toPath with
    | none =>
        refine Or.inr (Or.inr ⟨?_, ?_, ?_⟩)
        · rintro ⟨_, _, target, found, _⟩
          simp [target?] at found
        · rintro ⟨_, known, _⟩
          simp [Dict.contains, target?] at known
        · simp [fromKnown]
    | some target =>
        have toKnown : state.paths.contains request.toPath = true := by
          simp [Dict.contains, target?]
        by_cases riding :
            state.moved.get? request.linkId = some request.toPath
        · refine Or.inr (Or.inl ⟨⟨fromKnown, toKnown, riding⟩, ?_⟩)
          simp [fromKnown, riding]
        · by_cases full : target.capacity ≤ 0
          · refine Or.inr (Or.inr ⟨?_, ?_, ?_⟩)
            · rintro ⟨_, _, other, found, spare⟩
              rw [target?] at found
              cases found
              omega
            · exact fun repeats => riding repeats.riding
            · simp [fromKnown, riding, full]
          · refine Or.inl
              ⟨⟨fromKnown, riding, target, target?, by omega⟩, ?_⟩
            simp [fromKnown, riding, full]

/--
What one request can do: commit and be accepted, be recognised as a repeated
move, or be rejected; only the first changes the state.
-/
theorem applyReroute_cases
    (state : TopologyState Score)
    (request : RerouteRequest Score) :
    (state.Commits request ∧
        (state.applyReroute request).1 = state.commit request ∧
        (state.applyReroute request).2.accepted = true) ∨
      (state.Repeats request ∧
        (state.applyReroute request).1 = state ∧
        (state.applyReroute request).2.accepted = true) ∨
      (¬ state.Commits request ∧ ¬ state.Repeats request ∧
        (state.applyReroute request).1 = state ∧
        (state.applyReroute request).2.accepted = false) := by
  unfold applyReroute
  rcases state.applyLocked_cases request with
    ⟨commits, locked⟩ | ⟨repeats, response, accepted, locked⟩ |
      ⟨notCommits, notRepeats, response, rejected, locked⟩
  · rw [locked]
    exact Or.inl ⟨commits, rfl, rfl⟩
  · rw [locked]
    exact Or.inr (Or.inl ⟨repeats, rfl, accepted⟩)
  · rw [locked]
    exact Or.inr (Or.inr ⟨notCommits, notRepeats, rfl, rejected⟩)

/-- A request meeting the guards commits. -/
theorem applyReroute_of_commits
    {state : TopologyState Score}
    {request : RerouteRequest Score}
    (commits : state.Commits request) :
    (state.applyReroute request).1 = state.commit request := by
  rcases state.applyReroute_cases request with
    ⟨_, after, _⟩ | ⟨repeats, _⟩ | ⟨notCommits, _⟩
  · exact after
  · exact (commits.notRiding repeats.riding).elim
  · exact (notCommits commits).elim

/-- A request that does not meet them leaves the state exactly as it was. -/
theorem applyReroute_of_not_commits
    {state : TopologyState Score}
    {request : RerouteRequest Score}
    (notCommits : ¬ state.Commits request) :
    (state.applyReroute request).1 = state := by
  rcases state.applyReroute_cases request with
    ⟨commits, _⟩ | ⟨_, after, _⟩ | ⟨_, _, after, _⟩
  · exact (notCommits commits).elim
  · exact after
  · exact after

/-- A request is accepted when it commits or repeats the move in force. -/
theorem applyReroute_accepted_iff
    {state : TopologyState Score}
    {request : RerouteRequest Score} :
    (state.applyReroute request).2.accepted = true ↔
      state.Commits request ∨ state.Repeats request := by
  rcases state.applyReroute_cases request with
    ⟨commits, _, accepted⟩ | ⟨repeats, _, accepted⟩ |
      ⟨notCommits, notRepeats, _, rejected⟩
  · simp [accepted, commits]
  · simp [accepted, repeats]
  · simp [rejected, notCommits, notRepeats]

end TopologyState

end OpticsSoftfail
