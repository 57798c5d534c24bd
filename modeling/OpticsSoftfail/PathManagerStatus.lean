import OpticsSoftfail.PathManagerCapacity

namespace OpticsSoftfail

namespace TopologyState

/-!
# The status of the paths that carry moved traffic

A commit marks its target active and then its source down, without asking who
else rides the source.  Moved traffic therefore stays on active paths exactly
as long as no commit takes down a path that another link rides, or the very
path it moves its own link to.
-/

variable {Score : Type}

/-- The path exists and its status is `"active"`. -/
def ActivePath (state : TopologyState Score) (path : String) : Prop :=
  ∃ stored, state.paths.get? path = some stored ∧ stored.status = .active

/-- Every moved link rides an existing, active path. -/
def RidersActive (state : TopologyState Score) : Prop :=
  ∀ link path,
    state.moved.get? link = some path → state.ActivePath path

/-- The source of a move is neither its target nor ridden by another link. -/
structure FreesSource
    (state : TopologyState Score)
    (request : RerouteRequest Score) : Prop where
  notTarget : request.fromPath ≠ request.toPath
  ownRider :
    ∀ link,
      state.moved.get? link = some request.fromPath →
      link = request.linkId

theorem ridersActive_init (topology : Topology) :
    (init topology : TopologyState Score).RidersActive := by
  intro link path riding
  simp [init] at riding

/-- After a commit a path is active unless it was the source. -/
theorem activePath_commit_iff
    {state : TopologyState Score}
    {request : RerouteRequest Score}
    (commits : state.Commits request)
    (path : String) :
    (state.commit request).ActivePath path ↔
      path ≠ request.fromPath ∧
        (path = request.toPath ∨ state.ActivePath path) := by
  unfold ActivePath
  rw [commit_paths_get?]
  by_cases isSource : path = request.fromPath
  · simp [commitPath, isSource]
  · by_cases isTarget : path = request.toPath
    · subst isTarget
      obtain ⟨target, found, _⟩ := commits.spare
      simp [commitPath, isSource, found]
    · simp [commitPath, isSource, isTarget]

/-- A commit that frees its source leaves the moved traffic on active paths. -/
theorem RidersActive.commit
    {state : TopologyState Score}
    (ridersActive : state.RidersActive)
    {request : RerouteRequest Score}
    (commits : state.Commits request)
    (frees : state.FreesSource request) :
    (state.commit request).RidersActive := by
  intro link path riding
  rw [activePath_commit_iff commits]
  simp only [TopologyState.commit, Dict.get?_set] at riding
  split at riding
  · cases riding
    exact ⟨frees.notTarget.symm, Or.inl rfl⟩
  · rename_i otherLink
    refine ⟨?_, Or.inr (ridersActive link path riding)⟩
    rintro rfl
    exact otherLink (frees.ownRider link riding)

/-- A commit that does not free its source strands a moved link on it. -/
theorem FreesSource.of_ridersActive_commit
    {state : TopologyState Score}
    {request : RerouteRequest Score}
    (commits : state.Commits request)
    (ridersActive : (state.commit request).RidersActive) :
    state.FreesSource request where
  notTarget sameEnds := by
    have rides :
        (state.commit request).moved.get? request.linkId =
          some request.toPath := by
      simp [TopologyState.commit]
    have isUp := ridersActive request.linkId request.toPath rides
    exact ((activePath_commit_iff commits _).mp isUp).1 sameEnds.symm
  ownRider link riding := by
    by_contra otherLink
    have rides :
        (state.commit request).moved.get? link =
          some request.fromPath := by
      simp [TopologyState.commit, Dict.get?_set, otherLink, riding]
    have isUp := ridersActive link request.fromPath rides
    exact ((activePath_commit_iff commits _).mp isUp).1 rfl

/-- The moved traffic is on active paths in every state of the run. -/
def AlwaysRidersActive
    (state : TopologyState Score)
    (requests : List (RerouteRequest Score)) : Prop :=
  ∀ before after,
    requests = before ++ after →
    (state.applyAll before).RidersActive

/-- Every request of the run that commits frees its source. -/
def AlwaysFreesSource
    (state : TopologyState Score)
    (requests : List (RerouteRequest Score)) : Prop :=
  ∀ before request after,
    requests = before ++ request :: after →
    (state.applyAll before).Commits request →
    (state.applyAll before).FreesSource request

/-- One request, seen from both sides. -/
theorem ridersActive_applyReroute_iff
    {state : TopologyState Score}
    (ridersActive : state.RidersActive)
    (request : RerouteRequest Score) :
    (state.applyReroute request).1.RidersActive ↔
      (state.Commits request → state.FreesSource request) := by
  by_cases commits : state.Commits request
  · rw [applyReroute_of_commits commits]
    constructor
    · exact fun after _ => .of_ridersActive_commit commits after
    · exact fun frees => ridersActive.commit commits (frees commits)
  · rw [applyReroute_of_not_commits commits]
    exact ⟨fun _ committed => (commits committed).elim,
      fun _ => ridersActive⟩

theorem RidersActive.applyAll
    {state : TopologyState Score}
    (ridersActive : state.RidersActive)
    {requests : List (RerouteRequest Score)}
    (frees : state.AlwaysFreesSource requests) :
    (state.applyAll requests).RidersActive := by
  induction requests generalizing state with
  | nil =>
      exact ridersActive
  | cons request rest inductionHypothesis =>
      apply inductionHypothesis
      · exact (ridersActive_applyReroute_iff ridersActive request).mpr
          (frees [] request rest rfl)
      · intro before next after shape
        have later := frees (request :: before) next after
          (by rw [shape, List.cons_append])
        rwa [applyAll_cons] at later

/--
In every state of a run on a fresh topology the moved traffic is on active
paths exactly when every commit of the run frees its source.
-/
theorem ridersActive_iff_sources_freed
    (topology : Topology)
    (requests : List (RerouteRequest Score)) :
    (init topology).AlwaysRidersActive requests ↔
      (init topology).AlwaysFreesSource requests := by
  constructor
  · intro alwaysActive before request after shape
    have here := alwaysActive before (request :: after) shape
    have next := alwaysActive (before ++ [request]) after
      (by rw [shape, List.append_assoc, List.singleton_append])
    rw [applyAll_append, applyAll_cons, applyAll_nil] at next
    exact (ridersActive_applyReroute_iff here request).mp next
  · intro alwaysFrees before after shape
    apply (ridersActive_init topology).applyAll
    intro earlier request later division
    exact alwaysFrees earlier request (later ++ after)
      (by rw [shape, division, List.append_assoc, List.cons_append])

/--
`L1` is moved to its protection path; then `L3` is moved away from that same
path, which is thereby marked down under `L1`.
-/
def strandingRequests : List (RerouteRequest Nat) := [
  { fromPath := "P_work_L1", toPath := "P_prot_L2", linkId := "L1"
    reason := "", pFail10m := 1, sIf := 1, sAe := 1
    horizonS := 600, tsUnixMs := 1 },
  { fromPath := "P_prot_L2", toPath := "P_work_L3", linkId := "L3"
    reason := "", pFail10m := 1, sIf := 1, sAe := 1
    horizonS := 600, tsUnixMs := 2 }]

/-- The API accepts requests that leave moved traffic on a path marked down. -/
theorem moved_traffic_reported_down :
    ¬ ∀ (topology : Topology) (requests : List (RerouteRequest Nat)),
      (init topology).AlwaysRidersActive requests := by
  intro claim
  have afterBoth := claim Topology.config strandingRequests
    strandingRequests [] (by simp)
  have riding :
      ((init Topology.config).applyAll strandingRequests).moved.get?
        "L1" = some "P_prot_L2" := by
    decide
  obtain ⟨stored, found, isUp⟩ := afterBoth "L1" "P_prot_L2" riding
  have isDown :
      ((init Topology.config).applyAll strandingRequests).paths.get?
        "P_prot_L2" = some ⟨["L2"], "protection", 0, 1, .down⟩ := by
    decide
  rw [isDown] at found
  cases found
  cases isUp

end TopologyState

end OpticsSoftfail
