import OpticsSoftfail.PathManagerState

namespace OpticsSoftfail

/-!
# Capacity accounting of the path manager

Every commit takes one unit from its target path and nothing ever gives a unit
back.  The balance below counts what that means over a whole run: the units
taken from a path are the links riding it now plus the links that were moved
off it since.
-/

namespace TopologyState

variable {Score : Type}

/-- Decide the guards of the commit, so runs can be evaluated. -/
instance decidableCommits
    (state : TopologyState Score)
    (request : RerouteRequest Score) :
    Decidable (state.Commits request) :=
  decidable_of_iff
    (state.paths.contains request.fromPath = true ∧
      state.moved.get? request.linkId ≠ some request.toPath ∧
      ∃ target ∈ state.paths.get? request.toPath, 0 < target.capacity)
    ⟨fun guards => ⟨guards.1, guards.2.1, guards.2.2⟩,
      fun commits =>
        ⟨commits.fromKnown, commits.notRiding, commits.spare⟩⟩

/-- How many links ride a path now. -/
def riders (state : TopologyState Score) (path : String) : Nat :=
  state.moved.valueCount path

/-- What a commit does to the stored state of one path. -/
def commitPath
    (request : RerouteRequest Score)
    (path : String)
    (stored : PathState) : PathState :=
  { stored with
    capacity :=
      if path = request.toPath then stored.capacity - 1
      else stored.capacity
    status :=
      if path = request.fromPath then .down
      else if path = request.toPath then .active
      else stored.status }

/-- A commit updates the paths pointwise. -/
theorem commit_paths_get?
    (state : TopologyState Score)
    (request : RerouteRequest Score)
    (path : String) :
    (state.commit request).paths.get? path =
      (state.paths.get? path).map (commitPath request path) := by
  simp only [commit, Dict.get?_modify]
  cases state.paths.get? path with
  | none =>
      simp
  | some stored =>
      simp only [Option.map_some, commitPath]
      split_ifs <;> rfl

/-- One request changes a path at most as `commitPath` says. -/
theorem applyReroute_paths_get?
    (state : TopologyState Score)
    (request : RerouteRequest Score)
    (path : String) :
    (state.applyReroute request).1.paths.get? path =
      if state.Commits request then
        (state.paths.get? path).map (commitPath request path)
      else state.paths.get? path := by
  by_cases commits : state.Commits request
  · rw [applyReroute_of_commits commits, if_pos commits,
      commit_paths_get?]
  · rw [applyReroute_of_not_commits commits, if_neg commits]

/-- Requests neither add nor remove paths. -/
theorem applyReroute_contains
    (state : TopologyState Score)
    (request : RerouteRequest Score)
    (path : String) :
    (state.applyReroute request).1.paths.contains path =
      state.paths.contains path := by
  simp only [Dict.contains, applyReroute_paths_get?]
  split <;> simp

theorem applyAll_contains
    (state : TopologyState Score)
    (requests : List (RerouteRequest Score))
    (path : String) :
    (state.applyAll requests).paths.contains path =
      state.paths.contains path := by
  exact applyAll_invariant
    (fun current =>
      current.paths.contains path = state.paths.contains path)
    (fun request same => (applyReroute_contains _ request path).trans same)
    rfl requests

/-- Every moved link rides a path the topology knows. -/
def MovedKnown (state : TopologyState Score) : Prop :=
  ∀ link path,
    state.moved.get? link = some path →
    state.paths.contains path = true

theorem movedKnown_init (topology : Topology) :
    (init topology : TopologyState Score).MovedKnown := by
  intro link path riding
  simp [init] at riding

theorem MovedKnown.applyReroute
    {state : TopologyState Score}
    (known : state.MovedKnown)
    (request : RerouteRequest Score) :
    (state.applyReroute request).1.MovedKnown := by
  intro link path riding
  rw [applyReroute_contains]
  by_cases commits : state.Commits request
  · rw [applyReroute_of_commits commits] at riding
    simp only [commit, Dict.get?_set] at riding
    split at riding
    · cases riding
      obtain ⟨target, found, _⟩ := commits.spare
      exact Dict.contains_iff.mpr ⟨target, found⟩
    · exact known link path riding
  · rw [applyReroute_of_not_commits commits] at riding
    exact known link path riding

theorem MovedKnown.applyAll
    {state : TopologyState Score}
    (known : state.MovedKnown)
    (requests : List (RerouteRequest Score)) :
    (state.applyAll requests).MovedKnown :=
  applyAll_invariant MovedKnown
    (fun request holds => holds.applyReroute request) known requests

/-- The request commits a move of a link that rides `path` now. -/
def Relocates
    (state : TopologyState Score)
    (request : RerouteRequest Score)
    (path : String) : Prop :=
  state.Commits request ∧ state.moved.get? request.linkId = some path

instance decidableRelocates
    (state : TopologyState Score)
    (request : RerouteRequest Score)
    (path : String) :
    Decidable (state.Relocates request path) :=
  inferInstanceAs (Decidable (_ ∧ _))

/-- How often a run moves a link off a path. -/
def relocations (path : String) :
    TopologyState Score → List (RerouteRequest Score) → Nat
  | _, [] => 0
  | state, request :: rest =>
      (if state.Relocates request path then 1 else 0) +
        relocations path (state.applyReroute request).1 rest

/--
The units taken from a path are its riders plus a surplus.  The surplus is what
the claim of leak-free accounting requires to be zero.
-/
def Accounts
    (state : TopologyState Score)
    (path : String)
    (surplus : Nat) : Prop :=
  ∀ stored,
    state.paths.get? path = some stored →
    stored.capacityTotal - stored.capacity =
      state.riders path + surplus

theorem accounts_init
    (topology : Topology)
    (path : String) :
    (init topology : TopologyState Score).Accounts path 0 := by
  intro stored found
  simp only [init, Dict.get?_mapValues,
    Option.map_eq_some_iff] at found
  obtain ⟨spec, _, rfl⟩ := found
  simp [PathState.ofSpec, riders, init, Dict.valueCount, Dict.empty]

/-- The riders of a path after a commit. -/
theorem riders_commit
    (state : TopologyState Score)
    (request : RerouteRequest Score)
    (path : String) :
    (state.commit request).riders path +
        (if state.moved.get? request.linkId = some path then 1 else 0) =
      state.riders path +
        (if request.toPath = path then 1 else 0) :=
  Dict.valueCount_set state.moved request.linkId request.toPath path

/-- A request adds to the surplus exactly when it moves a link off the path. -/
theorem Accounts.applyReroute
    {state : TopologyState Score}
    {path : String}
    {surplus : Nat}
    (accounts : state.Accounts path surplus)
    (request : RerouteRequest Score) :
    (state.applyReroute request).1.Accounts path
      (surplus + if state.Relocates request path then 1 else 0) := by
  intro stored found
  rw [applyReroute_paths_get?] at found
  by_cases commits : state.Commits request
  · rw [if_pos commits] at found
    obtain ⟨before, lookup, rfl⟩ := Option.map_eq_some_iff.mp found
    have balance := accounts before lookup
    have moved := riders_commit state request path
    rw [applyReroute_of_commits commits]
    simp only [Relocates, commits, true_and, commitPath]
    by_cases isTarget : path = request.toPath
    · subst isTarget
      simp only [commits.notRiding, ↓reduceIte, Nat.add_zero] at moved ⊢
      omega
    · rw [if_neg (Ne.symm isTarget)] at moved
      rw [if_neg isTarget]
      omega
  · rw [if_neg commits] at found
    have unchanged : ¬ state.Relocates request path :=
      fun relocates => commits relocates.1
    rw [applyReroute_of_not_commits commits, if_neg unchanged]
    simpa using accounts stored found

/-- Over a run the surplus grows by the number of relocations off the path. -/
theorem Accounts.applyAll
    {state : TopologyState Score}
    {path : String}
    {surplus : Nat}
    (accounts : state.Accounts path surplus)
    (requests : List (RerouteRequest Score)) :
    (state.applyAll requests).Accounts path
      (surplus + relocations path state requests) := by
  induction requests generalizing state surplus with
  | nil =>
      simpa [relocations] using accounts
  | cons request rest inductionHypothesis =>
      have later := inductionHypothesis (accounts.applyReroute request)
      rw [applyAll_cons, relocations, ← Nat.add_assoc]
      exact later

/-- Splitting a run splits the count of its relocations. -/
theorem relocations_append
    (path : String)
    (state : TopologyState Score)
    (first second : List (RerouteRequest Score)) :
    relocations path state (first ++ second) =
      relocations path state first +
        relocations path (state.applyAll first) second := by
  induction first generalizing state with
  | nil =>
      simp [relocations]
  | cons request rest inductionHypothesis =>
      simp only [List.cons_append, relocations,
        inductionHypothesis, applyAll_cons]
      omega

/-- A run without a relocation off the path counts none. -/
theorem relocations_eq_zero
    {path : String}
    {state : TopologyState Score}
    {requests : List (RerouteRequest Score)}
    (never :
      ∀ before request after,
        requests = before ++ request :: after →
        ¬ (state.applyAll before).Relocates request path) :
    relocations path state requests = 0 := by
  induction requests generalizing state with
  | nil =>
      rfl
  | cons request rest inductionHypothesis =>
      have first : ¬ state.Relocates request path :=
        never [] request rest rfl
      have later :
          relocations path (state.applyReroute request).1 rest = 0 := by
        apply inductionHypothesis
        intro before next after shape
        have relocated := never (request :: before) next after
          (by rw [shape, List.cons_append])
        rwa [applyAll_cons] at relocated
      rw [relocations, if_neg first, later]

/-- On every path, the units taken are exactly the links riding it. -/
def CapacityMatches (state : TopologyState Score) : Prop :=
  ∀ path stored,
    state.paths.get? path = some stored →
    stored.capacityTotal - stored.capacity = state.riders path

/-- No request of the run commits a move of an already moved link. -/
def NeverRelocates
    (state : TopologyState Score)
    (requests : List (RerouteRequest Score)) : Prop :=
  ∀ before request after,
    requests = before ++ request :: after →
    (state.applyAll before).Commits request →
    (state.applyAll before).moved.get? request.linkId = none

/--
The units taken from every path are the links riding it exactly when no commit
of the run moved a link that was already riding a path.
-/
theorem capacityMatches_iff_neverRelocates
    (topology : Topology)
    (requests : List (RerouteRequest Score)) :
    ((init topology).applyAll requests).CapacityMatches ↔
      (init topology).NeverRelocates requests := by
  have balance :
      ∀ path,
        ((init topology).applyAll requests).Accounts path
          (relocations path (init topology) requests) := by
    intro path
    have fresh : (init topology : TopologyState Score).Accounts path 0 :=
      accounts_init topology path
    simpa using fresh.applyAll requests
  constructor
  · intro isMatch before request after shape commits
    -- A relocation off `path` is counted once and never uncounted.
    cases riding :
        ((init topology).applyAll before).moved.get? request.linkId with
    | none =>
        rfl
    | some path =>
        have pathKnown :
            ((init topology).applyAll requests).paths.contains path =
              true := by
          rw [applyAll_contains, ← applyAll_contains _ before]
          exact (movedKnown_init topology).applyAll before
            request.linkId path riding
        obtain ⟨stored, found⟩ := Dict.contains_iff.mp pathKnown
        have relocates :
            ((init topology).applyAll before).Relocates request path :=
          ⟨commits, riding⟩
        have counted :
            0 < relocations path (init topology) requests := by
          rw [shape, relocations_append, relocations, if_pos relocates]
          omega
        have leaked := balance path stored found
        have matched := isMatch path stored found
        omega
  · intro never path stored found
    have none : relocations path (init topology) requests = 0 := by
      apply relocations_eq_zero
      intro before request after shape relocates
      have absent := never before request after shape relocates.1
      rw [relocates.2] at absent
      cases absent
    have accounts := balance path stored found
    rw [none] at accounts
    simpa using accounts

/-- Move `L1` to its protection path and from there to a third path. -/
def relocatingRequests : List (RerouteRequest Nat) := [
  { fromPath := "P_work_L1", toPath := "P_prot_L2", linkId := "L1"
    reason := "", pFail10m := 1, sIf := 1, sAe := 1
    horizonS := 600, tsUnixMs := 1 },
  { fromPath := "P_prot_L2", toPath := "P_work_L3", linkId := "L1"
    reason := "", pFail10m := 1, sIf := 1, sAe := 1
    horizonS := 600, tsUnixMs := 2 }]

/-- The unit `L1` took from its protection path is never given back. -/
theorem capacity_leaks_when_link_moves_again :
    ¬ ∀ (topology : Topology) (requests : List (RerouteRequest Nat)),
      topology.NonnegativeCapacities →
      ((init topology).applyAll requests).CapacityMatches := by
  intro claim
  have isMatch :=
    claim Topology.config relocatingRequests
      Topology.config_nonnegativeCapacities
  have atProtection := isMatch "P_prot_L2"
    ⟨["L2"], "protection", 0, 1, .down⟩ (by decide)
  revert atProtection
  decide

end TopologyState

end OpticsSoftfail
