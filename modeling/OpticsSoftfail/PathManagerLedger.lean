import OpticsSoftfail.PathManagerDelivery

namespace OpticsSoftfail

namespace TopologyState

/-!
# The reroute ledger

`reroutes` is the ledger of the path manager: every commit appends one record,
and nothing else changes the state.  The ledger therefore determines the state.
The capacities and the moved links are read off it, and replaying its records
on a fresh state accepts every one and arrives at the same state.
-/

variable {Score : Type}

/-- Splitting a run splits its answers. -/
theorem responses_append
    (state : TopologyState Score)
    (first second : List (RerouteRequest Score)) :
    responses state (first ++ second) =
      responses state first ++
        responses (state.applyAll first) second := by
  induction first generalizing state with
  | nil =>
      rfl
  | cons request rest inductionHypothesis =>
      simp only [List.cons_append, responses, inductionHypothesis,
        applyAll_cons]

/-- The requests behind the records, in order. -/
def ledger (state : TopologyState Score) : List (RerouteRequest Score) :=
  state.reroutes.map RerouteRecord.toRerouteRequest

/-- How many records move a link onto the path. -/
def recordsTo (state : TopologyState Score) (path : String) : Nat :=
  state.reroutes.countP fun record => record.toPath = path

/-- The target of the last record of a link, if it has one. -/
def lastRecordedPath
    (state : TopologyState Score)
    (link : String) : Option String :=
  (state.reroutes.filter fun record => record.linkId = link).getLast?.map
    fun record => record.toPath

theorem ledger_commit
    (state : TopologyState Score)
    (request : RerouteRequest Score) :
    (state.commit request).ledger = state.ledger ++ [request] := by
  simp [ledger, commit]

theorem recordsTo_commit
    (state : TopologyState Score)
    (request : RerouteRequest Score)
    (path : String) :
    (state.commit request).recordsTo path =
      state.recordsTo path + if path = request.toPath then 1 else 0 := by
  simp only [recordsTo, commit, List.countP_append,
    List.countP_singleton, decide_eq_true_eq, eq_comm (a := path)]

theorem lastRecordedPath_commit
    (state : TopologyState Score)
    (request : RerouteRequest Score)
    (link : String) :
    (state.commit request).lastRecordedPath link =
      if link = request.linkId then some request.toPath
      else state.lastRecordedPath link := by
  by_cases ofLink : link = request.linkId
  · simp [lastRecordedPath, commit, ofLink]
  · simp [lastRecordedPath, commit, ofLink, Ne.symm ofLink]

/-- Each path has lost one unit for every record that names it as target. -/
def CapacityRecorded (state : TopologyState Score) : Prop :=
  ∀ path stored,
    state.paths.get? path = some stored →
    stored.capacity = stored.capacityTotal - state.recordsTo path

/-- A path with a nonnegative total never hands out more than it has. -/
def TotalsSuffice (state : TopologyState Score) : Prop :=
  ∀ path stored,
    state.paths.get? path = some stored →
    0 ≤ stored.capacityTotal →
    0 ≤ stored.capacity

/-- A link rides the target of its last record, and none without a record. -/
def MovedRecorded (state : TopologyState Score) : Prop :=
  ∀ link, state.moved.get? link = state.lastRecordedPath link

/-- Applied to `fresh`, the records are all accepted and give the state. -/
structure ReplaysFrom
    (fresh state : TopologyState Score) : Prop where
  accepted :
    ∀ answered ∈ responses fresh state.ledger,
      answered.2.accepted = true
  reproduces : fresh.applyAll state.ledger = state

/-- The requests that `apply_reroute` turns away or recognises. -/
inductive Declines
    (state : TopologyState Score)
    (request : RerouteRequest Score) : Prop where
  | unknownFrom
      (unknown : state.paths.contains request.fromPath = false)
  | unknownTo
      (unknown : state.paths.contains request.toPath = false)
  | alreadyApplied
      (riding : state.moved.get? request.linkId = some request.toPath)
  | noCapacity
      (target : PathState)
      (found : state.paths.get? request.toPath = some target)
      (exhausted : target.capacity ≤ 0)

/-- A declined request meets none of the guards of the commit. -/
theorem Declines.not_commits
    {state : TopologyState Score}
    {request : RerouteRequest Score}
    (declines : state.Declines request) :
    ¬ state.Commits request := by
  rintro ⟨fromKnown, notRiding, target, found, spare⟩
  cases declines with
  | unknownFrom unknown =>
      simp [unknown] at fromKnown
  | unknownTo unknown =>
      simp [Dict.contains, found] at unknown
  | alreadyApplied riding =>
      exact notRiding riding
  | noCapacity other otherFound exhausted =>
      rw [found] at otherFound
      cases otherFound
      omega

/-- What the ledger says about the state it belongs to. -/
structure LedgerDetermines
    (topology : Topology)
    (state : TopologyState Score) : Prop where
  capacity : state.CapacityRecorded
  nonnegative : state.TotalsSuffice
  moved : state.MovedRecorded
  replays : (init topology).ReplaysFrom state
  /-- Declined requests leave the state exactly as it was. -/
  declined :
    ∀ request,
      state.Declines request →
      (state.applyReroute request).1 = state

theorem capacityRecorded_init (topology : Topology) :
    (init topology : TopologyState Score).CapacityRecorded := by
  intro path stored found
  simp only [init, Dict.get?_mapValues,
    Option.map_eq_some_iff] at found
  obtain ⟨spec, _, rfl⟩ := found
  simp [PathState.ofSpec, recordsTo, init]

theorem totalsSuffice_init (topology : Topology) :
    (init topology : TopologyState Score).TotalsSuffice := by
  intro path stored found total
  simp only [init, Dict.get?_mapValues,
    Option.map_eq_some_iff] at found
  obtain ⟨spec, _, rfl⟩ := found
  exact total

theorem replaysFrom_init (topology : Topology) :
    (init topology : TopologyState Score).ReplaysFrom (init topology) where
  accepted answered member := by
    simp [ledger, init, responses] at member
  reproduces := rfl

/-- A fresh state has an empty ledger, which determines it. -/
theorem ledgerDetermines_init (topology : Topology) :
    (init topology : TopologyState Score).LedgerDetermines topology where
  capacity := capacityRecorded_init topology
  nonnegative := totalsSuffice_init topology
  moved _ := rfl
  replays := replaysFrom_init topology
  declined _ declines := applyReroute_of_not_commits declines.not_commits

theorem CapacityRecorded.commit
    {state : TopologyState Score}
    (recorded : state.CapacityRecorded)
    (request : RerouteRequest Score) :
    (state.commit request).CapacityRecorded := by
  intro path stored found
  rw [commit_paths_get?] at found
  obtain ⟨before, lookup, rfl⟩ := Option.map_eq_some_iff.mp found
  have balance := recorded path before lookup
  rw [recordsTo_commit]
  simp only [commitPath]
  split_ifs
  · push_cast
    omega
  · simpa using balance

theorem TotalsSuffice.commit
    {state : TopologyState Score}
    (unspent : state.TotalsSuffice)
    {request : RerouteRequest Score}
    (commits : state.Commits request) :
    (state.commit request).TotalsSuffice := by
  intro path stored found total
  rw [commit_paths_get?] at found
  obtain ⟨before, lookup, rfl⟩ := Option.map_eq_some_iff.mp found
  have enough := unspent path before lookup total
  simp only [commitPath]
  split_ifs with isTarget
  · -- The guard of the commit saw a spare unit on this very path.
    obtain ⟨target, targetFound, spare⟩ := commits.spare
    rw [← isTarget, lookup] at targetFound
    cases targetFound
    omega
  · exact enough

theorem MovedRecorded.commit
    {state : TopologyState Score}
    (recorded : state.MovedRecorded)
    (request : RerouteRequest Score) :
    (state.commit request).MovedRecorded := by
  intro link
  rw [lastRecordedPath_commit, ← recorded link]
  simp [TopologyState.commit, Dict.get?_set]

/-- Replaying one more record repeats the commit that wrote it. -/
theorem ReplaysFrom.commit
    {fresh state : TopologyState Score}
    (replays : fresh.ReplaysFrom state)
    {request : RerouteRequest Score}
    (commits : state.Commits request) :
    fresh.ReplaysFrom (state.commit request) where
  accepted answered member := by
    rw [ledger_commit, responses_append, replays.reproduces,
      List.mem_append] at member
    rcases member with earlier | last
    · exact replays.accepted answered earlier
    · have isLast :
          answered = (request, (state.applyReroute request).2) := by
        simpa [responses] using last
      rw [isLast]
      exact applyReroute_accepted_iff.mpr (Or.inl commits)
  reproduces := by
    rw [ledger_commit, applyAll_append, replays.reproduces,
      applyAll_cons, applyAll_nil]
    exact applyReroute_of_commits commits

/-- A commit extends the ledger by the record of what it did. -/
theorem LedgerDetermines.commit
    {topology : Topology}
    {state : TopologyState Score}
    (determined : state.LedgerDetermines topology)
    {request : RerouteRequest Score}
    (commits : state.Commits request) :
    (state.commit request).LedgerDetermines topology where
  capacity := determined.capacity.commit request
  nonnegative := determined.nonnegative.commit commits
  moved := determined.moved.commit request
  replays := determined.replays.commit commits
  declined _ declines := applyReroute_of_not_commits declines.not_commits

theorem LedgerDetermines.applyReroute
    {topology : Topology}
    {state : TopologyState Score}
    (determined : state.LedgerDetermines topology)
    (request : RerouteRequest Score) :
    (state.applyReroute request).1.LedgerDetermines topology := by
  by_cases commits : state.Commits request
  · rw [applyReroute_of_commits commits]
    exact determined.commit commits
  · rw [applyReroute_of_not_commits commits]
    exact determined

theorem LedgerDetermines.applyAll
    {topology : Topology}
    {state : TopologyState Score}
    (determined : state.LedgerDetermines topology)
    (requests : List (RerouteRequest Score)) :
    (state.applyAll requests).LedgerDetermines topology :=
  applyAll_invariant (LedgerDetermines topology)
    (fun request holds => holds.applyReroute request)
    determined requests

/-- In every state reached from a fresh one, the ledger determines the state. -/
theorem ledger_determines_state
    (topology : Topology)
    (requests : List (RerouteRequest Score)) :
    ((init topology).applyAll requests).LedgerDetermines topology :=
  (ledgerDetermines_init topology).applyAll requests

end TopologyState

end OpticsSoftfail
