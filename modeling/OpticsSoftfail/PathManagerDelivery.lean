import Mathlib.Data.Finset.Card
import Mathlib.Data.Finset.Dedup
import Mathlib.Data.List.Dedup
import OpticsSoftfail.PathManagerCapacity

namespace OpticsSoftfail

/-!
# Duplicate delivery of reroute requests

The healer sends every request over REST and over gRPC, and either copy may be
repeated.  When each link asks for one fixed move, a decision once taken is
final: an accepted link keeps riding its path, and a rejected link was rejected
because its path was full, which it stays.  The answers are therefore read off
the final state, and the counts follow from the capacity balance.
-/

namespace TopologyState

variable {Score : Type}

/-- Every request of a run with the response it got. -/
def responses :
    TopologyState Score →
      List (RerouteRequest Score) →
      List (RerouteRequest Score × RerouteResponse)
  | _, [] => []
  | state, request :: rest =>
      (request, (state.applyReroute request).2) ::
        responses (state.applyReroute request).1 rest

/-- Each request of the run is answered. -/
theorem map_fst_responses
    (state : TopologyState Score)
    (requests : List (RerouteRequest Score)) :
    (responses state requests).map Prod.fst = requests := by
  induction requests generalizing state with
  | nil =>
      rfl
  | cons request rest inductionHypothesis =>
      simp [responses, inductionHypothesis]

/-- All requests of one link agree on the move they ask for. -/
def FixedRoutes (requests : List (RerouteRequest Score)) : Prop :=
  ∀ first ∈ requests, ∀ second ∈ requests,
    first.linkId = second.linkId →
    first.fromPath = second.fromPath ∧ first.toPath = second.toPath

/-- All requests name paths of the topology. -/
def KnownPaths
    (state : TopologyState Score)
    (requests : List (RerouteRequest Score)) : Prop :=
  ∀ request ∈ requests,
    state.paths.contains request.fromPath = true ∧
      state.paths.contains request.toPath = true

/-- A link that moved already rides the path the run asks for. -/
def Agrees
    (state : TopologyState Score)
    (requests : List (RerouteRequest Score)) : Prop :=
  ∀ request ∈ requests, ∀ path,
    state.moved.get? request.linkId = some path →
    path = request.toPath

/-- The path has no unit left. -/
def Full (state : TopologyState Score) (path : String) : Prop :=
  ∀ stored,
    state.paths.get? path = some stored → stored.capacity ≤ 0

/-- The total of a path never changes. -/
theorem applyReroute_capacityTotal
    (state : TopologyState Score)
    (request : RerouteRequest Score)
    (path : String) :
    ((state.applyReroute request).1.paths.get? path).map
        PathState.capacityTotal =
      (state.paths.get? path).map PathState.capacityTotal := by
  rw [applyReroute_paths_get?]
  split
  · simp [Function.comp_def, commitPath]
  · rfl

theorem applyAll_capacityTotal
    (state : TopologyState Score)
    (requests : List (RerouteRequest Score))
    (path : String) :
    ((state.applyAll requests).paths.get? path).map
        PathState.capacityTotal =
      (state.paths.get? path).map PathState.capacityTotal := by
  exact applyAll_invariant
    (fun current =>
      (current.paths.get? path).map PathState.capacityTotal =
        (state.paths.get? path).map PathState.capacityTotal)
    (fun request same =>
      (applyReroute_capacityTotal _ request path).trans same)
    rfl requests

/-- A full path stays full. -/
theorem Full.applyReroute
    {state : TopologyState Score}
    {path : String}
    (full : state.Full path)
    (request : RerouteRequest Score) :
    (state.applyReroute request).1.Full path := by
  intro stored found
  rw [applyReroute_paths_get?] at found
  split at found
  · obtain ⟨before, lookup, rfl⟩ := Option.map_eq_some_iff.mp found
    have wasFull := full before lookup
    simp only [commitPath]
    split <;> omega
  · exact full stored found

theorem Full.applyAll
    {state : TopologyState Score}
    {path : String}
    (full : state.Full path)
    (requests : List (RerouteRequest Score)) :
    (state.applyAll requests).Full path :=
  applyAll_invariant (fun current => current.Full path)
    (fun request holds => holds.applyReroute request) full requests

/-- No path was handed out beyond its capacity. -/
def NonnegativeCapacity (state : TopologyState Score) : Prop :=
  ∀ path stored,
    state.paths.get? path = some stored → 0 ≤ stored.capacity

theorem nonnegativeCapacity_init
    {topology : Topology}
    (nonnegative : topology.NonnegativeCapacities) :
    (init topology : TopologyState Score).NonnegativeCapacity := by
  intro path stored found
  simp only [init, Dict.get?_mapValues,
    Option.map_eq_some_iff] at found
  obtain ⟨spec, lookup, rfl⟩ := found
  exact nonnegative path (spec.capacity.getD 1)
    (by simp [Topology.capacity?, lookup])

theorem NonnegativeCapacity.applyReroute
    {state : TopologyState Score}
    (nonnegative : state.NonnegativeCapacity)
    (request : RerouteRequest Score) :
    (state.applyReroute request).1.NonnegativeCapacity := by
  intro path stored found
  rw [applyReroute_paths_get?] at found
  split at found
  · rename_i commits
    obtain ⟨before, lookup, rfl⟩ := Option.map_eq_some_iff.mp found
    have wasNonnegative := nonnegative path before lookup
    simp only [commitPath]
    split
    · rename_i isTarget
      obtain ⟨target, targetFound, spare⟩ := commits.spare
      rw [← isTarget, lookup] at targetFound
      cases targetFound
      omega
    · exact wasNonnegative
  · exact nonnegative path stored found

theorem NonnegativeCapacity.applyAll
    {state : TopologyState Score}
    (nonnegative : state.NonnegativeCapacity)
    (requests : List (RerouteRequest Score)) :
    (state.applyAll requests).NonnegativeCapacity :=
  applyAll_invariant NonnegativeCapacity
    (fun request holds => holds.applyReroute request)
    nonnegative requests

/-- A request moves at most its own link, and only onto its target path. -/
theorem applyReroute_moved_get?
    (state : TopologyState Score)
    (request : RerouteRequest Score)
    (link : String) :
    (state.applyReroute request).1.moved.get? link =
      if state.Commits request ∧ link = request.linkId then
        some request.toPath
      else state.moved.get? link := by
  by_cases commits : state.Commits request
  · rw [applyReroute_of_commits commits]
    simp [commit, Dict.get?_set, commits]
  · rw [applyReroute_of_not_commits commits]
    simp [commits]

/-- After an accepted request its link rides the target path. -/
theorem moved_of_accepted
    {state : TopologyState Score}
    {request : RerouteRequest Score}
    (accepted : (state.applyReroute request).2.accepted = true) :
    (state.applyReroute request).1.moved.get? request.linkId =
      some request.toPath := by
  rw [applyReroute_moved_get?]
  rcases applyReroute_accepted_iff.mp accepted with commits | repeats
  · simp [commits]
  · split
    · rfl
    · exact repeats.riding

/-- Only a full target stops a new move from a known path. -/
theorem full_of_not_commits
    {state : TopologyState Score}
    {request : RerouteRequest Score}
    (fromKnown : state.paths.contains request.fromPath = true)
    (notRiding : state.moved.get? request.linkId ≠ some request.toPath)
    (notCommits : ¬ state.Commits request) :
    state.Full request.toPath := by
  intro stored found
  by_contra spare
  exact notCommits
    ⟨fromKnown, notRiding, stored, found, not_le.mp spare⟩

/-- A rejected request between known paths met a full target. -/
theorem full_of_rejected
    {state : TopologyState Score}
    {request : RerouteRequest Score}
    (fromKnown : state.paths.contains request.fromPath = true)
    (toKnown : state.paths.contains request.toPath = true)
    (rejected : (state.applyReroute request).2.accepted = false) :
    state.Full request.toPath ∧
      state.moved.get? request.linkId ≠ some request.toPath := by
  have notAccepted :
      ¬ (state.Commits request ∨ state.Repeats request) := by
    rw [← applyReroute_accepted_iff, rejected]
    simp
  have notRiding :
      state.moved.get? request.linkId ≠ some request.toPath :=
    fun riding =>
      notAccepted (Or.inr ⟨fromKnown, toKnown, riding⟩)
  have notCommits : ¬ state.Commits request :=
    fun commits => notAccepted (Or.inl commits)
  exact ⟨full_of_not_commits fromKnown notRiding notCommits, notRiding⟩

/-- A link that rides its path keeps riding it while routes are fixed. -/
theorem moved_persists
    {state : TopologyState Score}
    {requests : List (RerouteRequest Score)}
    {link path : String}
    (route :
      ∀ request ∈ requests,
        request.linkId = link → request.toPath = path)
    (riding : state.moved.get? link = some path) :
    (state.applyAll requests).moved.get? link = some path := by
  induction requests generalizing state with
  | nil =>
      exact riding
  | cons request rest inductionHypothesis =>
      apply inductionHypothesis
      · intro next member
        exact route next (List.mem_cons_of_mem _ member)
      · rw [applyReroute_moved_get?]
        split
        · rename_i moves
          rw [route request (by simp) moves.2.symm]
        · exact riding

/-- A link whose path is full is never moved onto it. -/
theorem unmoved_persists
    {state : TopologyState Score}
    {requests : List (RerouteRequest Score)}
    {link path : String}
    (route :
      ∀ request ∈ requests,
        request.linkId = link → request.toPath = path)
    (full : state.Full path)
    (notRiding : state.moved.get? link ≠ some path) :
    (state.applyAll requests).moved.get? link ≠ some path := by
  induction requests generalizing state with
  | nil =>
      exact notRiding
  | cons request rest inductionHypothesis =>
      apply inductionHypothesis
      · intro next member
        exact route next (List.mem_cons_of_mem _ member)
      · exact full.applyReroute request
      · rw [applyReroute_moved_get?]
        split
        · rename_i moves
          obtain ⟨target, found, spare⟩ := moves.1.spare
          rw [route request (by simp) moves.2.symm] at found
          have noneLeft := full target found
          omega
        · exact notRiding

theorem FixedRoutes.tail
    {request : RerouteRequest Score}
    {rest : List (RerouteRequest Score)}
    (fixed : FixedRoutes (request :: rest)) :
    FixedRoutes rest :=
  fun first firstMember second secondMember =>
    fixed first (List.mem_cons_of_mem _ firstMember)
      second (List.mem_cons_of_mem _ secondMember)

/-- The head of a fixed run decides the route of its link. -/
theorem FixedRoutes.headRoute
    {request : RerouteRequest Score}
    {rest : List (RerouteRequest Score)}
    (fixed : FixedRoutes (request :: rest)) :
    ∀ next ∈ rest,
      next.linkId = request.linkId → next.toPath = request.toPath :=
  fun next member sameLink =>
    (fixed next (List.mem_cons_of_mem _ member)
      request (by simp) sameLink).2

theorem KnownPaths.tail
    {state : TopologyState Score}
    {request : RerouteRequest Score}
    {rest : List (RerouteRequest Score)}
    (known : state.KnownPaths (request :: rest)) :
    (state.applyReroute request).1.KnownPaths rest := by
  intro next member
  rw [applyReroute_contains, applyReroute_contains]
  exact known next (List.mem_cons_of_mem _ member)

theorem Agrees.tail
    {state : TopologyState Score}
    {request : RerouteRequest Score}
    {rest : List (RerouteRequest Score)}
    (fixed : FixedRoutes (request :: rest))
    (agrees : state.Agrees (request :: rest)) :
    (state.applyReroute request).1.Agrees rest := by
  intro next member path riding
  rw [applyReroute_moved_get?] at riding
  split at riding
  · rename_i moves
    cases riding
    exact (fixed.headRoute next member moves.2).symm
  · exact agrees next (List.mem_cons_of_mem _ member) path riding

/--
With fixed routes a request is accepted exactly when its link rides the target
path at the end of the run, and a link that does not was turned away from a
path that is full at the end of the run.
-/
theorem accepted_iff_moved
    {state : TopologyState Score}
    {requests : List (RerouteRequest Score)}
    (fixed : FixedRoutes requests)
    (known : state.KnownPaths requests)
    (agrees : state.Agrees requests) :
    ∀ answer ∈ responses state requests,
      (answer.2.accepted = true ↔
        (state.applyAll requests).moved.get? answer.1.linkId =
          some answer.1.toPath) ∧
      (answer.2.accepted = false →
        (state.applyAll requests).Full answer.1.toPath) := by
  induction requests generalizing state with
  | nil =>
      intro answer member
      simp [responses] at member
  | cons request rest inductionHypothesis =>
      intro answer member
      simp only [responses, List.mem_cons] at member
      rw [applyAll_cons]
      rcases member with isHead | inRest
      · subst answer
        have paths := known request (by simp)
        cases decision : (state.applyReroute request).2.accepted with
        | true =>
            have riding := moved_persists fixed.headRoute
              (moved_of_accepted decision)
            simp [riding]
        | false =>
            obtain ⟨full, notRiding⟩ :=
              full_of_rejected paths.1 paths.2 decision
            have fullLater := full.applyReroute request
            have stillNotRiding :
                (state.applyReroute request).1.moved.get?
                    request.linkId ≠ some request.toPath := by
              rw [applyReroute_moved_get?]
              split
              · rename_i moves
                obtain ⟨target, found, spare⟩ := moves.1.spare
                have noneLeft := full target found
                omega
              · exact notRiding
            have never := unmoved_persists fixed.headRoute
              fullLater stillNotRiding
            exact ⟨by simp [never], fun _ => fullLater.applyAll rest⟩
      · exact inductionHypothesis fixed.tail known.tail
          (agrees.tail fixed) answer inRest

/--
With fixed routes from known paths the link of every request ends up on its
target path, unless the target has no unit left.
-/
theorem moved_or_full
    {state : TopologyState Score}
    {requests : List (RerouteRequest Score)}
    (fixed : FixedRoutes requests)
    (fromKnown :
      ∀ request ∈ requests,
        state.paths.contains request.fromPath = true) :
    ∀ request ∈ requests,
      (state.applyAll requests).moved.get? request.linkId =
          some request.toPath ∨
        (state.applyAll requests).Full request.toPath := by
  induction requests generalizing state with
  | nil =>
      intro request member
      simp at member
  | cons request rest inductionHypothesis =>
      intro asked member
      rw [applyAll_cons]
      rcases List.mem_cons.mp member with isHead | inRest
      · subst asked
        by_cases accepted :
            (state.applyReroute request).2.accepted = true
        · exact Or.inl (moved_persists fixed.headRoute
            (moved_of_accepted accepted))
        · rw [applyReroute_accepted_iff, not_or] at accepted
          by_cases riding :
              state.moved.get? request.linkId = some request.toPath
          · -- Rides it already, although the path is not listed.
            left
            apply moved_persists fixed.headRoute
            rw [applyReroute_of_not_commits accepted.1, riding]
          · have full := full_of_not_commits
              (fromKnown request (by simp)) riding accepted.1
            exact Or.inr ((full.applyReroute request).applyAll rest)
      · apply inductionHypothesis fixed.tail _ asked inRest
        intro next nextMember
        rw [applyReroute_contains]
        exact fromKnown next (List.mem_cons_of_mem _ nextMember)

/-- Every moved link was asked to move there by the run. -/
theorem moved_requested
    {state : TopologyState Score}
    {requests : List (RerouteRequest Score)}
    {link path : String}
    (riding :
      (state.applyAll requests).moved.get? link = some path) :
    state.moved.get? link = some path ∨
      ∃ request ∈ requests,
        request.linkId = link ∧ request.toPath = path := by
  induction requests generalizing state with
  | nil =>
      exact Or.inl riding
  | cons request rest inductionHypothesis =>
      rcases inductionHypothesis riding with earlier | later
      · rw [applyReroute_moved_get?] at earlier
        split at earlier
        · rename_i moves
          cases earlier
          exact Or.inr ⟨request, by simp, moves.2.symm, rfl⟩
        · exact Or.inl earlier
      · obtain ⟨next, member, sameLink, samePath⟩ := later
        exact Or.inr ⟨next, List.mem_cons_of_mem _ member,
          sameLink, samePath⟩

/-- With fixed routes no commit moves a link a second time. -/
theorem neverRelocates_of_fixedRoutes
    (topology : Topology)
    {requests : List (RerouteRequest Score)}
    (fixed : FixedRoutes requests) :
    (init topology).NeverRelocates requests := by
  intro before request after shape commits
  cases riding :
      ((init topology).applyAll before).moved.get? request.linkId with
  | none =>
      rfl
  | some path =>
      rcases moved_requested riding with atStart | asked
      · simp [init] at atStart
      · obtain ⟨earlier, member, sameLink, samePath⟩ := asked
        have sameRoute := fixed earlier (by simp [shape, member])
          request (by simp [shape]) sameLink
        have repeated :
            ((init topology).applyAll before).moved.get?
                request.linkId = some request.toPath := by
          rw [riding, ← samePath, sameRoute.2]
        exact (commits.notRiding repeated).elim

/-- The accepted records list the moved links in the order they moved. -/
def Recorded (state : TopologyState Score) : Prop :=
  state.reroutes.map (fun record => record.linkId) = state.moved.keys

/-- A commit of a link that has not moved yet extends both lists. -/
theorem Recorded.applyReroute
    {state : TopologyState Score}
    (recorded : state.Recorded)
    {request : RerouteRequest Score}
    (firstMove :
      state.Commits request →
        state.moved.get? request.linkId = none) :
    (state.applyReroute request).1.Recorded := by
  by_cases commits : state.Commits request
  · have absent := firstMove commits
    rw [applyReroute_of_commits commits]
    simp only [Recorded, commit, Dict.keys, List.map_append,
      Dict.entries_set_of_absent absent]
    rw [recorded]
    rfl
  · rw [applyReroute_of_not_commits commits]
    exact recorded

theorem Recorded.applyAll
    {state : TopologyState Score}
    (recorded : state.Recorded)
    {requests : List (RerouteRequest Score)}
    (never : state.NeverRelocates requests) :
    (state.applyAll requests).Recorded := by
  induction requests generalizing state with
  | nil =>
      exact recorded
  | cons request rest inductionHypothesis =>
      rw [applyAll_cons]
      apply inductionHypothesis
      · exact recorded.applyReroute (never [] request rest rfl)
      · intro before next after shape
        exact never (request :: before) next after
          (by rw [shape, List.cons_append])

/-- The distinct links accepted onto a path. -/
def acceptedLinks
    (answers : List (RerouteRequest Score × RerouteResponse))
    (path : String) : Finset String :=
  ((answers.filter fun answer =>
      answer.2.accepted && decide (answer.1.toPath = path)).map
    fun answer => answer.1.linkId).toFinset

/-- The distinct links asking for a path. -/
def requestingLinks
    (requests : List (RerouteRequest Score))
    (path : String) : Finset String :=
  ((requests.filter fun request => request.toPath = path).map
    fun request => request.linkId).toFinset

/-- The links that ride a path. -/
def ridingLinks
    (state : TopologyState Score)
    (path : String) : Finset String :=
  ((state.moved.entries.filter fun entry => entry.2 = path).map
    Prod.fst).toFinset

theorem mem_ridingLinks
    {state : TopologyState Score}
    {path link : String} :
    link ∈ state.ridingLinks path ↔
      state.moved.get? link = some path := by
  simp [ridingLinks, Dict.get?_eq_some_iff]

/-- A path has as many riders as links that ride it. -/
theorem card_ridingLinks
    (state : TopologyState Score)
    (path : String) :
    (state.ridingLinks path).card = state.riders path := by
  have distinct :
      ((state.moved.entries.filter fun entry => entry.2 = path).map
        Prod.fst).Nodup :=
    state.moved.keysNodup.sublist (List.filter_sublist.map Prod.fst)
  rw [ridingLinks, List.toFinset_card_of_nodup distinct,
    List.length_map, riders, Dict.valueCount,
    List.countP_eq_length_filter]

theorem mem_requestingLinks
    {requests : List (RerouteRequest Score)}
    {path link : String} :
    link ∈ requestingLinks requests path ↔
      ∃ request ∈ requests,
        request.toPath = path ∧ request.linkId = link := by
  simp [requestingLinks, and_assoc]

theorem mem_acceptedLinks
    {answers : List (RerouteRequest Score × RerouteResponse)}
    {path link : String} :
    link ∈ acceptedLinks answers path ↔
      ∃ answer ∈ answers,
        answer.2.accepted = true ∧ answer.1.toPath = path ∧
          answer.1.linkId = link := by
  simp only [acceptedLinks, List.mem_toFinset, List.mem_map,
    List.mem_filter, Bool.and_eq_true, decide_eq_true_eq]
  constructor
  · rintro ⟨answer, ⟨member, accepted, target⟩, same⟩
    exact ⟨answer, member, accepted, target, same⟩
  · rintro ⟨answer, member, accepted, target, same⟩
    exact ⟨answer, ⟨member, accepted, target⟩, same⟩

/-- A request of the run has an answer in it. -/
theorem exists_answer
    {state : TopologyState Score}
    {requests : List (RerouteRequest Score)}
    {request : RerouteRequest Score}
    (member : request ∈ requests) :
    ∃ response, (request, response) ∈ responses state requests := by
  rw [← map_fst_responses state requests] at member
  obtain ⟨answer, answerMember, rfl⟩ := List.mem_map.mp member
  exact ⟨answer.2, answerMember⟩

section FreshRun

/-! Runs of fixed routes between known paths from a fresh state. -/

variable
  {topology : Topology}
  {requests : List (RerouteRequest Score)}

theorem agrees_init :
    (init topology : TopologyState Score).Agrees requests := by
  intro request _ path riding
  simp [init] at riding

/-- The links accepted onto a path are the links that ride it at the end. -/
theorem acceptedLinks_eq_ridingLinks
    (fixed : FixedRoutes requests)
    (known : (init topology).KnownPaths requests)
    (path : String) :
    acceptedLinks (responses (init topology) requests) path =
      ((init topology).applyAll requests).ridingLinks path := by
  ext link
  rw [mem_acceptedLinks, mem_ridingLinks]
  constructor
  · rintro ⟨answer, member, accepted, rfl, rfl⟩
    exact (accepted_iff_moved fixed known agrees_init
      answer member).1.mp accepted
  · intro riding
    rcases moved_requested riding with atStart | asked
    · simp [init] at atStart
    · obtain ⟨request, member, rfl, rfl⟩ := asked
      obtain ⟨response, answered⟩ :
          ∃ response,
            (request, response) ∈ responses (init topology) requests :=
        exists_answer member
      exact ⟨(request, response), answered,
        (accepted_iff_moved fixed known agrees_init
          (request, response) answered).1.mpr riding,
        rfl, rfl⟩

/-- Accepted links asked for their path. -/
theorem ridingLinks_subset_requestingLinks
    (path : String) :
    ((init topology).applyAll requests).ridingLinks path ⊆
      requestingLinks requests path := by
  intro link riding
  rw [mem_ridingLinks] at riding
  rw [mem_requestingLinks]
  rcases moved_requested riding with atStart | asked
  · simp [init] at atStart
  · obtain ⟨request, member, sameLink, samePath⟩ := asked
    exact ⟨request, member, samePath, sameLink⟩

/-- The stored state of a path after the run, in terms of its riders. -/
theorem stored_of_capacity?
    (fixed : FixedRoutes requests)
    {path : String}
    {initial : Int}
    (configured : topology.capacity? path = some initial) :
    ∃ stored,
      ((init topology).applyAll requests).paths.get? path =
          some stored ∧
        stored.capacity =
          initial -
            (((init topology).applyAll requests).ridingLinks
              path).card := by
  have total :
      (((init topology).applyAll requests).paths.get? path).map
          PathState.capacityTotal = some initial := by
    rw [applyAll_capacityTotal, ← configured]
    simp [init, Topology.capacity?, Function.comp_def,
      PathState.ofSpec]
  obtain ⟨stored, found, isTotal⟩ := Option.map_eq_some_iff.mp total
  have balance :=
    (capacityMatches_iff_neverRelocates topology requests).mpr
      (neverRelocates_of_fixedRoutes topology fixed)
      path stored found
  refine ⟨stored, found, ?_⟩
  rw [card_ridingLinks]
  omega

/-- As many links ride a path as asked for it and fit on it. -/
theorem card_ridingLinks_eq_min
    (nonnegative : topology.NonnegativeCapacities)
    (fixed : FixedRoutes requests)
    (known : (init topology).KnownPaths requests)
    {path : String}
    {initial : Int}
    (configured : topology.capacity? path = some initial) :
    ((((init topology).applyAll requests).ridingLinks path).card : Int) =
      min initial (requestingLinks requests path).card := by
  obtain ⟨stored, found, remaining⟩ :=
    stored_of_capacity? fixed configured
  have withinTotal : 0 ≤ stored.capacity :=
    (nonnegativeCapacity_init nonnegative).applyAll requests
      path stored found
  have subset :
      ((init topology).applyAll requests).ridingLinks path ⊆
        requestingLinks requests path :=
    ridingLinks_subset_requestingLinks path
  have atMostAsked := Finset.card_le_card subset
  by_cases everyone :
      requestingLinks requests path ⊆
        ((init topology).applyAll requests).ridingLinks path
  · have asMany := Finset.card_le_card everyone
    omega
  · -- Someone was turned away, so the path is full.
    obtain ⟨link, asked, notRiding⟩ :=
      Finset.not_subset.mp everyone
    obtain ⟨request, member, rfl, rfl⟩ := mem_requestingLinks.mp asked
    obtain ⟨response, answered⟩ :
        ∃ response,
          (request, response) ∈ responses (init topology) requests :=
      exists_answer member
    have decision := accepted_iff_moved fixed known agrees_init
      (request, response) answered
    have rejected : response.accepted = false := by
      rw [mem_ridingLinks, ← decision.1] at notRiding
      simpa using notRiding
    have full := decision.2 rejected stored found
    omega

end FreshRun

/-- What the answers and the final state of one delivery order look like. -/
structure HarmlessDelivery
    (topology : Topology)
    (requests : List (RerouteRequest Score)) : Prop where
  /-- All copies of one link's request get the same answer. -/
  sameAnswer :
    ∀ first ∈ responses (init topology) requests,
      ∀ second ∈ responses (init topology) requests,
        first.1.linkId = second.1.linkId →
        first.2.accepted = second.2.accepted
  /-- The number of links accepted onto a path. -/
  acceptedCount :
    ∀ path initial,
      topology.capacity? path = some initial →
      ((acceptedLinks (responses (init topology) requests)
          path).card : Int) =
        min initial (requestingLinks requests path).card
  /-- The capacity the path ends with. -/
  finalCapacity :
    ∀ path initial,
      topology.capacity? path = some initial →
      ∃ stored,
        ((init topology).applyAll requests).paths.get? path =
            some stored ∧
          stored.capacity =
            initial -
              (acceptedLinks (responses (init topology) requests)
                path).card
  /-- No link is recorded twice. -/
  recordsNodup :
    (((init topology).applyAll requests).reroutes.map
      fun record => record.linkId).Nodup
  /-- The recorded links are the accepted ones. -/
  recordedIffAccepted :
    ∀ link,
      link ∈ ((init topology).applyAll requests).reroutes.map
          (fun record => record.linkId) ↔
        ∃ answer ∈ responses (init topology) requests,
          answer.1.linkId = link ∧ answer.2.accepted = true

/--
Whatever the order and the number of copies, fixed moves between known paths
are allocated the same way: same answers for all copies, as many links as fit,
and one record for each accepted link.
-/
theorem duplicate_delivery_is_harmless
    (topology : Topology)
    (calls : List (RerouteCall Score))
    (nonnegative : topology.NonnegativeCapacities)
    (fixed : FixedRoutes (calls.map RerouteCall.request))
    (known :
      (init topology : TopologyState Score).KnownPaths
        (calls.map RerouteCall.request)) :
    HarmlessDelivery topology (calls.map RerouteCall.parsed) := by
  have parsedFixed : FixedRoutes (calls.map RerouteCall.parsed) := by
    simpa [FixedRoutes] using fixed
  have parsedKnown :
      (init topology : TopologyState Score).KnownPaths
        (calls.map RerouteCall.parsed) := by
    simpa [KnownPaths] using known
  have decided :=
    accepted_iff_moved parsedFixed parsedKnown agrees_init
  have recorded :
      ((init topology).applyAll
        (calls.map RerouteCall.parsed)).Recorded :=
    Recorded.applyAll (by simp [Recorded, init, Dict.keys, Dict.empty])
      (neverRelocates_of_fixedRoutes topology parsedFixed)
  refine {
    sameAnswer := ?_
    acceptedCount := ?_
    finalCapacity := ?_
    recordsNodup := ?_
    recordedIffAccepted := ?_
  }
  · intro first firstMember second secondMember sameLink
    have asked :
        ∀ answer ∈ responses (init topology)
            (calls.map RerouteCall.parsed),
          answer.1 ∈ calls.map RerouteCall.parsed := by
      intro answer member
      have mapped := List.mem_map_of_mem (f := Prod.fst) member
      rwa [map_fst_responses] at mapped
    have samePath :=
      (parsedFixed first.1 (asked first firstMember)
        second.1 (asked second secondMember) sameLink).2
    rw [Bool.eq_iff_iff, (decided first firstMember).1,
      (decided second secondMember).1, sameLink, samePath]
  · intro path initial configured
    rw [acceptedLinks_eq_ridingLinks parsedFixed parsedKnown]
    exact card_ridingLinks_eq_min nonnegative parsedFixed
      parsedKnown configured
  · intro path initial configured
    rw [acceptedLinks_eq_ridingLinks parsedFixed parsedKnown]
    exact stored_of_capacity? parsedFixed configured
  · rw [recorded]
    exact ((init topology).applyAll
      (calls.map RerouteCall.parsed)).moved.keysNodup
  · intro link
    rw [recorded, Dict.mem_keys_iff]
    constructor
    · rintro ⟨path, riding⟩
      have accepted :
          link ∈ acceptedLinks
            (responses (init topology)
              (calls.map RerouteCall.parsed)) path := by
        rw [acceptedLinks_eq_ridingLinks parsedFixed parsedKnown,
          mem_ridingLinks]
        exact riding
      obtain ⟨answer, member, isAccepted, _, sameLink⟩ :=
        mem_acceptedLinks.mp accepted
      exact ⟨answer, member, sameLink, isAccepted⟩
    · rintro ⟨answer, member, rfl, isAccepted⟩
      exact ⟨answer.1.toPath,
        (decided answer member).1.mp isAccepted⟩

/-- REST and gRPC copies of the requests for `L1` and `L3`, interleaved. -/
def competingCalls : List (RerouteCall Nat) :=
  let request (link path : String) : RerouteRequest Nat := {
    fromPath := path, toPath := "P_prot_L2", linkId := link
    reason := "", pFail10m := 1, sIf := 1, sAe := 1
    horizonS := 600, tsUnixMs := 1 }
  [⟨.rest, request "L1" "P_work_L1"⟩,
    ⟨.rest, request "L3" "P_work_L3"⟩,
    ⟨.grpc, request "L1" "P_work_L1"⟩,
    ⟨.grpc, request "L3" "P_work_L3"⟩]

/-- Two links compete for one unit, each with a REST and a gRPC copy. -/
theorem duplicate_delivery_is_harmless_competing :
    HarmlessDelivery Topology.config
      (competingCalls.map RerouteCall.parsed) :=
  duplicate_delivery_is_harmless Topology.config competingCalls
    Topology.config_nonnegativeCapacities
    (by unfold FixedRoutes; decide)
    (by unfold KnownPaths; decide)

end TopologyState

end OpticsSoftfail
