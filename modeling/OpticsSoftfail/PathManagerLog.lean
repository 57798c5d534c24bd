import Mathlib.Data.List.Perm.Basic
import OpticsSoftfail.PathManagerLedger
import OpticsSoftfail.Transition

namespace OpticsSoftfail

namespace RerouteLog

/-!
# The reroute log file under concurrent requests

The REST and the gRPC front end call `apply_reroute` from thread pools.  A call
takes its decision under the lock; an accepted one appends its record to the
log file only after the lock is released.  Each of the two is one atomic step
here, and the calls take their steps in any order.

The file and the memory agree on the records but not on their order: two calls
may write in the opposite order of their commits.  The order agrees again
whenever no record stands between its commit and its write.
-/

/-- How far a call of `apply_reroute` has come. -/
inductive Stage (Score : Type) where
  | waiting
  /-- Committed and out of the lock, the file not yet written. -/
  | appending (record : RerouteRecord Score)
  | finished (response : RerouteResponse)
  deriving Repr, DecidableEq

/-- The record a call still has to write. -/
def Stage.record? {Score : Type} :
    Stage Score → Option (RerouteRecord Score)
  | .appending record => some record
  | _ => none

/-- The call has returned. -/
def Stage.isFinished {Score : Type} : Stage Score → Bool
  | .finished _ => true
  | _ => false

/-- A request in one of the pools. -/
structure PooledCall (Score : Type) where
  call : RerouteCall Score
  stage : Stage Score
  deriving Repr, DecidableEq

/-- The shared state, what this process has written, and the calls. -/
structure State (Score : Type) where
  topology : TopologyState Score
  file : List (RerouteRecord Score)
  calls : List (PooledCall Score)
  deriving Repr, DecidableEq

/-- One atomic step of the call at an index. -/
inductive Event where
  /-- The locked section. -/
  | locked (index : Nat)
  /-- `_append_log` writes the record. -/
  | appended (index : Nat)
  /-- `_append_log` catches an `OSError`. -/
  | appendFailed (index : Nat)
  deriving Repr, DecidableEq

/-- The step is a failed write. -/
def Event.writeFails : Event → Bool
  | .appendFailed _ => true
  | _ => false

variable {Score : Type}

/-- A fresh path manager, the requests all waiting. -/
def start
    (topology : Topology)
    (calls : List (RerouteCall Score)) : State Score where
  topology := TopologyState.init topology
  file := []
  calls := calls.map fun call => { call := call, stage := .waiting }

namespace State

/-- Put the call at an index into another stage. -/
def setStage
    (state : State Score)
    (index : Nat)
    (pooled : PooledCall Score)
    (stage : Stage Score) : State Score :=
  { state with
    calls := state.calls.set index { pooled with stage := stage } }

/-- The records between their commit and their write. -/
def pending (state : State Score) : List (RerouteRecord Score) :=
  state.calls.filterMap fun pooled => pooled.stage.record?

/-- Every call has returned. -/
def AllFinished (state : State Score) : Prop :=
  ∀ pooled ∈ state.calls, pooled.stage.isFinished = true

end State

/-- Perform one atomic step, if the call it belongs to has reached it. -/
def step? (state : State Score) : Event → Option (State Score)
  | .locked index =>
      match state.calls[index]? with
      | some pooled =>
          match pooled.stage with
          | .waiting =>
              let locked := state.topology.applyLocked pooled.call.parsed
              let entered := { state with topology := locked.1 }
              match locked.2 with
              | .answered response =>
                  some (entered.setStage index pooled (.finished response))
              | .committed record =>
                  some (entered.setStage index pooled (.appending record))
          | _ => none
      | none => none
  | .appended index =>
      match state.calls[index]? with
      | some pooled =>
          match pooled.stage with
          | .appending record =>
              some ({ state with file := state.file ++ [record] }.setStage
                index pooled
                (.finished
                  (TopologyState.LockedOutcome.response
                    (.committed record))))
          | _ => none
      | none => none
  | .appendFailed index =>
      match state.calls[index]? with
      | some pooled =>
          match pooled.stage with
          | .appending record =>
              some (state.setStage index pooled
                (.finished
                  (TopologyState.LockedOutcome.response
                    (.committed record))))
          | _ => none
      | none => none

/-- What one step can do. -/
inductive StepShape (state : State Score) : Event → State Score → Prop where
  /-- The locked section answers and leaves the topology alone. -/
  | answered
      (index : Nat)
      (pooled : PooledCall Score)
      (found : state.calls[index]? = some pooled)
      (waiting : pooled.stage = .waiting)
      (response : RerouteResponse) :
      StepShape state (.locked index)
        (state.setStage index pooled (.finished response))
  /-- The locked section commits. -/
  | commits
      (index : Nat)
      (pooled : PooledCall Score)
      (found : state.calls[index]? = some pooled)
      (waiting : pooled.stage = .waiting)
      (commits : state.topology.Commits pooled.call.parsed) :
      StepShape state (.locked index)
        ({ state with
            topology := state.topology.commit pooled.call.parsed }.setStage
          index pooled
          (.appending { pooled.call.parsed with accepted := true }))
  /-- The record reaches the file. -/
  | appended
      (index : Nat)
      (pooled : PooledCall Score)
      (record : RerouteRecord Score)
      (found : state.calls[index]? = some pooled)
      (due : pooled.stage = .appending record)
      (response : RerouteResponse) :
      StepShape state (.appended index)
        ({ state with file := state.file ++ [record] }.setStage
          index pooled (.finished response))
  /-- The record is lost. -/
  | appendFailed
      (index : Nat)
      (pooled : PooledCall Score)
      (record : RerouteRecord Score)
      (found : state.calls[index]? = some pooled)
      (due : pooled.stage = .appending record)
      (response : RerouteResponse) :
      StepShape state (.appendFailed index)
        (state.setStage index pooled (.finished response))

/-- Every accepted step has one of the four shapes. -/
theorem step?_shape
    {state next : State Score}
    {event : Event}
    (stepped : step? state event = some next) :
    StepShape state event next := by
  cases event with
  | locked index =>
      simp only [step?] at stepped
      split at stepped
      · rename_i pooled found
        split at stepped
        · rename_i waiting
          rcases state.topology.applyLocked_cases pooled.call.parsed with
            ⟨commits, committed⟩ | ⟨_, response, _, answered⟩ |
              ⟨_, _, response, _, answered⟩
          · rw [committed] at stepped
            cases stepped
            exact .commits index pooled found waiting commits
          · rw [answered] at stepped
            cases stepped
            exact .answered index pooled found waiting response
          · rw [answered] at stepped
            cases stepped
            exact .answered index pooled found waiting response
        · cases stepped
      · cases stepped
  | appended index =>
      simp only [step?] at stepped
      split at stepped
      · rename_i pooled found
        split at stepped
        · rename_i record due
          cases stepped
          exact .appended index pooled record found due _
        · cases stepped
      · cases stepped
  | appendFailed index =>
      simp only [step?] at stepped
      split at stepped
      · rename_i pooled found
        split at stepped
        · rename_i record due
          cases stepped
          exact .appendFailed index pooled record found due _
        · cases stepped
      · cases stepped

/-- Replacing one item exchanges what it contributes to a `filterMap`. -/
theorem filterMap_set_perm
    {Item Image : Type}
    (image? : Item → Option Image)
    {items : List Item}
    {index : Nat}
    {old : Item}
    (found : items[index]? = some old)
    (new : Item) :
    ((image? old).toList ++
        (items.set index new).filterMap image?).Perm
      ((image? new).toList ++ items.filterMap image?) := by
  obtain ⟨inRange, isOld⟩ := List.getElem?_eq_some_iff.mp found
  have before := (List.getElem_cons_eraseIdx_perm inRange).filterMap image?
  have after := (List.set_perm_cons_eraseIdx inRange new).filterMap image?
  have headFirst :
      ∀ item rest,
        List.filterMap image? (item :: rest) =
          (image? item).toList ++ List.filterMap image? rest := by
    intro item rest
    cases imaged : image? item with
    | none =>
        simp [imaged]
    | some image =>
        simp [imaged]
  rw [isOld, headFirst] at before
  rw [headFirst] at after
  generalize List.filterMap image? (items.eraseIdx index) = others at *
  calc
    ((image? old).toList ++ (items.set index new).filterMap image?).Perm
        ((image? old).toList ++ ((image? new).toList ++ others)) :=
      after.append_left _
    List.Perm _ ((image? new).toList ++ ((image? old).toList ++ others)) :=
      List.perm_append_comm_assoc _ _ _
    List.Perm _ ((image? new).toList ++ items.filterMap image?) :=
      before.append_left _

/-- A call in another stage exchanges its record among the pending ones. -/
theorem pending_setStage_perm
    {state : State Score}
    {index : Nat}
    {pooled : PooledCall Score}
    (found : state.calls[index]? = some pooled)
    (stage : Stage Score) :
    (pooled.stage.record?.toList ++
        (state.setStage index pooled stage).pending).Perm
      (stage.record?.toList ++ state.pending) :=
  filterMap_set_perm (fun pooled => pooled.stage.record?) found
    { pooled with stage := stage }

/-- Nothing is pending once every call has returned. -/
theorem pending_of_allFinished
    {state : State Score}
    (finished : state.AllFinished) :
    state.pending = [] := by
  rw [State.pending, List.filterMap_eq_nil_iff]
  intro pooled member
  have hasReturned := finished pooled member
  cases stage : pooled.stage with
  | waiting =>
      rfl
  | appending record =>
      simp [stage, Stage.isFinished] at hasReturned
  | finished response =>
      rfl

theorem pending_start
    (topology : Topology)
    (calls : List (RerouteCall Score)) :
    (start topology calls).pending = [] := by
  simp [start, State.pending, Stage.record?, List.filterMap_map]

/--
What was committed and written since an earlier moment: the records written and
those still pending are the records committed.
-/
def WrittenSince (origin state : State Score) : Prop :=
  ∃ committed written,
    state.topology.reroutes = origin.topology.reroutes ++ committed ∧
      state.file = origin.file ++ written ∧
      (written ++ state.pending).Perm committed

theorem writtenSince_self
    {state : State Score}
    (settled : state.pending = []) :
    WrittenSince state state :=
  ⟨[], [], by simp, by simp, by simp [settled]⟩

/-- A step that loses no record keeps the account of the records. -/
theorem WrittenSince.step
    {origin state next : State Score}
    {event : Event}
    (since : WrittenSince origin state)
    (succeeds : event.writeFails = false)
    (stepped : step? state event = some next) :
    WrittenSince origin next := by
  obtain ⟨committed, written, inMemory, inFile, same⟩ := since
  cases step?_shape stepped with
  | answered index pooled found waiting response =>
      have exchanged :=
        pending_setStage_perm found (.finished response)
      simp only [waiting, Stage.record?, Option.toList_none,
        List.nil_append] at exchanged
      exact ⟨committed, written, inMemory, inFile,
        (exchanged.append_left written).trans same⟩
  | commits index pooled found waiting commits =>
      let record : RerouteRecord Score :=
        { pooled.call.parsed with accepted := true }
      have exchanged := pending_setStage_perm found (.appending record)
      simp only [waiting, Stage.record?, Option.toList_none,
        Option.toList_some, List.nil_append] at exchanged
      refine ⟨committed ++ [record], written, ?_, inFile, ?_⟩
      · simp [State.setStage, TopologyState.commit, inMemory, record]
      · calc
          (written ++ (state.setStage index pooled
              (.appending record)).pending).Perm
              (written ++ ([record] ++ state.pending)) :=
            exchanged.append_left written
          List.Perm _ ([record] ++ (written ++ state.pending)) :=
            List.perm_append_comm_assoc _ _ _
          List.Perm _ ([record] ++ committed) :=
            same.append_left [record]
          List.Perm _ (committed ++ [record]) :=
            List.perm_append_comm
  | appended index pooled record found due response =>
      have exchanged :=
        pending_setStage_perm found (.finished response)
      simp only [due, Stage.record?, Option.toList_none,
        Option.toList_some, List.nil_append] at exchanged
      refine ⟨committed, written ++ [record], inMemory, ?_, ?_⟩
      · simp [State.setStage, inFile]
      · calc
          (written ++ [record] ++ (state.setStage index pooled
              (.finished response)).pending).Perm
              (written ++ ([record] ++ (state.setStage index pooled
                (.finished response)).pending)) := by
            rw [List.append_assoc]
          List.Perm _ (written ++ state.pending) :=
            exchanged.append_left written
          List.Perm _ committed := same
  | appendFailed index pooled record found due response =>
      simp [Event.writeFails] at succeeds

/-- The step does not commit while another record is pending. -/
def CommitsAlone (state : State Score) : Event → Prop
  | .locked index =>
      ∀ pooled,
        state.calls[index]? = some pooled →
        state.topology.Commits pooled.call.parsed →
        state.pending = []
  | _ => True

/-- The file lags at most one record behind the memory. -/
structure Follows (state : State Score) : Prop where
  inOrder : state.file ++ state.pending = state.topology.reroutes
  atMostOne : state.pending.length ≤ 1

theorem follows_start
    (topology : Topology)
    (calls : List (RerouteCall Score)) :
    Follows (start topology calls) where
  inOrder := by
    rw [pending_start]
    rfl
  atMostOne := by
    simp [pending_start]

/-- A list of at most one item has no other order. -/
theorem eq_of_perm_of_atMostOne
    {Item : Type}
    {left right : List Item}
    (same : left.Perm right)
    (atMostOne : right.length ≤ 1) :
    left = right := by
  match right with
  | [] =>
      exact same.eq_nil
  | [item] =>
      exact List.perm_singleton.mp same
  | _ :: _ :: _ =>
      simp at atMostOne

/-- Commits that happen alone keep the file in the order of the memory. -/
theorem Follows.step
    {state next : State Score}
    {event : Event}
    (follows : Follows state)
    (succeeds : event.writeFails = false)
    (alone : CommitsAlone state event)
    (stepped : step? state event = some next) :
    Follows next := by
  cases step?_shape stepped with
  | answered index pooled found waiting response =>
      have exchanged :=
        pending_setStage_perm found (.finished response)
      simp only [waiting, Stage.record?, Option.toList_none,
        List.nil_append] at exchanged
      have unchanged :=
        eq_of_perm_of_atMostOne exchanged follows.atMostOne
      constructor
      · rw [unchanged]
        exact follows.inOrder
      · rw [unchanged]
        exact follows.atMostOne
  | commits index pooled found waiting commits =>
      have settled : state.pending = [] := alone pooled found commits
      let record : RerouteRecord Score :=
        { pooled.call.parsed with accepted := true }
      have exchanged := pending_setStage_perm found (.appending record)
      simp only [waiting, Stage.record?, Option.toList_none,
        Option.toList_some, List.nil_append, settled,
        List.append_nil] at exchanged
      have nowPending := List.perm_singleton.mp exchanged
      have upToDate := follows.inOrder
      rw [settled, List.append_nil] at upToDate
      constructor
      · calc
          state.file ++ (state.setStage index pooled
              (.appending record)).pending =
              state.topology.reroutes ++ [record] := by
            rw [nowPending, upToDate]
          _ = (state.topology.commit pooled.call.parsed).reroutes := rfl
      · exact le_of_eq (congrArg List.length nowPending)
  | appended index pooled record found due response =>
      have exchanged :=
        pending_setStage_perm found (.finished response)
      simp only [due, Stage.record?, Option.toList_none,
        Option.toList_some, List.nil_append] at exchanged
      have wasPending :=
        eq_of_perm_of_atMostOne exchanged follows.atMostOne
      have nonePending :
          (state.setStage index pooled
            (.finished response)).pending = [] := by
        have counted := follows.atMostOne
        rw [← wasPending, List.length_append, List.length_singleton]
          at counted
        exact List.length_eq_zero_iff.mp (by omega)
      have inOrder := follows.inOrder
      rw [← wasPending, nonePending, List.append_nil] at inOrder
      constructor
      · calc
          state.file ++ [record] ++ (state.setStage index pooled
              (.finished response)).pending =
              state.file ++ [record] := by
            rw [nonePending, List.append_nil]
          _ = state.topology.reroutes := inOrder
      · exact le_of_eq_of_le (congrArg List.length nonePending)
          (Nat.zero_le 1)
  | appendFailed index pooled record found due response =>
      simp [Event.writeFails] at succeeds

/-- The account of the records over a whole run. -/
theorem WrittenSince.run
    {origin state final : State Score}
    {events : List Event}
    (since : WrittenSince origin state)
    (succeeded : ∀ event ∈ events, event.writeFails = false)
    (accepted : Transition.run? step? state events = some final) :
    WrittenSince origin final :=
  Transition.run?_invariant_of_allSteps
    (fun held succeeds stepped => held.step succeeds stepped) since
    (Transition.allSteps_of_forall_mem
      (fun event member _ => succeeded event member) state)
    accepted

/-- Every state of the shared topology is one that some serial run reaches. -/
theorem topology_serial
    {topology : Topology}
    {calls : List (RerouteCall Score)}
    {events : List Event}
    {final : State Score}
    (accepted :
      Transition.run? step? (start topology calls) events = some final) :
    ∃ requests,
      final.topology = (TopologyState.init topology).applyAll requests := by
  have preserved :
      ∀ {state : State Score} {event : Event} {next : State Score},
        (∃ requests,
          state.topology =
            (TopologyState.init topology).applyAll requests) →
        step? state event = some next →
        ∃ requests,
          next.topology =
            (TopologyState.init topology).applyAll requests := by
    rintro state event next ⟨requests, reached⟩ stepped
    cases step?_shape stepped with
    | answered =>
        exact ⟨requests, reached⟩
    | commits index pooled found waiting commits =>
        refine ⟨requests ++ [pooled.call.parsed], ?_⟩
        rw [TopologyState.applyAll_append, ← reached,
          TopologyState.applyAll_cons, TopologyState.applyAll_nil,
          TopologyState.applyReroute_of_commits commits]
        rfl
    | appended =>
        exact ⟨requests, reached⟩
    | appendFailed =>
        exact ⟨requests, reached⟩
  exact Transition.run?_invariant preserved ⟨[], rfl⟩ accepted

/-- How the file of a finished run compares with the memory. -/
structure FileAgrees
    (topology : Topology)
    (calls : List (RerouteCall Score))
    (events : List Event)
    (final : State Score) : Prop where
  /-- Every record is in both, as often in one as in the other. -/
  sameRecords : final.file.Perm final.topology.reroutes
  /-- What is in both at a moment with nothing pending comes first in both. -/
  settledFirst :
    ∀ before after middle,
      events = before ++ after →
      Transition.run? step? (start topology calls) before = some middle →
      middle.pending = [] →
      middle.file.Perm middle.topology.reroutes ∧
        ∃ committed written,
          final.topology.reroutes =
              middle.topology.reroutes ++ committed ∧
            final.file = middle.file ++ written ∧
            written.Perm committed
  /-- Without overlapping commits and writes the order is the same. -/
  aloneInOrder :
    Transition.AllSteps step? CommitsAlone (start topology calls) events →
    final.file = final.topology.reroutes

/-- Two settled moments of a run account for what lies between them. -/
theorem WrittenSince.of_settled
    {origin final : State Score}
    (since : WrittenSince origin final)
    (settled : final.pending = []) :
    ∃ committed written,
      final.topology.reroutes = origin.topology.reroutes ++ committed ∧
        final.file = origin.file ++ written ∧
        written.Perm committed := by
  obtain ⟨committed, written, inMemory, inFile, same⟩ := since
  rw [settled, List.append_nil] at same
  exact ⟨committed, written, inMemory, inFile, same⟩

/-- From the start to a settled moment, file and memory hold the same. -/
theorem file_perm_of_settled
    {topology : Topology}
    {calls : List (RerouteCall Score)}
    {events : List Event}
    {final : State Score}
    (accepted :
      Transition.run? step? (start topology calls) events = some final)
    (succeeded : ∀ event ∈ events, event.writeFails = false)
    (settled : final.pending = []) :
    final.file.Perm final.topology.reroutes := by
  have fresh := writtenSince_self (pending_start topology calls)
  obtain ⟨committed, written, inMemory, inFile, same⟩ :=
    (fresh.run succeeded accepted).of_settled settled
  simp only [start, TopologyState.init, List.nil_append]
    at inMemory inFile
  rw [inMemory, inFile]
  exact same

/-- Where no commit overlaps a write, file and memory are the same list. -/
theorem file_eq_of_commitsAlone
    {topology : Topology}
    {calls : List (RerouteCall Score)}
    {events : List Event}
    {final : State Score}
    (accepted :
      Transition.run? step? (start topology calls) events = some final)
    (succeeded : ∀ event ∈ events, event.writeFails = false)
    (settled : final.pending = [])
    (alone :
      Transition.AllSteps step? CommitsAlone
        (start topology calls) events) :
    final.file = final.topology.reroutes := by
  have follows : Follows final :=
    Transition.run?_invariant_of_allSteps
      (fun held meets stepped => held.step meets.1 meets.2 stepped)
      (follows_start topology calls)
      ((Transition.allSteps_of_forall_mem
        (fun event member _ => succeeded event member) _).and alone)
      accepted
  have inOrder := follows.inOrder
  rwa [settled, List.append_nil] at inOrder

/--
The file of such a run can be replayed: on a fresh state its records give the
state the path manager was left in.
-/
theorem replay_file_of_commitsAlone
    {topology : Topology}
    {calls : List (RerouteCall Score)}
    {events : List Event}
    {final : State Score}
    (accepted :
      Transition.run? step? (start topology calls) events = some final)
    (succeeded : ∀ event ∈ events, event.writeFails = false)
    (settled : final.pending = [])
    (alone :
      Transition.AllSteps step? CommitsAlone
        (start topology calls) events) :
    (TopologyState.init topology).applyAll
        (final.file.map RerouteRecord.toRerouteRequest) =
      final.topology := by
  obtain ⟨requests, reached⟩ := topology_serial accepted
  have determined :
      final.topology.LedgerDetermines topology := by
    rw [reached]
    exact (TopologyState.ledgerDetermines_init topology).applyAll requests
  rw [file_eq_of_commitsAlone accepted succeeded settled alone]
  exact determined.replays.reproduces

/--
Once all calls have returned and no write failed, the file agrees with the
memory up to the order of records that were pending together.
-/
theorem file_agrees_with_memory
    {topology : Topology}
    {calls : List (RerouteCall Score)}
    {events : List Event}
    {final : State Score}
    (accepted :
      Transition.run? step? (start topology calls) events = some final)
    (finished : final.AllFinished)
    (succeeded : ∀ event ∈ events, event.writeFails = false) :
    FileAgrees topology calls events final where
  sameRecords :=
    file_perm_of_settled accepted succeeded
      (pending_of_allFinished finished)
  settledFirst before after middle shape reached settled := by
    rw [shape, Transition.run?_append, reached] at accepted
    have succeededBefore :
        ∀ event ∈ before, event.writeFails = false :=
      fun event member => succeeded event (by simp [shape, member])
    have succeededAfter :
        ∀ event ∈ after, event.writeFails = false :=
      fun event member => succeeded event (by simp [shape, member])
    exact ⟨file_perm_of_settled reached succeededBefore settled,
      ((writtenSince_self settled).run succeededAfter
        accepted).of_settled (pending_of_allFinished finished)⟩
  aloneInOrder alone :=
    file_eq_of_commitsAlone accepted succeeded
      (pending_of_allFinished finished) alone

section Runs

/-! A run in which the second move of a link is written before the first. -/

instance decidableAllFinished (state : State Score) :
    Decidable state.AllFinished :=
  inferInstanceAs (Decidable (∀ pooled ∈ state.calls, _))

/-- `L1` moves twice, the first time over REST and the second over gRPC. -/
def movedTwiceCalls : List (RerouteCall Nat) :=
  TopologyState.relocatingRequests.zipWith
    (fun request transport => ⟨transport, request⟩) [.rest, .grpc]

/-- Both commit before either writes, and the later commit writes first. -/
def overtakingEvents : List Event :=
  [.locked 0, .locked 1, .appended 1, .appended 0]

/-- The file holds the second move first. -/
theorem log_order_differs_from_memory :
    ¬ ∀ (topology : Topology) (calls : List (RerouteCall Nat))
        (events : List Event) (final : State Nat),
      Transition.run? step? (start topology calls) events = some final →
      final.AllFinished →
      (∀ event ∈ events, event.writeFails = false) →
      final.file = final.topology.reroutes := by
  intro claim
  have accepted :
      (Transition.run? step? (start Topology.config movedTwiceCalls)
        overtakingEvents).isSome := by
    decide
  have disagree :
      ∀ final ∈ Transition.run? step?
          (start Topology.config movedTwiceCalls) overtakingEvents,
        final.AllFinished ∧ final.file ≠ final.topology.reroutes := by
    decide
  obtain ⟨final, reached⟩ := Option.isSome_iff_exists.mp accepted
  obtain ⟨finished, different⟩ := disagree final reached
  exact different (claim Topology.config movedTwiceCalls
    overtakingEvents final reached finished (by decide))

/-- The same run meets every hypothesis of the agreement. -/
theorem file_agrees_with_memory_overtaking :
    ∃ final,
      Transition.run? step? (start Topology.config movedTwiceCalls)
          overtakingEvents = some final ∧
        final.file.length = 2 ∧
        FileAgrees Topology.config movedTwiceCalls
          overtakingEvents final := by
  have accepted :
      (Transition.run? step? (start Topology.config movedTwiceCalls)
        overtakingEvents).isSome := by
    decide
  have written :
      ∀ final ∈ Transition.run? step?
          (start Topology.config movedTwiceCalls) overtakingEvents,
        final.AllFinished ∧ final.file.length = 2 := by
    decide
  obtain ⟨final, reached⟩ := Option.isSome_iff_exists.mp accepted
  obtain ⟨finished, twoRecords⟩ := written final reached
  exact ⟨final, reached, twoRecords,
    file_agrees_with_memory reached finished (by decide)⟩

end Runs

end RerouteLog

end OpticsSoftfail
