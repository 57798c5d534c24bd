import Mathlib.Algebra.Order.Ring.Rat
import Mathlib.Data.Rat.Floor
import Mathlib.Tactic.Linarith
import OpticsSoftfail.HealerHistory
import OpticsSoftfail.Transition

namespace OpticsSoftfail

namespace HealerThreads

/-!
# Overlapping observations

The endpoint runs `observe` in a thread pool, so calls may overlap.  Each call
is an atomic decision step; a call that decides to emit then waits for its REST
and its gRPC call and ends with an atomic commit step.  The state keeps every
call that went on to emit, with the stage it has reached.
-/

/-- How far an emitting call has come. -/
inductive Stage where
  | awaitingRest
  | awaitingGrpc (rest : EgressResult)
  | awaitingCommit (rest grpc : EgressResult)
  | committed (rest grpc : EgressResult)
  deriving Repr, DecidableEq

/-- The commit step has been taken. -/
def Stage.isCommitted : Stage → Bool
  | .committed .. => true
  | _ => false

/-- A call that passed all checks of `observe`. -/
structure EmittingCall (Score Time : Type) where
  observed : ObserveCall Score Time
  payload : RerouteRequest Score
  moment : Time
  stage : Stage
  deriving Repr, DecidableEq

/-- The link table and the emitting calls in the order of their decisions. -/
structure State (Score Time : Type) where
  links : Links Time
  calls : List (EmittingCall Score Time)
  deriving Repr, DecidableEq

/-- One atomic step of one of the calls. -/
inductive Event (Score Time : Type) where
  | observe (call : ObserveCall Score Time)
  | restReturns (index : Nat) (reply : RestReply)
  | grpcReturns (index : Nat) (reply : GrpcReply)
  | commit (index : Nat)
  deriving Repr, DecidableEq

variable {Score Time : Type}

/-- A healer that has observed nothing. -/
def initial : State Score Time where
  links := Dict.empty
  calls := []

/-- Put the call at an index into another stage. -/
def State.setStage
    (state : State Score Time)
    (index : Nat)
    (call : EmittingCall Score Time)
    (stage : Stage) : State Score Time :=
  { state with calls := state.calls.set index { call with stage := stage } }

section Step

variable
  [LT Score] [DecidableLT Score]
  [Field Time] [LinearOrder Time] [FloorRing Time]

/-- Perform one atomic step, if the call it belongs to has reached it. -/
def step?
    (healer : Healer Score Time)
    (state : State Score Time) :
    Event Score Time → Option (State Score Time)
  | .observe call =>
      let decided := healer.decideObservation state.links call
      match decided.2 with
      | .answer _ => some { state with links := decided.1 }
      | .emit payload moment =>
          some {
            links := decided.1
            calls := state.calls ++ [{
              observed := call
              payload := payload
              moment := moment
              stage := .awaitingRest }] }
  | .restReturns index reply =>
      match state.calls[index]? with
      | some call =>
          match call.stage with
          | .awaitingRest =>
              some (state.setStage index call
                (.awaitingGrpc (emitRest reply)))
          | _ => none
      | none => none
  | .grpcReturns index reply =>
      match state.calls[index]? with
      | some call =>
          match call.stage with
          | .awaitingGrpc rest =>
              some (state.setStage index call
                (.awaitingCommit rest (emitGrpc reply)))
          | _ => none
      | none => none
  | .commit index =>
      match state.calls[index]? with
      | some call =>
          match call.stage with
          | .awaitingCommit rest grpc =>
              some {
                state.setStage index call (.committed rest grpc) with
                links :=
                  Healer.commitEmission state.links
                    call.payload.linkId call.moment }
          | _ => none
      | none => none

/-- What one step can do. -/
inductive StepShape
    (healer : Healer Score Time)
    (state : State Score Time) :
    Event Score Time → State Score Time → Prop where
  /-- A decision answered at once. -/
  | answered
      (call : ObserveCall Score Time)
      (result : ObserveResult Score)
      (decided :
        (healer.decideObservation state.links call).2 =
          .answer result) :
      StepShape healer state (.observe call)
        { state with
          links := (healer.decideObservation state.links call).1 }
  /-- A decision to emit. -/
  | emits
      (call : ObserveCall Score Time)
      (payload : RerouteRequest Score)
      (moment : Time)
      (decided :
        (healer.decideObservation state.links call).2 =
          .emit payload moment) :
      StepShape healer state (.observe call) {
        links := (healer.decideObservation state.links call).1
        calls := state.calls ++ [⟨call, payload, moment, .awaitingRest⟩] }
  /-- The REST call of an emitting call ends. -/
  | restReturns
      (index : Nat)
      (reply : RestReply)
      (call : EmittingCall Score Time)
      (found : state.calls[index]? = some call)
      (waiting : call.stage = .awaitingRest) :
      StepShape healer state (.restReturns index reply)
        (state.setStage index call (.awaitingGrpc (emitRest reply)))
  /-- The gRPC call of an emitting call ends. -/
  | grpcReturns
      (index : Nat)
      (reply : GrpcReply)
      (call : EmittingCall Score Time)
      (rest : EgressResult)
      (found : state.calls[index]? = some call)
      (waiting : call.stage = .awaitingGrpc rest) :
      StepShape healer state (.grpcReturns index reply)
        (state.setStage index call
          (.awaitingCommit rest (emitGrpc reply)))
  /-- An emitting call commits. -/
  | commits
      (index : Nat)
      (call : EmittingCall Score Time)
      (rest grpc : EgressResult)
      (found : state.calls[index]? = some call)
      (waiting : call.stage = .awaitingCommit rest grpc) :
      StepShape healer state (.commit index) {
        state.setStage index call (.committed rest grpc) with
        links :=
          Healer.commitEmission state.links
            call.payload.linkId call.moment }

/-- Every accepted step has one of the five shapes. -/
theorem step?_shape
    {healer : Healer Score Time}
    {state next : State Score Time}
    {event : Event Score Time}
    (stepped : step? healer state event = some next) :
    StepShape healer state event next := by
  cases event with
  | observe call =>
      cases decided :
          (healer.decideObservation state.links call).2 with
      | answer result =>
          simp only [step?, decided, Option.some.injEq] at stepped
          subst next
          exact .answered call result decided
      | emit payload moment =>
          simp only [step?, decided, Option.some.injEq] at stepped
          subst next
          exact .emits call payload moment decided
  | restReturns index reply =>
      simp only [step?] at stepped
      split at stepped
      · rename_i call found
        split at stepped
        · rename_i waiting
          cases stepped
          exact .restReturns index reply call found waiting
        · cases stepped
      · cases stepped
  | grpcReturns index reply =>
      simp only [step?] at stepped
      split at stepped
      · rename_i call found
        split at stepped
        · rename_i rest waiting
          cases stepped
          exact .grpcReturns index reply call rest found waiting
        · cases stepped
      · cases stepped
  | commit index =>
      simp only [step?] at stepped
      split at stepped
      · rename_i call found
        split at stepped
        · rename_i rest grpc waiting
          cases stepped
          exact .commits index call rest grpc found waiting
        · cases stepped
      · cases stepped

/-- The steps of one call, taken without interruption. -/
def uninterrupted
    (healer : Healer Score Time)
    (state : State Score Time)
    (call : ObserveCall Score Time) : List (Event Score Time) :=
  match (healer.decideObservation state.links call).2 with
  | .answer _ => [.observe call]
  | .emit .. =>
      [.observe call,
        .restReturns state.calls.length call.rest,
        .grpcReturns state.calls.length call.grpc,
        .commit state.calls.length]

/-- A call whose steps are not interrupted leaves what `observe` leaves. -/
theorem run?_uninterrupted
    (healer : Healer Score Time)
    (state : State Score Time)
    (call : ObserveCall Score Time) :
    ∃ next,
      Transition.run? (step? healer) state
          (uninterrupted healer state call) = some next ∧
        next.links = (healer.observe state.links call).1 := by
  cases decided : (healer.decideObservation state.links call).2 with
  | answer result =>
      refine ⟨{ state with
        links := (healer.decideObservation state.links call).1 },
        ?_, ?_⟩
      · simp [uninterrupted, Transition.run?, step?, decided]
      · rw [Healer.observe_of_answer decided]
  | emit payload moment =>
      obtain ⟨_, _, _, _, _, _, _, isPayload, _⟩ :=
        Healer.decide_emit_iff.mp decided
      have sameLink : payload.linkId = call.observation.linkId := by
        rw [isPayload]
        rfl
      refine ⟨{
        links :=
          Healer.commitEmission
            (healer.decideObservation state.links call).1
            payload.linkId moment
        calls := state.calls ++ [{
          observed := call
          payload := payload
          moment := moment
          stage :=
            .committed (emitRest call.rest) (emitGrpc call.grpc) }] },
        ?_, ?_⟩
      · simp [uninterrupted, Transition.run?, step?, decided,
          State.setStage]
      · rw [Healer.observe_of_emit decided, sameLink]

end Step

/-- An element may be replaced by one that is related at least as well. -/
theorem pairwise_set
    {Item : Type}
    {related : Item → Item → Prop}
    {items : List Item}
    {index : Nat}
    {old new : Item}
    (pairwise : items.Pairwise related)
    (found : items[index]? = some old)
    (leftStays : ∀ other, related other old → related other new)
    (rightStays : ∀ other, related old other → related new other) :
    (items.set index new).Pairwise related := by
  induction items generalizing index with
  | nil =>
      simp at found
  | cons head rest inductionHypothesis =>
      obtain ⟨headRelated, restPairwise⟩ :=
        List.pairwise_cons.mp pairwise
      cases index with
      | zero =>
          simp only [List.getElem?_cons_zero,
            Option.some.injEq] at found
          subst old
          rw [List.set_cons_zero, List.pairwise_cons]
          exact ⟨fun other member =>
            rightStays other (headRelated other member), restPairwise⟩
      | succ index =>
          simp only [List.getElem?_cons_succ] at found
          rw [List.set_cons_succ, List.pairwise_cons]
          refine ⟨?_, inductionHypothesis restPairwise found⟩
          intro other member
          rcases List.mem_or_eq_of_mem_set member with inRest | isNew
          · exact headRelated other inRest
          · subst other
            exact leftStays head
              (headRelated old (List.mem_of_getElem? found))

section Apart

variable [Field Time] [LinearOrder Time] [FloorRing Time]

/--
Two observation times at least a hold-off apart, in either order, as the doubles
are subtracted.
-/
def Apart (hysteresis first second : Time) : Prop :=
  hysteresis ≤ Binary64.sub second first ∨
    hysteresis ≤ Binary64.sub first second

/-- Any two emissions of one link are the hold-off apart. -/
def EmissionsApart
    (healer : Healer Score Time)
    (state : State Score Time) : Prop :=
  state.calls.Pairwise fun first second =>
    first.payload.linkId = second.payload.linkId →
    Apart healer.thresholds.hysteresisS
      (Healer.observationTime first.observed)
      (Healer.observationTime second.observed)

instance decidableApart
    (hysteresis first second : Time) :
    Decidable (Apart hysteresis first second) :=
  inferInstanceAs (Decidable (_ ∨ _))

instance decidableEmissionsApart
    (healer : Healer Score Time)
    (state : State Score Time) :
    Decidable (EmissionsApart healer state) :=
  inferInstanceAs (Decidable (List.Pairwise _ _))

end Apart

section Serial

variable [Field Time] [LinearOrder Time] [FloorRing Time]

/-- An earlier emission of the same link is committed and a hold-off older. -/
def Precedes
    (healer : Healer Score Time)
    (first second : EmittingCall Score Time) : Prop :=
  first.payload.linkId = second.payload.linkId →
  first.stage.isCommitted = true ∧
    healer.thresholds.hysteresisS ≤
      Binary64.sub second.moment first.moment

/-- What serial runs maintain. -/
structure SerialState
    (healer : Healer Score Time)
    (state : State Score Time) : Prop where
  ordered : state.calls.Pairwise (Precedes healer)
  /-- With nothing pending, the stored time bounds every emission time. -/
  stored :
    ∀ linkId,
      (∀ call ∈ state.calls,
        call.payload.linkId = linkId →
        call.stage.isCommitted = true) →
      ∀ call ∈ state.calls,
        call.payload.linkId = linkId →
        ∃ last,
          (Healer.linkState state.links linkId).lastRerouteTs =
              some last ∧
            call.moment ≤ last
  timed :
    ∀ call ∈ state.calls,
      call.moment = Healer.observationTime call.observed

theorem serialState_initial (healer : Healer Score Time) :
    SerialState healer initial where
  ordered := List.Pairwise.nil
  stored := by
    intro linkId _ call member
    simp [initial] at member
  timed := by
    intro call member
    simp [initial] at member

/-- Moving a call to another stage leaves its times alone. -/
theorem timed_setStage
    {state : State Score Time}
    {index : Nat}
    {call : EmittingCall Score Time}
    {stage : Stage}
    (timed :
      ∀ call ∈ state.calls,
        call.moment = Healer.observationTime call.observed)
    (found : state.calls[index]? = some call) :
    ∀ other ∈ (state.setStage index call stage).calls,
      other.moment = Healer.observationTime other.observed := by
  intro other member
  rcases List.mem_or_eq_of_mem_set member with wasThere | isMoved
  · exact timed other wasThere
  · subst other
    exact timed call (List.mem_of_getElem? found)

/-- Moving a call to another stage keeps the order of the emissions. -/
theorem ordered_setStage
    {healer : Healer Score Time}
    {state : State Score Time}
    {index : Nat}
    {call : EmittingCall Score Time}
    {stage : Stage}
    (ordered : state.calls.Pairwise (Precedes healer))
    (found : state.calls[index]? = some call)
    (pending : call.stage.isCommitted = false) :
    (state.setStage index call stage).calls.Pairwise
      (Precedes healer) := by
  apply pairwise_set ordered found
  · intro other precedes sameLink
    exact precedes sameLink
  · intro other precedes sameLink
    have committed := (precedes sameLink).1
    rw [pending] at committed
    cases committed

/-- Moving a call between pending stages keeps the invariant. -/
theorem SerialState.setStage
    {healer : Healer Score Time}
    {state : State Score Time}
    (serial : SerialState healer state)
    {index : Nat}
    {call : EmittingCall Score Time}
    {stage : Stage}
    (found : state.calls[index]? = some call)
    (pending : call.stage.isCommitted = false)
    (stillPending : stage.isCommitted = false) :
    SerialState healer (state.setStage index call stage) where
  ordered := ordered_setStage serial.ordered found pending
  timed := timed_setStage serial.timed found
  stored := by
    intro linkId allCommitted other member ofLink
    have moved :
        { call with stage := stage } ∈
          (state.setStage index call stage).calls :=
      List.mem_of_getElem? (i := index) (by
        simp only [State.setStage]
        rw [List.getElem?_set_self
          (List.getElem?_eq_some_iff.mp found).1])
    have differentLink : call.payload.linkId ≠ linkId := by
      intro sameLink
      have committed := allCommitted _ moved sameLink
      simp only at committed
      rw [stillPending] at committed
      cases committed
    have wasCommitted :
        ∀ old ∈ state.calls,
          old.payload.linkId = linkId →
          old.stage.isCommitted = true := by
      intro old oldMember oldLink
      obtain ⟨position, atPosition⟩ := List.getElem?_of_mem oldMember
      have elsewhere : index ≠ position := by
        rintro rfl
        rw [found] at atPosition
        cases atPosition
        exact differentLink oldLink
      apply allCommitted old
      · apply List.mem_of_getElem? (i := position)
        simp only [State.setStage]
        rw [List.getElem?_set_ne elsewhere, atPosition]
      · exact oldLink
    rcases List.mem_or_eq_of_mem_set member with wasThere | isMoved
    · exact serial.stored linkId wasCommitted other wasThere ofLink
    · subst other
      exact (differentLink ofLink).elim

/-- A pending call is not older than any emission of its link. -/
theorem SerialState.pending_latest
    [IsStrictOrderedRing Time]
    {healer : Healer Score Time}
    (nonnegative : 0 ≤ healer.thresholds.hysteresisS)
    {state : State Score Time}
    (serial : SerialState healer state)
    {pending other : EmittingCall Score Time}
    (pendingMember : pending ∈ state.calls)
    (otherMember : other ∈ state.calls)
    (sameLink : other.payload.linkId = pending.payload.linkId)
    (uncommitted : pending.stage.isCommitted = false) :
    other.moment ≤ pending.moment := by
  let bounded (first second : EmittingCall Score Time) : Prop :=
    first.payload.linkId = second.payload.linkId →
    second.stage.isCommitted = false →
    first.moment ≤ second.moment
  have forwards : state.calls.Pairwise bounded := by
    apply serial.ordered.imp
    intro first second precedes same _
    have apart := (precedes same).2
    exact Binary64.sub_nonneg_iff.mp (nonnegative.trans apart)
  have backwards : state.calls.Pairwise (flip bounded) := by
    apply serial.ordered.imp
    intro first second precedes same uncommittedFirst
    have committed := (precedes same.symm).1
    rw [uncommittedFirst] at committed
    cases committed
  exact List.Pairwise.forall_of_forall_of_flip
    (fun _ _ _ _ => le_rfl) forwards backwards
    otherMember pendingMember sameLink uncommitted

/-- The commit of the pending call keeps the invariant. -/
theorem SerialState.commits
    [IsStrictOrderedRing Time]
    {healer : Healer Score Time}
    (nonnegative : 0 ≤ healer.thresholds.hysteresisS)
    {state : State Score Time}
    (serial : SerialState healer state)
    {index : Nat}
    {call : EmittingCall Score Time}
    {rest grpc : EgressResult}
    (found : state.calls[index]? = some call)
    (pending : call.stage.isCommitted = false) :
    SerialState healer {
      state.setStage index call (.committed rest grpc) with
      links :=
        Healer.commitEmission state.links
          call.payload.linkId call.moment } := by
  have member : call ∈ state.calls := List.mem_of_getElem? found
  refine { ordered := ordered_setStage serial.ordered found pending,
           stored := ?_,
           timed := timed_setStage serial.timed found }
  intro linkId committed other otherMember ofLink
  by_cases isLink : linkId = call.payload.linkId
  · subst isLink
    rw [Healer.linkState_commit_same]
    refine ⟨call.moment, rfl, ?_⟩
    rcases List.mem_or_eq_of_mem_set otherMember with wasThere | isMoved
    · exact serial.pending_latest nonnegative member wasThere
        ofLink pending
    · subst other
      exact le_rfl
  · rw [Healer.linkState_commit_other isLink]
    have wasThere : other ∈ state.calls := by
      rcases List.mem_or_eq_of_mem_set otherMember with
        wasThere | isMoved
      · exact wasThere
      · subst other
        exact (isLink ofLink.symm).elim
    refine serial.stored linkId ?_ other wasThere ofLink
    intro old oldMember oldLink
    obtain ⟨position, atPosition⟩ := List.getElem?_of_mem oldMember
    have elsewhere : index ≠ position := by
      rintro rfl
      rw [found] at atPosition
      cases atPosition
      exact isLink oldLink.symm
    apply committed old _ oldLink
    apply List.mem_of_getElem? (i := position)
    simp only [State.setStage]
    rw [List.getElem?_set_ne elsewhere, atPosition]

end Serial

section SerialRuns

variable
  [LT Score] [DecidableLT Score]
  [Field Time] [LinearOrder Time] [FloorRing Time]

/--
The step is not a decision to emit for a link that has an emission between its
decision and its commit.
-/
def SerialStep
    (healer : Healer Score Time)
    (state : State Score Time) :
    Event Score Time → Prop
  | .observe call =>
      match (healer.decideObservation state.links call).2 with
      | .answer _ => True
      | .emit .. =>
          ∀ pending ∈ state.calls,
            pending.payload.linkId = call.observation.linkId →
            pending.stage.isCommitted = true
  | _ => True

instance decidableSerialStep
    (healer : Healer Score Time)
    (state : State Score Time)
    (event : Event Score Time) :
    Decidable (SerialStep healer state event) := by
  unfold SerialStep
  split
  · split <;> infer_instance
  · infer_instance

/-- A decision leaves every stored reroute time alone. -/
theorem lastRerouteTs_decide
    (healer : Healer Score Time)
    (links : Links Time)
    (call : ObserveCall Score Time)
    (linkId : String) :
    (Healer.linkState (healer.decideObservation links call).1
        linkId).lastRerouteTs =
      (Healer.linkState links linkId).lastRerouteTs := by
  by_cases ofLink : linkId = call.observation.linkId
  · subst ofLink
    rw [Healer.linkState_decide_same]
  · rw [Healer.linkState_decide_other healer links call ofLink]

/-- A decision answered at once keeps the invariant. -/
theorem SerialState.answered
    {healer : Healer Score Time}
    {state : State Score Time}
    (serial : SerialState healer state)
    (call : ObserveCall Score Time) :
    SerialState healer { state with
      links := (healer.decideObservation state.links call).1 } where
  ordered := serial.ordered
  timed := serial.timed
  stored := by
    intro linkId allCommitted other member ofLink
    rw [lastRerouteTs_decide]
    exact serial.stored linkId allCommitted other member ofLink

variable [IsStrictOrderedRing Time]

/-- A serial decision to emit keeps the invariant. -/
theorem SerialState.emits
    {healer : Healer Score Time}
    {state : State Score Time}
    (serial : SerialState healer state)
    {call : ObserveCall Score Time}
    {payload : RerouteRequest Score}
    {moment : Time}
    (decided :
      (healer.decideObservation state.links call).2 =
        .emit payload moment)
    (alone : SerialStep healer state (.observe call)) :
    SerialState healer {
      links := (healer.decideObservation state.links call).1
      calls := state.calls ++ [⟨call, payload, moment, .awaitingRest⟩] } := by
  obtain ⟨_, _, rested, _, _, _, _, isPayload, isNow⟩ :=
    Healer.decide_emit_iff.mp decided
  have sameLink : payload.linkId = call.observation.linkId := by
    rw [isPayload]
    rfl
  have allCommitted :
      ∀ pending ∈ state.calls,
        pending.payload.linkId = call.observation.linkId →
        pending.stage.isCommitted = true := by
    simpa [SerialStep, decided] using alone
  refine { ordered := ?_, stored := ?_, timed := ?_ }
  · rw [List.pairwise_append]
    refine ⟨serial.ordered, by simp, ?_⟩
    intro earlier member new isNew ofLink
    simp only [List.mem_singleton] at isNew
    subst new
    simp only at ofLink
    -- The stored time bounds all earlier ones and is a hold-off old.
    obtain ⟨last, isStored, bounded⟩ :=
      serial.stored call.observation.linkId allCommitted
        earlier member (ofLink.trans sameLink)
    have old := Healer.heldOff_eq_false_iff.mp rested last isStored
    refine ⟨allCommitted earlier member (ofLink.trans sameLink), ?_⟩
    simp only [isNow]
    exact old.trans (Binary64.sub_anti bounded)
  · intro linkId committed other member ofLink
    have differentLink : payload.linkId ≠ linkId := by
      intro newLink
      have pending := committed
        ⟨call, payload, moment, .awaitingRest⟩ (by simp) newLink
      cases pending
    rcases List.mem_append.mp member with wasThere | isNew
    · rw [lastRerouteTs_decide]
      exact serial.stored linkId
        (fun old oldMember =>
          committed old (List.mem_append_left _ oldMember))
        other wasThere ofLink
    · simp only [List.mem_singleton] at isNew
      subst other
      exact (differentLink ofLink).elim
  · intro other member
    rcases List.mem_append.mp member with wasThere | isNew
    · exact serial.timed other wasThere
    · simp only [List.mem_singleton] at isNew
      subst other
      exact isNow.trans (Healer.now_eq_observationTime call)

/-- Every serial step keeps the invariant. -/
theorem SerialState.step
    {healer : Healer Score Time}
    (nonnegative : 0 ≤ healer.thresholds.hysteresisS)
    {state next : State Score Time}
    {event : Event Score Time}
    (serial : SerialState healer state)
    (meets : SerialStep healer state event)
    (stepped : step? healer state event = some next) :
    SerialState healer next := by
  cases step?_shape stepped with
  | answered call result decided =>
      exact serial.answered call
  | emits call payload moment decided =>
      exact serial.emits decided meets
  | restReturns index reply call found waiting =>
      exact serial.setStage found (by rw [waiting]; rfl) rfl
  | grpcReturns index reply call rest found waiting =>
      exact serial.setStage found (by rw [waiting]; rfl) rfl
  | commits index call rest grpc found waiting =>
      exact serial.commits nonnegative found (by rw [waiting]; rfl)

/--
In every run in which no decision to emit is taken while another emission of
the same link is uncommitted, any two emissions of a link are the hold-off
apart.
-/
theorem serial_emissions_are_apart
    (healer : Healer Score Time)
    (events : List (Event Score Time))
    (state : State Score Time)
    (accepted :
      Transition.run? (step? healer) initial events = some state)
    (serial :
      Transition.AllSteps (step? healer) (SerialStep healer)
        initial events) :
    EmissionsApart healer state := by
  rcases le_total 0 healer.thresholds.hysteresisS with
    nonnegative | nonpositive
  · have final : SerialState healer state :=
      Transition.run?_invariant_of_allSteps
        (fun holds meets stepped =>
          SerialState.step nonnegative holds meets stepped)
        (serialState_initial healer) serial accepted
    apply final.ordered.imp_of_mem
    intro first second firstMember secondMember precedes sameLink
    rw [← final.timed first firstMember, ← final.timed second secondMember]
    exact Or.inl (precedes sameLink).2
  · -- Any two times are a nonpositive hold-off apart.
    apply List.pairwise_of_forall
    intro first second _
    rcases le_total (Healer.observationTime first.observed)
        (Healer.observationTime second.observed) with earlier | later
    · exact Or.inl
        (nonpositive.trans (Binary64.sub_nonneg_iff.mpr earlier))
    · exact Or.inr
        (nonpositive.trans (Binary64.sub_nonneg_iff.mpr later))

end SerialRuns

section Runs

/-! Two runs of the committed configuration, with the default thresholds. -/

open Healer

/-- The fourth window is observed while the third one's egress is pending. -/
def overlappingEvents : List (Event Rat Rat) :=
  [.observe (failingCall 0), .observe (failingCall 1),
    .observe (failingCall 2), .observe (failingCall 3)]

/-- The third window's emission is committed before the hold-off ends. -/
def serialEvents : List (Event Rat Rat) :=
  [.observe (failingCall 0), .observe (failingCall 1),
    .observe (failingCall 2),
    .restReturns 0 (.exception "timeout"),
    .grpcReturns 0 (.exception "timeout"),
    .commit 0,
    .observe (failingCall 3), .observe (failingCall 302)]

/-- Two emissions one second apart, both from decisions made before a commit. -/
theorem overlapping_observations_emit_twice :
    ¬ ∀ (healer : Healer Rat Rat)
        (events : List (Event Rat Rat))
        (state : State Rat Rat),
      Transition.run? (step? healer) initial events = some state →
      EmissionsApart healer state := by
  intro claim
  have accepted :
      (Transition.run? (step? configHealer) initial
        overlappingEvents).isSome := by
    decide +kernel
  have tooClose :
      ∀ state ∈ Transition.run? (step? configHealer) initial
          overlappingEvents,
        ¬ EmissionsApart configHealer state := by
    decide +kernel
  obtain ⟨state, reached⟩ := Option.isSome_iff_exists.mp accepted
  exact tooClose state reached
    (claim configHealer overlappingEvents state reached)

/-- A serial run with two emissions, three hundred seconds apart. -/
theorem serial_emissions_are_apart_config :
    ∃ state,
      Transition.run? (step? configHealer) initial serialEvents =
          some state ∧
        state.calls.length = 2 ∧
        EmissionsApart configHealer state := by
  have accepted :
      (Transition.run? (step? configHealer) initial
        serialEvents).isSome := by
    decide +kernel
  have twoCalls :
      ∀ state ∈ Transition.run? (step? configHealer) initial
          serialEvents,
        state.calls.length = 2 := by
    decide +kernel
  obtain ⟨state, reached⟩ := Option.isSome_iff_exists.mp accepted
  exact ⟨state, reached, twoCalls state reached,
    serial_emissions_are_apart configHealer serialEvents state
      reached (by decide +kernel)⟩

end Runs

end HealerThreads

end OpticsSoftfail
