import Mathlib.Data.List.Basic

namespace OpticsSoftfail

/-!
# Runs of partial transition functions

A system is given by a step function that may refuse an event.  The rules below
carry a property from single steps to whole runs: for every run, and for the
runs all of whose steps meet a condition on the state and the event.
-/

namespace Transition

variable {State Event : Type}

/-- Perform the events in order; a refused event refuses the run. -/
def run?
    (step? : State → Event → Option State) :
    State → List Event → Option State
  | state, [] => some state
  | state, event :: rest =>
      match step? state event with
      | none => none
      | some next => run? step? next rest

variable {step? : State → Event → Option State}

@[simp] theorem run?_nil (state : State) :
    run? step? state [] = some state :=
  rfl

/-- The first step of an accepted run. -/
theorem run?_cons_eq_some_iff
    {state final : State}
    {event : Event}
    {rest : List Event} :
    run? step? state (event :: rest) = some final ↔
      ∃ next,
        step? state event = some next ∧
          run? step? next rest = some final := by
  cases stepped : step? state event with
  | none =>
      simp [run?, stepped]
  | some next =>
      simp [run?, stepped]

/-- A run is refused when its first part is. -/
theorem run?_append
    (state : State)
    (first second : List Event) :
    run? step? state (first ++ second) =
      (run? step? state first).bind fun middle =>
        run? step? middle second := by
  induction first generalizing state with
  | nil =>
      rfl
  | cons event rest inductionHypothesis =>
      cases stepped : step? state event with
      | none =>
          simp [run?, stepped]
      | some next =>
          simp [run?, stepped, inductionHypothesis]

/-- Every step of the run meets a condition on its state and its event. -/
def AllSteps
    (step? : State → Event → Option State)
    (condition : State → Event → Prop) :
    State → List Event → Prop
  | _, [] => True
  | state, event :: rest =>
      condition state event ∧
        match step? state event with
        | none => True
        | some next => AllSteps step? condition next rest

/-- The condition on whole runs is decided by performing the run. -/
instance decidableAllSteps
    (step? : State → Event → Option State)
    (condition : State → Event → Prop)
    [∀ state event, Decidable (condition state event)] :
    (state : State) → (events : List Event) →
      Decidable (AllSteps step? condition state events)
  | _, [] => isTrue trivial
  | state, event :: rest =>
      match stepped : step? state event with
      | none =>
          decidable_of_iff (condition state event) (by
            simp [AllSteps, stepped])
      | some next =>
          have := decidableAllSteps step? condition next rest
          decidable_of_iff
            (condition state event ∧
              AllSteps step? condition next rest) (by
            simp [AllSteps, stepped])

theorem allSteps_cons_of_some
    {condition : State → Event → Prop}
    {state next : State}
    {event : Event}
    {rest : List Event}
    (meets : AllSteps step? condition state (event :: rest))
    (stepped : step? state event = some next) :
    condition state event ∧ AllSteps step? condition next rest := by
  simpa [AllSteps, stepped] using meets

/-- A condition every event of the run meets in any state. -/
theorem allSteps_of_forall_mem
    {condition : State → Event → Prop}
    {events : List Event}
    (meets : ∀ event ∈ events, ∀ state, condition state event)
    (state : State) :
    AllSteps step? condition state events := by
  induction events generalizing state with
  | nil =>
      trivial
  | cons event rest inductionHypothesis =>
      refine ⟨meets event (by simp) state, ?_⟩
      split
      · trivial
      · exact inductionHypothesis
          (fun later member => meets later (by simp [member])) _

/-- Two conditions met by every step are met together. -/
theorem AllSteps.and
    {first second : State → Event → Prop}
    {state : State}
    {events : List Event}
    (meetsFirst : AllSteps step? first state events)
    (meetsSecond : AllSteps step? second state events) :
    AllSteps step?
      (fun current event => first current event ∧ second current event)
      state events := by
  induction events generalizing state with
  | nil =>
      trivial
  | cons event rest inductionHypothesis =>
      refine ⟨⟨meetsFirst.1, meetsSecond.1⟩, ?_⟩
      cases stepped : step? state event with
      | none =>
          trivial
      | some next =>
          exact inductionHypothesis
            (allSteps_cons_of_some meetsFirst stepped).2
            (allSteps_cons_of_some meetsSecond stepped).2

/--
A property kept by the steps that meet a condition holds after every run all of
whose steps meet it.
-/
theorem run?_invariant_of_allSteps
    {condition : State → Event → Prop}
    {property : State → Prop}
    (preserved :
      ∀ {state event next},
        property state →
        condition state event →
        step? state event = some next →
        property next)
    {state final : State}
    {events : List Event}
    (holds : property state)
    (meets : AllSteps step? condition state events)
    (accepted : run? step? state events = some final) :
    property final := by
  induction events generalizing state with
  | nil =>
      simp only [run?_nil, Option.some.injEq] at accepted
      subst final
      exact holds
  | cons event rest inductionHypothesis =>
      obtain ⟨next, stepped, later⟩ :=
        run?_cons_eq_some_iff.mp accepted
      obtain ⟨meetsFirst, meetsLater⟩ :=
        allSteps_cons_of_some meets stepped
      exact inductionHypothesis
        (preserved holds meetsFirst stepped) meetsLater later

/-- A property kept by every step holds after every run. -/
theorem run?_invariant
    {property : State → Prop}
    (preserved :
      ∀ {state event next},
        property state →
        step? state event = some next →
        property next)
    {state final : State}
    {events : List Event}
    (holds : property state)
    (accepted : run? step? state events = some final) :
    property final := by
  have unconditional : AllSteps step? (fun _ _ => True) state events :=
    allSteps_of_forall_mem (fun _ _ _ => trivial) state
  exact run?_invariant_of_allSteps
    (fun before _ stepped => preserved before stepped) holds unconditional
    accepted

end Transition

end OpticsSoftfail
