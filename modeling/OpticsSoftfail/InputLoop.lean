import Mathlib.Logic.Function.Iterate

namespace OpticsSoftfail

/-!
# Loops over arriving input

Input arrives in pieces while a loop works on what is there.  What a state will
come to is a function of the input that is still to arrive.  When no event
changes it, the order of arrivals and iterations does not matter, and once all
the input is there enough iterations bring it about.
-/

namespace InputLoop

variable {State Event Input Result : Type}

/-- What is kept by each event is kept by all of them. -/
theorem foldl_outcome
    {react : State → Event → State}
    {arrives : Event → List Input}
    {outcome : State → List Input → Result}
    {Admits : State → List Input → Prop}
    (keeps :
      ∀ {state event future},
        Admits state (arrives event ++ future) →
          outcome (react state event) future =
              outcome state (arrives event ++ future) ∧
            Admits (react state event) future)
    {state : State}
    {events : List Event}
    (admits : Admits state (events.flatMap arrives)) :
    outcome (events.foldl react state) [] =
        outcome state (events.flatMap arrives) ∧
      Admits (events.foldl react state) [] := by
  induction events generalizing state with
  | nil =>
      exact ⟨rfl, admits⟩
  | cons event later inductionHypothesis =>
      rw [List.flatMap_cons] at admits ⊢
      obtain ⟨same, stillAdmits⟩ := keeps admits
      obtain ⟨continued, admitsNone⟩ := inductionHypothesis stillAdmits
      exact ⟨continued.trans same, admitsNone⟩

/--
A loop that stays where it has finished, and otherwise keeps the outcome and
finishes or has less left to do, finishes with the outcome.
-/
theorem iterate_finishes
    {iterate : State → State}
    {size : State → Nat}
    {outcome : State → Result}
    {Finished Admits : State → Prop}
    (rests : ∀ {state}, Finished state → iterate state = state)
    (works :
      ∀ {state},
        Admits state →
        ¬ Finished state →
          outcome (iterate state) = outcome state ∧
            (Finished (iterate state) ∨
              Admits (iterate state) ∧
                size (iterate state) < size state))
    {state : State}
    {count : Nat}
    (admits : Admits state)
    (enough : size state < count) :
    Finished (iterate^[count] state) ∧
      outcome (iterate^[count] state) = outcome state := by
  induction count generalizing state with
  | zero =>
      exact absurd enough (Nat.not_lt_zero _)
  | succ count inductionHypothesis =>
      by_cases finished : Finished state
      · rw [Function.iterate_fixed (rests finished)]
        exact ⟨finished, rfl⟩
      · obtain ⟨same, progress⟩ := works admits finished
        rw [Function.iterate_succ_apply, ← same]
        rcases progress with finishes | ⟨stillAdmits, less⟩
        · rw [Function.iterate_fixed (rests finishes)]
          exact ⟨finishes, rfl⟩
        · exact inductionHypothesis stillAdmits
            (Nat.lt_of_lt_of_le less (Nat.le_of_lt_succ enough))

end InputLoop

end OpticsSoftfail
