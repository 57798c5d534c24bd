import OpticsSoftfail.InferTasks

namespace OpticsSoftfail

namespace InferCounters

open InferTasks

/-!
# The counters of infer

`InferRunner` counts the frames it has scored and the lines it has dropped.
Each stage of `handle_line` can fail, and each has an `except` clause of its
own.
-/

/-- The exceptions of `json.loads`. -/
inductive LoadsException where
  | jsonDecodeError
  /-- An integer literal beyond the interpreter's limit of digits. -/
  | valueError
  /-- Containers nested too deeply. -/
  | recursionError
  deriving Repr, DecidableEq

/-- What infer takes from the interpreter. -/
structure Interpreter (Value : Type) where
  /-- `json.loads`. -/
  loads : List Char → Except LoadsException (Json Value)
  /-- `str` of a value that is not a string. -/
  strOther : Json Value → String

/-- The clause `except json.JSONDecodeError` catches one of the three. -/
def Interpreter.decoder
    {Value : Type}
    (python : Interpreter Value) : Decoder Value where
  loads line :=
    match python.loads line with
    | .ok doc => .value doc
    | .error .jsonDecodeError => .decodeError
    | .error _ => .raised
  strOther := python.strOther

/-- How the request to the healer ends. -/
inductive PostReply where
  | responded (statusCode : Nat)
  | raised
  deriving Repr, DecidableEq

/-- What happens to a line after it has been decoded. -/
structure LineResults (Score : Type) where
  /-- What `score_frame` returns; `none` is any exception. -/
  score : Option (FrameScore Score)
  reply : PostReply
  deriving Repr, DecidableEq

/-- The counters of `InferRunner`, and whether it has an HTTP client. -/
structure InferRunner where
  frames : Nat
  dropped : Nat
  posted : Nat
  hasClient : Bool
  deriving Repr, DecidableEq

variable {Value Score : Type}

namespace InferRunner

/-- `post_observation`; it catches every exception. -/
def postObservation (runner : InferRunner) (reply : PostReply) : InferRunner :=
  if runner.hasClient then
    match reply with
    | .responded _ => { runner with posted := runner.posted + 1 }
    | .raised => runner
  else
    runner

/-- `handle_line`; without a result an exception has left it. -/
def handleLine
    (python : Interpreter Value)
    (runner : InferRunner)
    (line : List Char)
    (results : LineResults Score) :
    InferRunner × Option (Option (Observation Score)) :=
  match python.decoder.handleLine line with
  | .raised => (runner, none)
  | .dropped => ({ runner with dropped := runner.dropped + 1 }, some none)
  | .frame frame =>
      match results.score with
      | none => ({ runner with dropped := runner.dropped + 1 }, some none)
      | some score =>
          let counted := { runner with frames := runner.frames + 1 }
          let observation :=
            InferTasks.Task.observation python.decoder frame score
          (counted.postObservation results.reply, some (some observation))

@[simp] theorem frames_postObservation
    (runner : InferRunner)
    (reply : PostReply) :
    (runner.postObservation reply).frames = runner.frames := by
  unfold postObservation
  split
  · cases reply <;> rfl
  · rfl

@[simp] theorem dropped_postObservation
    (runner : InferRunner)
    (reply : PostReply) :
    (runner.postObservation reply).dropped = runner.dropped := by
  unfold postObservation
  split
  · cases reply <;> rfl
  · rfl

/-- Exactly one of the two counters has been raised, by one. -/
def CountsOnce (before after : InferRunner) : Prop :=
  (after.frames = before.frames + 1 ∧ after.dropped = before.dropped) ∨
    (after.frames = before.frames ∧ after.dropped = before.dropped + 1)

/-- `json.loads` returns a value, or raises what the clause catches. -/
def Decodes (python : Interpreter Value) (line : List Char) : Prop :=
  ∀ exception,
    python.loads line = .error exception → exception = .jsonDecodeError

theorem decodes_iff
    {python : Interpreter Value}
    {line : List Char} :
    Decodes python line ↔ python.decoder.handleLine line ≠ .raised := by
  simp only [Decodes, Decoder.handleLine, Interpreter.decoder]
  cases python.loads line with
  | ok doc =>
      dsimp only
      split <;> simp
  | error exception =>
      cases exception <;> simp

/-- `handle_line` returns exactly for the lines that decode. -/
theorem handleLine_returns_iff
    {python : Interpreter Value}
    {runner : InferRunner}
    {line : List Char}
    {results : LineResults Score} :
    (runner.handleLine python line results).2.isSome = true ↔
      Decodes python line := by
  rw [decodes_iff, handleLine]
  cases python.decoder.handleLine line with
  | raised =>
      simp
  | dropped =>
      simp
  | frame frame =>
      cases results.score <;> simp

/-- A line that decodes is counted once, however its later stages end. -/
theorem handleLine_countsOnce
    {python : Interpreter Value}
    {line : List Char}
    (decodes : Decodes python line)
    (runner : InferRunner)
    (results : LineResults Score) :
    CountsOnce runner (runner.handleLine python line results).1 := by
  have noneRaised := decodes_iff.mp decodes
  rw [handleLine]
  cases handled : python.decoder.handleLine line with
  | raised =>
      exact absurd handled noneRaised
  | dropped =>
      exact Or.inr ⟨rfl, rfl⟩
  | frame frame =>
      cases results.score with
      | none =>
          exact Or.inr ⟨rfl, rfl⟩
      | some score =>
          exact Or.inl
            ⟨frames_postObservation _ _, dropped_postObservation _ _⟩

end InferRunner

/-- The interpreter refuses integers of more than 4300 digits. -/
def digitLimit : Interpreter Rat where
  loads line :=
    if line.length ≤ 4300 then .ok (.number (.finite 1))
    else .error .valueError
  strOther _ := ""

/-- A runner that has counted nothing. -/
def freshRunner : InferRunner :=
  ⟨0, 0, 0, true⟩

end InferCounters

end OpticsSoftfail
